import OriginServer.Pattern.Brackets
import OriginServer.Unicode.Property

/-!
# Reading patterns

`Tree.read` reads a whole pattern. The reader walks the characters once and keeps the groups that
are still open, the innermost first; a closing parenthesis ends the innermost one. A pattern that is
nested too deeply is refused.
-/
namespace OriginServer.Pattern

/-- A group whose closing parenthesis was not reached yet, with what the reader was about when it
met the group. -/
structure OpenGroup where
  /-- Whether what the group matches is remembered. -/
  capturing : Bool
  /-- The flags that the group switches. -/
  change : FlagChange
  /-- The alternatives before the one that holds the group, in reverse. -/
  branches : List Tree
  /-- The parts before the group, in reverse. -/
  parts : List Tree
  /-- Whether blanks were ignored before the group. -/
  ignoring : Bool
  deriving Repr

/-- What a reader knows while it reads a pattern. -/
structure Reader where
  /-- The open groups, the innermost first. -/
  outer : List OpenGroup
  /-- The alternatives that are complete, in reverse. -/
  branches : List Tree
  /-- The parts of the current alternative, in reverse. -/
  parts : List Tree
  /-- Whether blanks are ignored. -/
  ignoring : Bool
  /-- The names of groups so far. -/
  names : List (List Char)
  deriving Repr

/-- The flag with a letter. -/
def flag? : Char → Option Flag
  | 'i' => some .ignoreCase
  | 'm' => some .multiLine
  | 's' => some .dotAll
  | 'U' => some .swapGreed
  | 'u' => some .unicode
  | 'R' => some .carriageReturns
  | 'x' => some .ignoreBlanks
  | _ => none

/-- The flags of a group or a directive and the character that ends them, a colon or a closing
parenthesis. No flag may stand twice; a hyphen may stand once, and a flag has to follow it. -/
def readFlags (negated dangling : Bool) (change : FlagChange) :
    List Char → Option (FlagChange × Char × List Char)
  | [] => none
  | char :: rest =>
    if char = ':' || char = ')' then if dangling then none else some (change, char, rest)
    else if char = '-' then if negated then none else readFlags true true change rest
    else match flag? char with
      | none => none
      | some flag =>
        if change.on.contains flag || change.off.contains flag then none
        else if negated then readFlags true false { change with off := flag :: change.off } rest
        else readFlags false false { change with on := flag :: change.on } rest

/-- Whether a character may stand in the name of a group; the first one must be a letter or an
underscore. -/
def isNameChar (first : Bool) (char : Char) : Bool :=
  char = '_' ||
    if first then Unicode.isAlphabetic char
    else char = '.' || char = '[' || char = ']' || Unicode.isAlphanumeric char

/-- The name of a group up to its closing angle bracket, given the reversed beginning. -/
def readName (passed : List Char) : List Char → Option (List Char × List Char)
  | [] => none
  | char :: rest =>
    if char = '>' then if passed.isEmpty then none else some (passed.reverse, rest)
    else if isNameChar passed.isEmpty char then readName (char :: passed) rest
    else none

/-- What begins with an opening parenthesis. -/
inductive Opening where
  /-- A directive that switches flags. -/
  | directive (change : FlagChange)
  /-- A group whose match is not remembered. -/
  | plain (change : FlagChange)
  /-- A group whose match is remembered. -/
  | capturing
  /-- A group whose match is remembered under a name. -/
  | named (name : List Char)

/-- The beginnings of conditions on what stands before or after a place, which are refused. -/
def isLookaround (rest : List Char) : Bool :=
  ["?=", "?!", "?<=", "?<!"].any fun start => start.toList.isPrefixOf rest

/-- The beginning of a group or a directive, after the opening parenthesis. -/
def readOpeningParenthesis (rest : List Char) : Option (Opening × List Char) :=
  if isLookaround rest then none
  else match (after? "?P<".toList rest).or (after? "?<".toList rest) with
    | some rest => do
      let (name, rest) ← readName [] rest
      some (.named name, rest)
    | none =>
      match rest with
      | '?' :: rest => do
        let (change, last, rest) ← readFlags false false .none rest
        if last = ':' then some (.plain change, rest)
        else if change = .none then none
        else some (.directive change, rest)
      | rest => some (.capturing, rest)

/-- The digits at the front, given those passed in reverse; blanks between them may be ignored. -/
def readNumerals (ignoring : Bool) (passed rest : List Char) : List Char × List Char :=
  match rest with
  | [] => (passed.reverse, [])
  | char :: more =>
    if char.isDigit then
      have := length_skip_le ignoring more
      readNumerals ignoring (char :: passed) (skip ignoring more)
    else (passed.reverse, rest)
termination_by rest.length
decreasing_by grind

/-- The number that decimal digits write. -/
def decimalNumber (digits : List Char) : Nat :=
  digits.foldl (fun number digit => 10 * number + (digit.toNat - '0'.toNat)) 0

/-- The number that a repetition count has to stay below. -/
def countLimit : Nat := 4294967296

/-- A count with blanks around it, if there is one. A count at the limit or above is refused. -/
def readCount (ignoring : Bool) (rest : List Char) : Option (Option Nat × List Char) :=
  let (digits, rest) := readNumerals ignoring [] (rest.dropWhile Text.isBlank)
  let rest := if ignoring then rest else rest.dropWhile Text.isBlank
  if digits.isEmpty then some (none, rest)
  else if decimalNumber digits < countLimit then some (some (decimalNumber digits), rest)
  else none

/-- The bounds of a repetition, after the opening brace. -/
def readBounds (ignoring : Bool) (rest : List Char) : Option ((Nat × Option Nat) × List Char) := do
  let (least, rest) ← readCount ignoring (skip ignoring rest)
  let least ← least
  let (most, rest) ← match rest with
    | ',' :: rest =>
      match skip ignoring rest with
      | '\x7d' :: rest => some (none, '\x7d' :: rest)
      | rest => do
        let (most, rest) ← readCount ignoring rest
        some (some (← most), rest)
    | rest => some (some least, rest)
  let rest ← after? ['\x7d'] rest
  if most.any (· < least) then none else some ((least, most), rest)

namespace Reader

/-- The reader before the first character. -/
def start : Reader := ⟨[], [], [], false, []⟩

/-- What the reader made of the current group. -/
def tree (reader : Reader) : Tree :=
  Tree.ofBranches ((Tree.ofParts reader.parts.reverse :: reader.branches).reverse)

/-- Add a part to the current alternative. -/
def add (reader : Reader) (part : Tree) : Reader := { reader with parts := part :: reader.parts }

/-- Begin the next alternative. -/
def branch (reader : Reader) : Reader :=
  { reader with branches := Tree.ofParts reader.parts.reverse :: reader.branches, parts := [] }

/-- Enter a group. -/
def enter (reader : Reader) (capturing : Bool) (change : FlagChange) : Reader :=
  { reader with
    outer := ⟨capturing, change, reader.branches, reader.parts, reader.ignoring⟩ :: reader.outer
    branches := []
    parts := []
    ignoring := change.apply .ignoreBlanks reader.ignoring }

/-- Leave the innermost group. -/
def leave (reader : Reader) : Option Reader :=
  match reader.outer with
  | [] => none
  | group :: outer =>
    some { reader with
      outer
      branches := group.branches
      parts := .group group.capturing group.change reader.tree :: group.parts
      ignoring := group.ignoring }

/-- Take note of what begins with an opening parenthesis. No name may be given twice. -/
def opening (reader : Reader) : Opening → Option Reader
  | .directive change =>
    some { reader.add (.directive change) with
      ignoring := change.apply .ignoreBlanks reader.ignoring }
  | .plain change => some (reader.enter false change)
  | .capturing => some (reader.enter true .none)
  | .named name =>
    if reader.names.contains name then none
    else some { reader.enter true .none with names := name :: reader.names }

/-- Repeat the last part. There has to be one, and it must not be a directive. -/
def repeatLast (reader : Reader) (least : Nat) (most : Option Nat) : Option Reader :=
  match reader.parts with
  | [] | .empty :: _ | .directive _ :: _ => none
  | part :: parts => some { reader with parts := .repetition part least most :: parts }

end Reader

/-- The tree of an escape. -/
def escapeTree : Escape → Tree
  | .literal literal => .literal literal
  | .short negated kind => .short negated kind
  | .property negated name => .property negated name
  | .assertion kind => .assertion kind

/-- A question mark right after a repetition only says which match is preferred. -/
def skipPreference (rest : List Char) : List Char :=
  match rest with
  | '?' :: rest => rest
  | rest => rest

/-- One step of reading, at a character that is no blank to be ignored. -/
def Reader.step (reader : Reader) (char : Char) (rest : List Char) :
    Option (Reader × List Char) :=
  let ignoring := reader.ignoring
  match char with
  | '(' => do
    let (opening, rest) ← readOpeningParenthesis (skip ignoring rest)
    some (← reader.opening opening, rest)
  | ')' => do some (← reader.leave, rest)
  | '|' => some (reader.branch, rest)
  | '[' => do
    let (negated, content, rest) ← readSet ignoring rest
    some (reader.add (.bracketed negated content), rest)
  | '?' => do some (← reader.repeatLast 0 (some 1), skipPreference rest)
  | '*' => do some (← reader.repeatLast 0 none, skipPreference rest)
  | '+' => do some (← reader.repeatLast 1 none, skipPreference rest)
  | '\x7b' => do
    let ((least, most), rest) ← readBounds ignoring rest
    some (← reader.repeatLast least most, skipPreference (skip ignoring rest))
  | '\\' => do
    let (escape, rest) ← readEscape ignoring rest
    some (reader.add (escapeTree escape), rest)
  | '.' => some (reader.add .dot, rest)
  | '^' => some (reader.add (.assertion .lineStart), rest)
  | '$' => some (reader.add (.assertion .lineEnd), rest)
  | _ => some (reader.add (.literal ⟨char, false⟩), rest)

/-- Read on to the end of the pattern. -/
def Reader.run (reader : Reader) (rest : List Char) : Option Reader :=
  match _left : skip reader.ignoring rest with
  | [] => some reader
  | char :: more =>
    match reader.step char more with
    | none => none
    | some (next, later) =>
      if _shorter : later.length ≤ more.length then next.run later else none
termination_by rest.length
decreasing_by
  have := length_skip_le reader.ignoring rest
  rw [_left] at this
  simp at this
  omega

/-- The greatest depth of a pattern. -/
def maxDepth : Nat := 250

/-- The tree of a pattern, if it is well formed. Every group has to be closed. -/
def Tree.read (pattern : List Char) : Option Tree := do
  let reader ← Reader.start.run pattern
  if !reader.outer.isEmpty then none
  else if reader.tree.depth ≤ maxDepth then some reader.tree
  else none

end OriginServer.Pattern
