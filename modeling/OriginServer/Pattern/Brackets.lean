import OriginServer.Pattern.Escape

/-!
# Sets in brackets

A set in brackets lists characters, ranges, classes and further sets in brackets; two ampersands,
hyphens or tildes combine what stands before and after them. The reader keeps the sets that are
still open, the innermost first.
-/
namespace OriginServer.Pattern

/-- A set whose closing bracket was not reached yet. -/
structure OpenSet where
  /-- Whether the set is the complement of what it lists. -/
  negated : Bool
  /-- What stands before the last operation, with the operation. -/
  pending : Option (SetOperation × SetTree)
  /-- What was listed since, in reverse. -/
  items : List SetTree
  deriving Repr

namespace OpenSet

/-- List one more item. -/
def add (set : OpenSet) (item : SetTree) : OpenSet := { set with items := item :: set.items }

/-- All that was listed, the pending operation carried out. -/
def content (set : OpenSet) : SetTree :=
  let listed := SetTree.ofItems set.items.reverse
  match set.pending with
  | some (kind, left) => .operation kind left listed
  | none => listed

/-- Go on to the right side of an operation. -/
def operate (set : OpenSet) (kind : SetOperation) : OpenSet :=
  { set with pending := some (kind, set.content), items := [] }

end OpenSet

/-- The class with a name between colons. -/
def asciiClass? (name : String) : Option AsciiClass :=
  match name with
  | "alnum" => some .alnum
  | "alpha" => some .alpha
  | "ascii" => some .ascii
  | "blank" => some .blank
  | "cntrl" => some .cntrl
  | "digit" => some .digit
  | "graph" => some .graph
  | "lower" => some .lower
  | "print" => some .print
  | "punct" => some .punct
  | "space" => some .space
  | "upper" => some .upper
  | "word" => some .word
  | "xdigit" => some .xdigit
  | _ => none

/-- A class between colons, after its opening bracket. What is no such class is read as a set. -/
def readAsciiClass? (rest : List Char) : Option (SetTree × List Char) := do
  let rest ← after? [':'] rest
  let (negated, rest) := match rest with
    | '^' :: rest => (true, rest)
    | rest => (false, rest)
  let kind ← asciiClass? (String.ofList (rest.takeWhile (· != ':')))
  let rest ← after? [':', ']'] (rest.dropWhile (· != ':'))
  some (.ascii negated kind, rest)

/-- The hyphens at the front, which stand for themselves. -/
def readHyphens (ignoring : Bool) (set : OpenSet) (rest : List Char) : OpenSet × List Char :=
  match rest with
  | '-' :: more =>
    have := length_skip_le ignoring more
    readHyphens ignoring (set.add (.literal ⟨'-', false⟩)) (skip ignoring more)
  | _ => (set, rest)
termination_by rest.length
decreasing_by grind

/-- The beginning of a set, after its opening bracket: whether it is negated, then hyphens; a
closing bracket that comes first of all stands for itself. -/
def readOpening (ignoring : Bool) (rest : List Char) : OpenSet × List Char :=
  let (negated, rest) := match skip ignoring rest with
    | '^' :: rest => (true, skip ignoring rest)
    | rest => (false, rest)
  let (opened, rest) := readHyphens ignoring ⟨negated, none, []⟩ rest
  match rest with
  | ']' :: more =>
    if opened.items.isEmpty then (opened.add (.literal ⟨']', false⟩), skip ignoring more)
    else (opened, rest)
  | _ => (opened, rest)

/-- One member of a set: an escape, or a character that stands for itself. -/
def readMember (ignoring : Bool) (char : Char) (rest : List Char) : Option (Escape × List Char) :=
  if char = '\\' then readEscape ignoring rest else some (.literal ⟨char, false⟩, rest)

/-- The set of one member. An assertion is no set. -/
def memberSet? : Escape → Option SetTree
  | .literal literal => some (.literal literal)
  | .short negated kind => some (.short negated kind)
  | .property negated name => some (.property negated name)
  | .assertion _ => none

/-- The range between two members, which have to be characters in order. -/
def memberRange? : Escape → Escape → Option SetTree
  | .literal low, .literal high =>
    if low.char ≤ high.char then some (.range low high) else none
  | _, _ => none

/-- A member of a set or a range of two. A hyphen makes no range before a closing bracket or another
hyphen. -/
def readRange (ignoring : Bool) (char : Char) (rest : List Char) :
    Option (SetTree × List Char) := do
  let (first, rest) ← readMember ignoring char rest
  match skip ignoring rest with
  | [] => none
  | '-' :: more =>
    let next := peek ignoring more
    if next = some ']' || next = some '-' then
      some (← memberSet? first, '-' :: more)
    else
      match skip ignoring more with
      | [] => none
      | char :: rest =>
        let (last, rest) ← readMember ignoring char rest
        some (← memberRange? first last, rest)
  | rest => some (← memberSet? first, rest)

/-- The operation that two equal characters denote. -/
def setOperation? : Char → Option SetOperation
  | '&' => some .intersection
  | '-' => some .difference
  | '~' => some .symmetricDifference
  | _ => none

/-- The operation at the front, if its character is doubled. -/
def readOperation? (char : Char) (rest : List Char) : Option (SetOperation × List Char) := do
  let kind ← setOperation? char
  some (kind, ← after? [char] rest)

/-- What one step of reading a set leads to. -/
inductive SetProgress where
  /-- The set goes on: the open sets and the characters that are left. -/
  | going (current : OpenSet) (outer : List OpenSet) (rest : List Char)
  /-- The set is complete. -/
  | complete (negated : Bool) (content : SetTree) (rest : List Char)

/-- One step of reading a set, at a character that is no blank to be ignored. -/
def stepSet (ignoring : Bool) (current : OpenSet) (outer : List OpenSet) (char : Char)
    (rest : List Char) : Option SetProgress :=
  if char = '[' then
    match readAsciiClass? rest with
    | some (item, rest) => some (.going (current.add item) outer rest)
    | none =>
      let (opened, rest) := readOpening ignoring rest
      some (.going opened (current :: outer) rest)
  else if char = ']' then
    match outer with
    | [] => some (.complete current.negated current.content rest)
    | parent :: outer =>
      some (.going (parent.add (.bracketed current.negated current.content)) outer rest)
  else
    match readOperation? char rest with
    | some (kind, rest) => some (.going (current.operate kind) outer rest)
    | none => do
      let (item, rest) ← readRange ignoring char rest
      some (.going (current.add item) outer rest)

/-- Read on in the open sets until the outermost is complete. -/
def readSetFrom (ignoring : Bool) (current : OpenSet) (outer : List OpenSet) (rest : List Char) :
    Option (Bool × SetTree × List Char) :=
  match _left : skip ignoring rest with
  | [] => none
  | char :: more =>
    match stepSet ignoring current outer char more with
    | none => none
    | some (.complete negated content rest) => some (negated, content, rest)
    | some (.going current outer later) =>
      if _shorter : later.length ≤ more.length then readSetFrom ignoring current outer later
      else none
termination_by rest.length
decreasing_by
  have := length_skip_le ignoring rest
  rw [_left] at this
  simp at this
  omega

/-- A set in brackets, after its opening bracket: whether it is negated, and what it lists. -/
def readSet (ignoring : Bool) (rest : List Char) : Option (Bool × SetTree × List Char) :=
  let (opened, rest) := readOpening ignoring rest
  readSetFrom ignoring opened [] rest

end OriginServer.Pattern
