import OriginServer.Pattern.Blanks
import OriginServer.Pattern.Tree
import OriginServer.Text.Chars

/-!
# Escapes in patterns

A backslash begins an escape: a character by its number, a class, an assertion, or a mark that
would otherwise have a meaning of its own. Every reader here takes the characters after its
beginning and returns what it read with the characters that are left, or nothing if the pattern is
malformed.
-/
namespace OriginServer.Pattern

/-- What an escape stands for. -/
inductive Escape where
  /-- A character. -/
  | literal (literal : Literal)
  /-- A class with a letter, or its complement. -/
  | short (negated : Bool) (kind : ShortClass)
  /-- A property, or its complement. -/
  | property (negated : Bool) (name : PropertyName)
  /-- A condition on the place. -/
  | assertion (kind : Assertion)
  deriving Repr

/-- The characters that have a meaning of their own in patterns. -/
def isMark (char : Char) : Bool := "\\.+*?()|[]\x7b\x7d^$#&-~".toList.contains char

/-- The characters that a backslash makes stand for themselves: the marks, and all other ASCII
characters but letters, digits and angle brackets. -/
def isEscapable (char : Char) : Bool :=
  isMark char || (char.toNat ≤ 0x7F && !char.isAlphanum && char != '<' && char != '>')

/-- The number of a given count of hexadecimal digits. -/
def readDigits (ignoring : Bool) (number : Nat) : Nat → List Char → Option (Nat × List Char)
  | 0, rest => some (number, rest)
  | _ + 1, [] => none
  | count + 1, char :: rest => do
    readDigits ignoring (16 * number + (← Text.hexDigit? char)) count (skip ignoring rest)

/-- The characters up to a closing brace, given those passed in reverse. -/
def readBraced (ignoring : Bool) (passed : List Char) (rest : List Char) :
    Option (List Char × List Char) :=
  match skip ignoring rest, length_skip_le ignoring rest with
  | [], _ => none
  | '\x7d' :: rest, _ => some (passed.reverse, rest)
  | char :: rest, _ => readBraced ignoring (char :: passed) rest
termination_by rest.length
decreasing_by grind

/-- The number that the hexadecimal digits between braces write. -/
def bracedNumber? (digits : List Char) : Option Nat :=
  if digits.isEmpty then none else Text.hexNumber? digits

/-- A character by its number, after the letter that stands for the given count of digits. -/
def readCharNumber (ignoring : Bool) (count : Nat) (rest : List Char) :
    Option (Escape × List Char) :=
  match skip ignoring rest with
  | [] => none
  | '\x7b' :: rest => do
    let (digits, rest) ← readBraced ignoring [] rest
    let char ← Text.charOfCode? (← bracedNumber? digits)
    some (.literal ⟨char, false⟩, skip ignoring rest)
  | rest => do
    let (number, rest) ← readDigits ignoring 0 count rest
    some (.literal ⟨← Text.charOfCode? number, count == 2⟩, rest)

/-- Whether one text begins another, and what follows it. -/
def after? (start rest : List Char) : Option (List Char) :=
  if start.isPrefixOf rest then some (rest.drop start.length) else none

/-- A text cut at the first occurrence of another text. -/
def cutAtText? (mark : List Char) (passed : List Char) : List Char → Option (List Char × List Char)
  | [] => none
  | char :: rest =>
    match after? mark (char :: rest) with
    | some later => some (passed.reverse, later)
    | none => cutAtText? mark (char :: passed) rest

/-- The property that is named between braces, and whether the name says that it must not hold. -/
def namedProperty (name : List Char) : Bool × PropertyName :=
  match cutAtText? ['!', '='] [] name with
  | some (property, value) => (true, .valued property value)
  | none =>
    match (cutAtText? [':'] [] name).or (cutAtText? ['='] [] name) with
    | some (property, value) => (false, .valued property value)
    | none => (false, .single name)

/-- A character property, after the letter that begins it. -/
def readProperty (ignoring negated : Bool) (rest : List Char) : Option (Escape × List Char) :=
  match skip ignoring rest with
  | [] => none
  | '\x7b' :: rest => do
    let (name, rest) ← readBraced ignoring [] rest
    let (differs, property) := namedProperty name
    some (.property (negated != differs) property, rest)
  | '\\' :: _ => none
  | char :: rest => some (.property negated (.single [char]), skip ignoring rest)

/-- The letters and hyphens at the front, given those passed in reverse. -/
def readWord (ignoring : Bool) (passed : List Char) (rest : List Char) : List Char × List Char :=
  match rest with
  | [] => (passed.reverse, [])
  | char :: more =>
    if char.isAlpha || char = '-' then
      have := length_skip_le ignoring more
      readWord ignoring (char :: passed) (skip ignoring more)
    else (passed.reverse, rest)
termination_by rest.length
decreasing_by grind

/-- The assertion that a name between braces makes of a word boundary. -/
def boundaryKind? (name : String) : Option Assertion :=
  match name with
  | "start" => some .wordStart
  | "end" => some .wordEnd
  | "start-half" => some .wordStartHalf
  | "end-half" => some .wordEndHalf
  | _ => none

/-- A word boundary, after its letter. A brace that no name follows belongs to what comes next. -/
def readBoundary (ignoring : Bool) (rest : List Char) : Option (Escape × List Char) :=
  match rest with
  | '\x7b' :: inner =>
    match skip ignoring inner with
    | [] => none
    | char :: more =>
      if char.isAlpha || char = '-' then
        match readWord ignoring [] (char :: more) with
        | (name, '\x7d' :: rest) => do
          some (.assertion (← boundaryKind? (String.ofList name)), rest)
        | _ => none
      else some (.assertion .wordBoundary, rest)
  | _ => some (.assertion .wordBoundary, rest)

/-- The escape after a backslash. -/
def readEscape (ignoring : Bool) (rest : List Char) : Option (Escape × List Char) :=
  match rest with
  | [] => none
  | char :: rest =>
    match char with
    | 'x' => readCharNumber ignoring 2 rest
    | 'u' => readCharNumber ignoring 4 rest
    | 'U' => readCharNumber ignoring 8 rest
    | 'p' => readProperty ignoring false rest
    | 'P' => readProperty ignoring true rest
    | 'd' => some (.short false .digit, rest)
    | 'D' => some (.short true .digit, rest)
    | 's' => some (.short false .space, rest)
    | 'S' => some (.short true .space, rest)
    | 'w' => some (.short false .word, rest)
    | 'W' => some (.short true .word, rest)
    | 'a' => some (.literal ⟨'\x07', false⟩, rest)
    | 'f' => some (.literal ⟨'\x0C', false⟩, rest)
    | 't' => some (.literal ⟨'\t', false⟩, rest)
    | 'n' => some (.literal ⟨'\n', false⟩, rest)
    | 'r' => some (.literal ⟨'\r', false⟩, rest)
    | 'v' => some (.literal ⟨'\x0B', false⟩, rest)
    | 'A' => some (.assertion .textStart, rest)
    | 'z' => some (.assertion .textEnd, rest)
    | 'b' => readBoundary ignoring rest
    | 'B' => some (.assertion .notWordBoundary, rest)
    | '<' => some (.assertion .wordStart, rest)
    | '>' => some (.assertion .wordEnd, rest)
    | _ => if isEscapable char then some (.literal ⟨char, false⟩, rest) else none

end OriginServer.Pattern
