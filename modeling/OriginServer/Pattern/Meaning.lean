import OriginServer.Pattern.Expr
import OriginServer.Pattern.Tree
import OriginServer.Unicode.CaseFolding

/-!
# The meaning of patterns

`Tree.meaning` turns a tree into an expression. Flags are carried from left to right, through
sequences and alternatives, and restored at the end of a group. Without the flag for Unicode only
ASCII sets have a meaning, since their complements would hold bytes that are no characters.
-/
namespace OriginServer.Pattern

/-- The flags in force at a point of a pattern. -/
structure Flags where
  /-- Case is ignored. -/
  ignoreCase : Bool
  /-- `^` and `$` hold at every line. -/
  multiLine : Bool
  /-- A dot accepts line ends too. -/
  dotAll : Bool
  /-- Classes hold characters of all scripts. -/
  unicode : Bool
  /-- A carriage return ends a line too. -/
  carriageReturns : Bool
  deriving DecidableEq, Repr

namespace Flags

/-- The flags at the beginning of a pattern. -/
def initial : Flags := ⟨false, false, false, true, false⟩

/-- The flags after a change. -/
def apply (flags : Flags) (change : FlagChange) : Flags :=
  { ignoreCase := change.apply .ignoreCase flags.ignoreCase
    multiLine := change.apply .multiLine flags.multiLine
    dotAll := change.apply .dotAll flags.dotAll
    unicode := change.apply .unicode flags.unicode
    carriageReturns := change.apply .carriageReturns flags.carriageReturns }

/-- The alphabet of word boundaries. -/
def alphabet (flags : Flags) : Alphabet := if flags.unicode then .unicode else .ascii

/-- A set with the characters that flags add to it. -/
def fold (flags : Flags) (set : CharSet) : CharSet :=
  if !flags.ignoreCase then set
  else if flags.unicode then set.withCaseVariants
  else set.withAsciiVariants

/-- A set or its complement. Only under the flag for Unicode there is a complement. -/
def negate? (flags : Flags) (negated : Bool) (set : CharSet) : Option CharSet :=
  if !negated then some set else if flags.unicode then some set.complement else none

end Flags

/-- The characters of a class named between colons. -/
def AsciiClass.set : AsciiClass → CharSet
  | alnum => .ofTable "30-39 41-5A 61-7A"
  | alpha => .ofTable "41-5A 61-7A"
  | ascii => .ofTable "0-7F"
  | blank => .ofTable "9 20"
  | cntrl => .ofTable "0-1F 7F"
  | digit => .ofTable "30-39"
  | graph => .ofTable "21-7E"
  | lower => .ofTable "61-7A"
  | print => .ofTable "20-7E"
  | punct => .ofTable "21-2F 3A-40 5B-60 7B-7E"
  | space => .ofTable "9-D 20"
  | upper => .ofTable "41-5A"
  | word => .ofTable "30-39 41-5A 5F 61-7A"
  | xdigit => .ofTable "30-39 41-46 61-66"

/-- The characters of a class with a letter. -/
def ShortClass.set (unicode : Bool) (kind : ShortClass) : CharSet :=
  if unicode then
    match kind with
    | digit => Unicode.decimalDigits
    | space => Unicode.whiteSpace
    | word => Unicode.wordChars
  else
    match kind with
    | digit => AsciiClass.digit.set
    | space => AsciiClass.space.set
    | word => AsciiClass.word.set

/-- The characters with a property. -/
def PropertyName.set? : PropertyName → Option CharSet
  | single name => Unicode.property? name
  | valued property value => Unicode.propertyValue? property value

/-- The characters that a property denotes at a point of a pattern. -/
def propertySet? (flags : Flags) (negated : Bool) (name : PropertyName) : Option CharSet := do
  let set ← name.set?
  if flags.unicode then flags.negate? negated (flags.fold set) else none

/-- The character of a literal. Without the flag for Unicode, a byte that is no ASCII character has
no meaning. -/
def Literal.char? (flags : Flags) (literal : Literal) : Option Char :=
  if flags.unicode || !literal.isByte || literal.char.toNat ≤ 0x7F then some literal.char else none

/-- The character of a literal in brackets, where without the flag for Unicode it has to be
ASCII. -/
def Literal.member? (flags : Flags) (literal : Literal) : Option Char :=
  if flags.unicode || literal.char.toNat ≤ 0x7F then some literal.char else none

/-- Two sets combined by an operation. -/
def SetOperation.apply : SetOperation → CharSet → CharSet → CharSet
  | intersection, left, right => left.intersection right
  | difference, left, right => left.difference right
  | symmetricDifference, left, right => left.symmetricDifference right

mutual

/-- The characters that a set in brackets lists. -/
def SetTree.set? (flags : Flags) : SetTree → Option CharSet
  | literal written => do some (.singleton (← written.member? flags))
  | range low high => do some (.between (← low.member? flags) (← high.member? flags))
  | ascii negated kind => flags.negate? negated (flags.fold kind.set)
  | property negated name => propertySet? flags negated name
  | short negated kind => flags.negate? negated (kind.set flags.unicode)
  | bracketed negated content => do flags.negate? negated (flags.fold (← content.set? flags))
  | union items => do some (.unions (← SetTree.sets? flags items))
  | operation kind left right => do
    some (kind.apply (flags.fold (← left.set? flags)) (flags.fold (← right.set? flags)))

/-- The characters of each of some sets. -/
def SetTree.sets? (flags : Flags) : List SetTree → Option (List CharSet)
  | [] => some []
  | item :: rest => do some ((← item.set? flags) :: (← SetTree.sets? flags rest))

end

/-- The condition of an assertion. -/
def Assertion.look (flags : Flags) : Assertion → Look
  | lineStart => if flags.multiLine then .lineStart flags.carriageReturns else .textStart
  | lineEnd => if flags.multiLine then .lineEnd flags.carriageReturns else .textEnd
  | textStart => .textStart
  | textEnd => .textEnd
  | wordBoundary => .boundary flags.alphabet
  | notWordBoundary => .noBoundary flags.alphabet
  | wordStart => .wordStart flags.alphabet
  | wordEnd => .wordEnd flags.alphabet
  | wordStartHalf => .wordStartHalf flags.alphabet
  | wordEndHalf => .wordEndHalf flags.alphabet

/-- The characters that a dot accepts. -/
def dotSet? (flags : Flags) : Option CharSet :=
  if !flags.unicode then none
  else if flags.dotAll then some .all
  else if flags.carriageReturns then some (CharSet.ofTable "A D").complement
  else some (CharSet.ofTable "A").complement

mutual

/-- The expression of a pattern, and the flags in force after it. -/
def Tree.meaning (flags : Flags) : Tree → Option (Expr × Flags)
  | empty => some (.empty, flags)
  | directive change => some (.empty, flags.apply change)
  | literal written => do
    some (.chars (flags.fold (.singleton (← written.char? flags))), flags)
  | dot => do some (.chars (← dotSet? flags), flags)
  | assertion kind => some (.look (kind.look flags), flags)
  | property negated name => do some (.chars (← propertySet? flags negated name), flags)
  | short negated kind => do
    some (.chars (← flags.negate? negated (kind.set flags.unicode)), flags)
  | bracketed negated content => do
    some (.chars (← flags.negate? negated (flags.fold (← content.set? flags))), flags)
  | repetition body least most => do
    let (body, flags) ← body.meaning flags
    some (.repeated body least most, flags)
  | group capturing change body => do
    let (body, _) ← body.meaning (flags.apply change)
    some (if capturing then .capture body else body, flags)
  | alternation branches => do
    let (branches, flags) ← Tree.meanings flags branches
    some (.choice branches, flags)
  | sequence parts => do
    let (parts, flags) ← Tree.meanings flags parts
    some (.sequence parts, flags)

/-- The expressions of patterns that stand one after another, and the flags in force after them. -/
def Tree.meanings (flags : Flags) : List Tree → Option (List Expr × Flags)
  | [] => some ([], flags)
  | tree :: rest => do
    let (expr, flags) ← tree.meaning flags
    let (exprs, flags) ← Tree.meanings flags rest
    some (expr :: exprs, flags)

end

end OriginServer.Pattern
