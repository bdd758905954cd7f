/-!
# Pattern trees

The structure of a pattern as it is written. A tree still holds the directives that switch flags,
and classes by name; what they mean is decided when the tree is given its meaning.
-/
namespace OriginServer.Pattern

/-- The switches of a pattern, each with its letter. -/
inductive Flag where
  /-- Letter `i`: case is ignored. -/
  | ignoreCase
  /-- Letter `m`: `^` and `$` hold at every line. -/
  | multiLine
  /-- Letter `s`: a dot accepts line ends too. -/
  | dotAll
  /-- Letter `U`: repetitions prefer to be short. -/
  | swapGreed
  /-- Letter `u`: classes hold characters of all scripts. -/
  | unicode
  /-- Letter `R`: a carriage return ends a line too. -/
  | carriageReturns
  /-- Letter `x`: blanks and comments in the pattern do not count. -/
  | ignoreBlanks
  deriving DecidableEq, Repr

/-- The flags that a directive switches on, and those that it switches off. -/
structure FlagChange where
  /-- The flags switched on. -/
  on : List Flag
  /-- The flags switched off. -/
  off : List Flag
  deriving DecidableEq, Repr

/-- The change that changes nothing. -/
def FlagChange.none : FlagChange := ⟨[], []⟩

/-- The value of a flag after a change. -/
def FlagChange.apply (change : FlagChange) (flag : Flag) (value : Bool) : Bool :=
  if change.off.contains flag then false else change.on.contains flag || value

/-- A character that stands for itself. -/
structure Literal where
  /-- The character. -/
  char : Char
  /-- Whether it was written as `\x` with two digits. Without the flag for Unicode such a literal
  is a byte. -/
  isByte : Bool
  deriving DecidableEq, Repr

/-- The classes with a letter of their own. -/
inductive ShortClass where
  | digit | space | word
  deriving DecidableEq, Repr

/-- The classes with a name between colons. -/
inductive AsciiClass where
  | alnum | alpha | ascii | blank | cntrl | digit | graph | lower | print | punct | space | upper
  | word | xdigit
  deriving DecidableEq, Repr

/-- A character property, by name alone or by the name of a property and a value. -/
inductive PropertyName where
  /-- A single name. -/
  | single (name : List Char)
  /-- A property and its value. -/
  | valued (property value : List Char)
  deriving DecidableEq, Repr

/-- What can be asked of a place in the text. -/
inductive Assertion where
  | lineStart | lineEnd | textStart | textEnd
  | wordBoundary | notWordBoundary | wordStart | wordEnd | wordStartHalf | wordEndHalf
  deriving DecidableEq, Repr

/-- How two sets in brackets are combined. -/
inductive SetOperation where
  | intersection | difference | symmetricDifference
  deriving DecidableEq, Repr

/-- A set in brackets. -/
inductive SetTree where
  /-- One character. -/
  | literal (literal : Literal)
  /-- The characters from one to another. -/
  | range (low high : Literal)
  /-- A class named between colons, or all other characters. -/
  | ascii (negated : Bool) (kind : AsciiClass)
  /-- A property, or all characters without it. -/
  | property (negated : Bool) (name : PropertyName)
  /-- A class with a letter, or all other characters. -/
  | short (negated : Bool) (kind : ShortClass)
  /-- A set in brackets of its own. -/
  | bracketed (negated : Bool) (content : SetTree)
  /-- The members of any of some sets. -/
  | union (items : List SetTree)
  /-- Two sets combined. -/
  | operation (kind : SetOperation) (left right : SetTree)
  deriving Repr

/-- A pattern as it is written. -/
inductive Tree where
  /-- Nothing. -/
  | empty
  /-- A directive that changes flags up to the end of the group. -/
  | directive (change : FlagChange)
  /-- One character. -/
  | literal (literal : Literal)
  /-- Any character. -/
  | dot
  /-- A condition on the place. -/
  | assertion (kind : Assertion)
  /-- A character with a property, or without it. -/
  | property (negated : Bool) (name : PropertyName)
  /-- A character of a class, or of none. -/
  | short (negated : Bool) (kind : ShortClass)
  /-- A character of a set in brackets, or outside it. -/
  | bracketed (negated : Bool) (content : SetTree)
  /-- A pattern several times in a row. -/
  | repetition (body : Tree) (least : Nat) (most : Option Nat)
  /-- A pattern in parentheses. -/
  | group (capturing : Bool) (change : FlagChange) (body : Tree)
  /-- Any of several patterns. -/
  | alternation (branches : List Tree)
  /-- Several patterns one after another. -/
  | sequence (parts : List Tree)
  deriving Repr

/-- Sets put side by side. -/
def SetTree.ofItems : List SetTree → SetTree
  | [item] => item
  | items => union items

/-- Patterns put one after another. -/
def Tree.ofParts : List Tree → Tree
  | [] => empty
  | [part] => part
  | parts => sequence parts

/-- Patterns given as alternatives. -/
def Tree.ofBranches : List Tree → Tree
  | [branch] => branch
  | branches => alternation branches

mutual

/-- How deeply a set in brackets is nested. Putting nothing side by side adds no depth. -/
def SetTree.depth : SetTree → Nat
  | union [] => 0
  | union items => 1 + SetTree.depthOfItems items
  | bracketed _ content => 1 + content.depth
  | operation _ left right => 1 + max left.depth right.depth
  | _ => 0

/-- The greatest depth among some sets. -/
def SetTree.depthOfItems : List SetTree → Nat
  | [] => 0
  | item :: rest => max item.depth (SetTree.depthOfItems rest)

end

mutual

/-- How deeply a pattern is nested. -/
def Tree.depth : Tree → Nat
  | bracketed _ content => 1 + content.depth
  | repetition body _ _ => 1 + body.depth
  | group _ _ body => 1 + body.depth
  | alternation branches => 1 + Tree.depthOfParts branches
  | sequence parts => 1 + Tree.depthOfParts parts
  | _ => 0

/-- The greatest depth among some patterns. -/
def Tree.depthOfParts : List Tree → Nat
  | [] => 0
  | part :: rest => max part.depth (Tree.depthOfParts rest)

end

end OriginServer.Pattern
