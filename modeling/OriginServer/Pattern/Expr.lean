import OriginServer.Unicode.Property

/-!
# Pattern expressions

An expression is the meaning of a pattern: flags are applied and classes are sets of characters. The
relation `Matches` says between which places of a text an expression matches, without regard to
which of several matches a search would prefer.
-/
namespace OriginServer.Pattern

/-- Which characters count as letters of words at an assertion. -/
inductive Alphabet where
  /-- Letters, marks, digits and connectors of all scripts. -/
  | unicode
  /-- ASCII letters, digits and the underscore. -/
  | ascii
  deriving DecidableEq, Repr

/-- A condition on a place in the text. -/
inductive Look where
  /-- The text begins here. -/
  | textStart
  /-- The text ends here. -/
  | textEnd
  /-- A line begins here. -/
  | lineStart (carriageReturns : Bool)
  /-- A line ends here. -/
  | lineEnd (carriageReturns : Bool)
  /-- A word begins or ends here. -/
  | boundary (alphabet : Alphabet)
  /-- No word begins or ends here. -/
  | noBoundary (alphabet : Alphabet)
  /-- A word begins here. -/
  | wordStart (alphabet : Alphabet)
  /-- A word ends here. -/
  | wordEnd (alphabet : Alphabet)
  /-- No word goes on from before this place. -/
  | wordStartHalf (alphabet : Alphabet)
  /-- No word goes on after this place. -/
  | wordEndHalf (alphabet : Alphabet)
  deriving DecidableEq, Repr

/-- The meaning of a pattern. -/
inductive Expr where
  /-- Nothing. -/
  | empty
  /-- One character of a set. -/
  | chars (set : CharSet)
  /-- A condition on the place. -/
  | look (kind : Look)
  /-- One expression and then another. -/
  | cat (first second : Expr)
  /-- Either of two expressions. -/
  | alt (left right : Expr)
  /-- An expression several times in a row. -/
  | many (body : Expr) (least : Nat) (most : Option Nat)
  /-- An expression whose match is remembered. -/
  | capture (body : Expr)
  deriving Repr, Inhabited

/-- Whether a character belongs to words. -/
def Alphabet.contains (alphabet : Alphabet) (char : Char) : Bool :=
  match alphabet with
  | unicode => Unicode.wordChars.contains char
  | ascii => char.isAlphanum || char = '_'

/-- Whether a character that may be missing belongs to words. -/
def Alphabet.holds (alphabet : Alphabet) : Option Char → Bool
  | some char => alphabet.contains char
  | none => false

/-- Whether a condition holds between two characters; a missing one means that the text ends. -/
def Look.holds (look : Look) (before after : Option Char) : Bool :=
  match look with
  | textStart => before.isNone
  | textEnd => after.isNone
  | lineStart false => before.isNone || before = some '\n'
  | lineStart true => before.isNone || before = some '\n' ||
      (before = some '\r' && after != some '\n')
  | lineEnd false => after.isNone || after = some '\n'
  | lineEnd true => after.isNone || after = some '\r' ||
      (after = some '\n' && before != some '\r')
  | boundary alphabet => alphabet.holds before != alphabet.holds after
  | noBoundary alphabet => alphabet.holds before == alphabet.holds after
  | wordStart alphabet => !alphabet.holds before && alphabet.holds after
  | wordEnd alphabet => alphabet.holds before && !alphabet.holds after
  | wordStartHalf alphabet => !alphabet.holds before
  | wordEndHalf alphabet => !alphabet.holds after

/-- Whether a condition holds at a place of a text. -/
def Look.holdsAt (look : Look) (text : List Char) (place : Nat) : Bool :=
  look.holds (if place = 0 then none else text[place - 1]?) text[place]?

/-- An expression matches a text from one place to another. -/
inductive Matches (text : List Char) : Expr → Nat → Nat → Prop where
  /-- Nothing is matched at every place. -/
  | empty {place : Nat} : place ≤ text.length → Matches text .empty place place
  /-- A character of the set stands at the place. -/
  | chars {set : CharSet} {place : Nat} {char : Char} :
    text[place]? = some char → set.contains char → Matches text (.chars set) place (place + 1)
  /-- The condition holds at the place. -/
  | look {kind : Look} {place : Nat} :
    place ≤ text.length → kind.holdsAt text place → Matches text (.look kind) place place
  /-- The second expression goes on where the first one ends. -/
  | cat {first second : Expr} {start middle stop : Nat} :
    Matches text first start middle → Matches text second middle stop →
      Matches text (.cat first second) start stop
  /-- The left expression matches. -/
  | left {left right : Expr} {start stop : Nat} :
    Matches text left start stop → Matches text (.alt left right) start stop
  /-- The right expression matches. -/
  | right {left right : Expr} {start stop : Nat} :
    Matches text right start stop → Matches text (.alt left right) start stop
  /-- No repetition is needed. -/
  | done {body : Expr} {most : Option Nat} {place : Nat} :
    place ≤ text.length → Matches text (.many body 0 most) place place
  /-- One repetition is followed by the others. -/
  | again {body : Expr} {least : Nat} {most : Option Nat} {start middle stop : Nat} :
    most ≠ some 0 → Matches text body start middle →
      Matches text (.many body (least - 1) (most.map (· - 1))) middle stop →
        Matches text (.many body least most) start stop
  /-- What is remembered is a match. -/
  | capture {body : Expr} {start stop : Nat} :
    Matches text body start stop → Matches text (.capture body) start stop

namespace Expr

/-- Whether an expression can match only where nothing is consumed. -/
def isEmptyOnly : Expr → Bool
  | empty => true
  | chars _ => false
  | look _ => true
  | cat first second => first.isEmptyOnly && second.isEmptyOnly
  | alt left right => left.isEmptyOnly && right.isEmptyOnly
  | many body _ most => most = some 0 || body.isEmptyOnly
  | capture body => body.isEmptyOnly

/-- Whether every match of an expression consumes a character. -/
def isConsuming : Expr → Bool
  | empty => false
  | chars _ => true
  | look _ => false
  | cat first second => first.isConsuming || second.isConsuming
  | alt left right => left.isConsuming && right.isConsuming
  | many body least _ => 0 < least && body.isConsuming
  | capture body => body.isConsuming

/-- One expression and then another; nothing before or after an expression changes nothing. -/
def andThen : Expr → Expr → Expr
  | empty, second => second
  | first, empty => first
  | first, second => cat first second

/-- Expressions one after another. -/
def sequence (parts : List Expr) : Expr := parts.foldr andThen empty

/-- Either of two expressions; two sets are joined into one. -/
def orElse : Expr → Expr → Expr
  | chars left, chars right => chars (left.union right)
  | left, right => alt left right

/-- Any of some expressions. -/
def choice : List Expr → Expr
  | [] => chars .empty
  | [only] => only
  | first :: rest => orElse first (choice rest)

/-- An expression several times in a row. What consumes nothing need not be matched more than once,
and what is matched at most never is nothing. -/
def repeated (body : Expr) (least : Nat) (most : Option Nat) : Expr :=
  let (least, most) :=
    if body.isEmptyOnly then (min least 1, some (min (most.getD 1) 1)) else (least, most)
  if most = some 0 then empty
  else if least = 1 && most = some 1 then body
  else match body, least, most with
    | many inner 0 none, 0, none => many inner 0 none
    | _, _, _ => many body least most

end Expr

end OriginServer.Pattern
