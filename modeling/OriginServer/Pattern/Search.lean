import OriginServer.Pattern.Footprint
import OriginServer.Pattern.Meaning
import OriginServer.Pattern.Reader

/-!
# Searching a text

A search follows all matches at once: it carries the set of the places that can be reached, as a
number whose bits stand for places. `Plan.advance` turns the set of places where an expression may
begin into the set of places where it may end. A `Pattern` is a text that was read, given its
meaning and found small enough. It is searched for anywhere in a text; a pattern that has to cover
a whole text says so with anchors.
-/
namespace OriginServer

namespace Pattern

/-- An expression prepared for one text: sets of characters and conditions are replaced by the sets
of the places where they hold. -/
inductive Plan where
  /-- Go on at the same place, if it is one of some places. -/
  | stay (places : Nat)
  /-- Go on one place further, from one of some places. -/
  | move (places : Nat)
  /-- One plan and then another. -/
  | cat (first second : Plan)
  /-- Either of two plans. -/
  | alt (left right : Plan)
  /-- A plan several times in a row; `most` says how often it may be done beyond `least`. -/
  | many (body : Plan) (least : Nat) (most : Nat)
  deriving Repr

/-- The number whose bits are given, the lowest first. -/
def ofBits (bits : List Bool) : Nat := bits.foldr (fun bit number => 2 * number + bit.toNat) 0

/-- The conditions of some places, given the character before the first one. -/
def lookBits (look : Look) (before : Option Char) : List Char → List Bool
  | [] => [look.holds before none]
  | char :: rest => look.holds before (some char) :: lookBits look (some char) rest

/-- The number with one bit for each place of a text. -/
def allPlaces (text : List Char) : Nat := 1 <<< (text.length + 1) - 1

/-- An expression prepared for a text. A repetition without bound is done at most once for each
character, since a round that reaches no new place need not be done. -/
def Expr.plan (text : List Char) : Expr → Plan
  | empty => .stay (allPlaces text)
  | chars set => .move (ofBits (text.map set.contains))
  | look kind => .stay (ofBits (lookBits kind none text))
  | cat first second => .cat (first.plan text) (second.plan text)
  | alt left right => .alt (left.plan text) (right.plan text)
  | many body least most =>
    .many (body.plan text) least ((most.map (· - least)).getD (text.length + 1))
  | capture body => body.plan text

/-- Apply a step a number of times; once it changes nothing, further rounds change nothing. -/
def times (step : Nat → Nat) : Nat → Nat → Nat
  | 0, places => places
  | count + 1, places =>
    let next := step places
    if next = places then places else times step count next

/-- The places reached by at most some rounds of a step, given those that were reached and those
among them that the last round added. -/
def spread (step : Nat → Nat) : Nat → Nat → Nat → Nat
  | 0, reached, _ => reached
  | count + 1, reached, added =>
    let all := reached ||| step added
    if all = reached then reached else spread step count all (all ^^^ reached)

/-- The places where a plan may end, for those where it may begin. -/
def Plan.advance : Plan → Nat → Nat
  | stay allowed, places => places &&& allowed
  | move allowed, places => (places &&& allowed) <<< 1
  | cat first second, places => second.advance (first.advance places)
  | alt left right, places => left.advance places ||| right.advance places
  | many body least more, places =>
    let begun := times body.advance least places
    spread body.advance more begun begun

/-- Whether an expression matches somewhere in a text. -/
def Expr.isFoundIn (expr : Expr) (text : List Char) : Bool :=
  (expr.plan text).advance (allPlaces text) != 0

end Pattern

/-! ## Patterns -/

/-- A pattern that can be searched for. -/
structure Pattern where
  /-- The pattern as it was written. -/
  source : String
  /-- Its meaning. -/
  expr : Pattern.Expr
  deriving Repr, Inhabited

namespace Pattern

/-- The pattern with a text, if it is well formed, has a meaning and is small enough. -/
def compile? (source : String) : Option Pattern := do
  let tree ← Tree.read source.toList
  let (expr, _) ← tree.meaning .initial
  if expr.isAffordable then some ⟨source, expr⟩ else none

/-- Whether a pattern matches somewhere in a text. -/
def isMatch (pattern : Pattern) (text : String) : Bool := pattern.expr.isFoundIn text.toList

/-- A text put between anchors that tie it to the beginning and the end. -/
def anchored (source : String) : String := "^(?:" ++ source ++ ")$"

end Pattern

end OriginServer
