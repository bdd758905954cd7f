import OriginServer.Pattern.Expr

/-!
# The size of patterns

A pattern is accepted only if the machine that searches for it stays small. The machine reads bytes,
so a set of characters costs a state for each byte that tells its members apart, and a counted
repetition costs as much as its body written out. Two machines are charged: one that reads forward
and one that reads backward. No machine is built here; its size is computed from the expression.
-/
namespace OriginServer.Pattern

/-- The direction in which a machine reads. -/
inductive Direction where
  | forward | backward
  deriving DecidableEq, Repr

/-- The cost of a state. -/
def stateCost : Nat := 32

/-- The cost of a transition between states that is chosen by a byte. -/
def transitionCost : Nat := 8

/-- The cost of a choice that is open without reading. -/
def choiceCost : Nat := 4

/-- The largest cost of a machine. -/
def maxCost : Nat := 10485760

/-- Inclusive ranges of bytes, one for each byte of a character. -/
abbrev ByteRanges := List (Nat × Nat)

/-- The bytes of a character number in UTF-8. -/
def codeBytes (code : Nat) : List Nat :=
  if code < 0x80 then [code]
  else if code < 0x800 then [0xC0 + code / 64, 0x80 + code % 64]
  else if code < 0x10000 then [0xE0 + code / 4096, 0x80 + code / 64 % 64, 0x80 + code % 64]
  else [0xF0 + code / 262144, 0x80 + code / 4096 % 64, 0x80 + code / 64 % 64, 0x80 + code % 64]

/-- The parts of a range that have characters, cut where the number of bytes changes. -/
def uniformRanges (range : Nat × Nat) : List (Nat × Nat) :=
  let lengths := [(0, 0x7F), (0x80, 0x7FF), (0x800, 0xD7FF), (0xE000, 0xFFFF),
    (0x10000, CharSet.maxCode)]
  lengths.filterMap fun (low, high) =>
    if max low range.1 ≤ min high range.2 then some (max low range.1, min high range.2) else none

/-- The last number of the first part of a range whose trailing bytes do not vary freely. -/
def cut? (low high : Nat) : Option Nat :=
  [64, 4096, 262144].findSome? fun unit =>
    if low / unit = high / unit then none
    else if low % unit ≠ 0 then some (low / unit * unit + (unit - 1))
    else if high % unit ≠ unit - 1 then some (high / unit * unit - 1)
    else none

/-- A range cut into parts in each of which the bytes vary independently. -/
def freeRanges (low high : Nat) : List (Nat × Nat) :=
  match cut? low high with
  | none => [(low, high)]
  | some last =>
    if _inside : low ≤ last ∧ last < high then freeRanges low last ++ freeRanges (last + 1) high
    else [(low, high)]
termination_by high - low

/-- The byte ranges that a set is made of, ascending. -/
def byteRanges (set : CharSet) : List ByteRanges :=
  ((set.ranges.flatMap uniformRanges).flatMap fun range => freeRanges range.1 range.2).map
    fun range => (codeBytes range.1).zip (codeBytes range.2)

/-- A state of a machine that reads one character: byte ranges, each with the number of the state
that follows. -/
abbrev ByteState := List ((Nat × Nat) × Nat)

/-- The number of a state in a list of states, and the list with the state in it. Number zero is
the end of the character. -/
def intern (state : ByteState) (states : List ByteState) : Nat × List ByteState :=
  match states.findIdx? (· == state) with
  | some index => (states.length - index, states)
  | none => (states.length + 1, state :: states)

/-- Put byte ranges that begin alike together. -/
def groupByFirst (sequences : List ByteRanges) : List ((Nat × Nat) × List ByteRanges) :=
  sequences.foldr (fun sequence groups =>
    match sequence with
    | [] => groups
    | first :: rest =>
      match groups with
      | (other, members) :: later =>
        if other = first then (first, rest :: members) :: later else (first, [rest]) :: groups
      | [] => [(first, [rest])]) []

/-- The state that reads given byte ranges, in a machine in which states that lead to the same end
in the same way are shared. -/
def shareStates : Nat → List ByteRanges → List ByteState → Nat × List ByteState
  | 0, _, states => (0, states)
  | bytes + 1, sequences, states =>
    match groupByFirst sequences with
    | [] => (0, states)
    | groups =>
      let (state, states) := groups.foldl (fun (state, states) group =>
        let (next, states) := shareStates bytes group.2 states
        ((group.1, next) :: state, states)) ([], states)
      intern state states

/-- The number of beginnings of some byte ranges. -/
def countBeginnings : Nat → List ByteRanges → Nat
  | 0, _ => 0
  | bytes + 1, sequences =>
    (groupByFirst sequences).foldr (fun group count => 1 + countBeginnings bytes group.2 + count) 0

/-- The cost of reading one character of a set. -/
def setCost (direction : Direction) (set : CharSet) : Nat :=
  let single := match set.ranges with
    | [(low, high)] => if low = high then some low else none
    | _ => none
  match single with
  | some code => stateCost * (codeBytes code).length
  | none =>
    if set.ranges.isEmpty then stateCost
    else if set.isAscii then 2 * stateCost + transitionCost * set.ranges.length
    else
      let sequences := byteRanges set
      match direction with
      | .forward =>
        let states := (shareStates 4 sequences []).2
        stateCost * (states.length + 1) +
          transitionCost * states.foldr (fun state count => state.length + count) 0
      | .backward =>
        stateCost * (countBeginnings 4 sequences + 2) + choiceCost * sequences.length

/-- The cost of a repetition whose body costs the given amount. -/
def repetitionCost (body : Nat) (consuming : Bool) (least : Nat) : Option Nat → Nat
  | none =>
    if least = 0 then
      if consuming then stateCost + 2 * choiceCost + body
      else 3 * stateCost + 4 * choiceCost + body
    else stateCost + 2 * choiceCost + least * body
  | some most =>
    if least = 0 && most = 1 then 2 * stateCost + 2 * choiceCost + body
    else if least = most then least * body
    else (if least = 0 then stateCost else 0) + stateCost + least * body +
      (most - least) * (stateCost + 2 * choiceCost + body)

namespace Expr

/-- The number of branches of an expression that offers alternatives. -/
def branches : Expr → Nat
  | alt left right => left.branches + right.branches
  | _ => 1

/-- The cost of an expression; that of a choice between its branches not included. -/
def innerCost (direction : Direction) : Expr → Nat
  | empty => stateCost
  | chars set => setCost direction set
  | look _ => stateCost
  | cat first second => total first + total second
  | alt left right => left.innerCost direction + right.innerCost direction
  | many body least most => repetitionCost (total body) body.isConsuming least most
  | capture body =>
    (match direction with
      | .forward => 2 * stateCost
      | .backward => 0) + total body
where
  /-- The cost of an expression, that of a choice between its branches included. -/
  total (expr : Expr) : Nat :=
    expr.innerCost direction + match expr with
      | alt left right => 2 * stateCost + choiceCost * (left.branches + right.branches)
      | _ => 0

/-- The cost of a machine for an expression: besides the expression, it marks where a match begins
and ends. -/
def cost (direction : Direction) (expr : Expr) : Nat :=
  innerCost.total direction expr + match direction with
    | .forward => 4 * stateCost
    | .backward => 2 * stateCost

/-- Whether both machines for an expression stay small enough. -/
def isAffordable (expr : Expr) : Bool :=
  expr.cost .forward ≤ maxCost && expr.cost .backward ≤ maxCost

end Expr

end OriginServer.Pattern
