import OriginServer.Text.Chars

/-!
# Sets of characters

A set of characters is a list of ranges of character numbers. The lists made here are ascending,
and a gap lies between two neighbours, so that equal sets have equal lists. Character properties are
given as tables: texts of hexadecimal ranges.
-/
namespace OriginServer

/-- A set of characters, as inclusive ranges of their numbers. -/
structure CharSet where
  /-- The ranges, ascending, with a gap between two neighbours. -/
  ranges : List (Nat × Nat)
  deriving DecidableEq, Repr, Inhabited

namespace CharSet

/-- The largest number of a character. -/
def maxCode : Nat := 0x10FFFF

/-- Join ascending ranges that touch a range or one another. -/
def joinFrom (low high : Nat) : List (Nat × Nat) → List (Nat × Nat)
  | [] => [(low, high)]
  | (nextLow, nextHigh) :: rest =>
    if nextLow ≤ high + 1 then joinFrom low (max high nextHigh) rest
    else (low, high) :: joinFrom nextLow nextHigh rest

/-- The set of the characters in any of some ranges. -/
def ofRanges (ranges : List (Nat × Nat)) : CharSet :=
  match ranges.mergeSort fun left right => left.1 ≤ right.1 with
  | [] => ⟨[]⟩
  | (low, high) :: rest => ⟨joinFrom low high rest⟩

/-- The set without characters. -/
def empty : CharSet := ⟨[]⟩

/-- The set of all characters. -/
def all : CharSet := ⟨[(0, maxCode)]⟩

/-- The set of one character. -/
def singleton (char : Char) : CharSet := ⟨[(char.toNat, char.toNat)]⟩

/-- The set of the characters from one to another. -/
def between (first last : Char) : CharSet := ⟨[(first.toNat, last.toNat)]⟩

/-- Whether a number lies in one of some ranges. -/
def containsCode (code : Nat) (set : CharSet) : Bool :=
  set.ranges.any fun range => range.1 ≤ code && code ≤ range.2

/-- Whether a character belongs to a set. -/
def contains (set : CharSet) (char : Char) : Bool := set.containsCode char.toNat

/-- The characters of either set. -/
def union (left right : CharSet) : CharSet := ofRanges (left.ranges ++ right.ranges)

/-- The characters of any of some sets. -/
def unions (sets : List CharSet) : CharSet := ofRanges (sets.flatMap (·.ranges))

/-- The gaps between ascending ranges, from a number on. -/
def gapsFrom (next : Nat) : List (Nat × Nat) → List (Nat × Nat)
  | [] => if next ≤ maxCode then [(next, maxCode)] else []
  | (low, high) :: rest =>
    if next < low then (next, low - 1) :: gapsFrom (high + 1) rest else gapsFrom (high + 1) rest

/-- The characters that do not belong to a set. -/
def complement (set : CharSet) : CharSet := ⟨gapsFrom 0 set.ranges⟩

/-- The characters of both sets. -/
def intersection (left right : CharSet) : CharSet :=
  (left.complement.union right.complement).complement

/-- The characters of the first set that are not in the second. -/
def difference (left right : CharSet) : CharSet := left.intersection right.complement

/-- The characters of exactly one of the two sets. -/
def symmetricDifference (left right : CharSet) : CharSet :=
  (left.union right).difference (left.intersection right)

/-- Whether a set holds only ASCII characters. -/
def isAscii (set : CharSet) : Bool := set.ranges.all fun range => range.2 ≤ 0x7F

/-- The number that hexadecimal digits write; a malformed entry counts as zero. -/
def hexNumber (digits : List Char) : Nat := (Text.hexNumber? digits).getD 0

/-- The range that one entry of a table writes: a number, or two with a hyphen between. -/
def rangeOfEntry (entry : List Char) : Nat × Nat :=
  match entry.splitOn '-' with
  | [low, high] => (hexNumber low, hexNumber high)
  | _ => (hexNumber entry, hexNumber entry)

/-- The words of a table. -/
def entries (table : String) : List (List Char) :=
  (table.toList.splitOnP fun char => char = ' ' || char = '\n').filter (!·.isEmpty)

/-- The set that a table describes. The entries of a table are ascending, with gaps between. -/
def ofTable (table : String) : CharSet := ⟨(entries table).map rangeOfEntry⟩

/-- A table with two ranges and a single character. -/
example : (ofTable "41-43 61").contains 'B' ∧ (ofTable "41-43 61").contains 'a' ∧
    ¬(ofTable "41-43 61").contains 'b' := by decide +kernel

end CharSet

end OriginServer
