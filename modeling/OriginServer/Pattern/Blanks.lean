import OriginServer.Text.Chars

/-!
# Blanks and comments in patterns

Under the flag `x`, blanks between the parts of a pattern do not count, and neither does anything
from a number sign to the end of its line.
-/
namespace OriginServer.Pattern

open Text (isBlank)

/-- Pass over blanks and comments, starting inside a comment or outside one. -/
def skipIgnored (inComment : Bool) : List Char → List Char
  | [] => []
  | char :: rest =>
    if inComment then skipIgnored (char != '\n') rest
    else if char = '#' then skipIgnored true rest
    else if isBlank char then skipIgnored false rest
    else char :: rest

/-- Pass over blanks and comments if they are ignored. -/
def skip (ignoring : Bool) (rest : List Char) : List Char :=
  if ignoring then skipIgnored false rest else rest

/-- The next character that counts, found without reading on. A comment is passed over only up to
its first character. -/
def peek (ignoring : Bool) (rest : List Char) : Option Char :=
  if !ignoring then rest.head?
  else
    let first := rest.dropWhile isBlank
    let second := match first with
      | '#' :: comment => comment.dropWhile isBlank
      | _ => first
    if second.isEmpty then rest.head? else second.head?

/-- Passing over blanks and comments never adds characters. -/
theorem length_skipIgnored_le (inComment : Bool) (rest : List Char) :
    (skipIgnored inComment rest).length ≤ rest.length := by
  induction rest generalizing inComment with
  | nil => simp [skipIgnored]
  | cons char rest ih =>
    simp only [skipIgnored]
    split
    · exact Nat.le_trans (ih _) (Nat.le_succ _)
    · split
      · exact Nat.le_trans (ih _) (Nat.le_succ _)
      · split
        · exact Nat.le_trans (ih _) (Nat.le_succ _)
        · exact Nat.le_refl _

/-- Passing over blanks and comments never adds characters. -/
theorem length_skip_le (ignoring : Bool) (rest : List Char) :
    (skip ignoring rest).length ≤ rest.length := by
  unfold skip
  split
  · exact length_skipIgnored_le _ _
  · exact Nat.le_refl _

end OriginServer.Pattern
