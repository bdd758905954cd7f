/-!
# The characters of a text

What the text of a message and of its settings is read by. Header names, media types and the
`keep-alive` option are compared without regard to the case of the ASCII letters; request lines are
split into words at the characters with the Unicode property `White_Space`; lines end at a carriage
return followed by a line feed, and fields are cut at the first occurrence of a character; digits of
hexadecimal numbers are read in both cases and written in small letters.
-/
namespace OriginServer.Text

/-! ## Letter case -/

/-- A text with its ASCII capitals replaced by small letters. -/
def lower (text : List Char) : List Char := text.map Char.toLower

/-- Whether two texts are equal up to the case of ASCII letters. -/
def sameLetters (left right : String) : Bool := lower left.toList == lower right.toList

/-- Every text equals itself up to case. -/
@[simp]
theorem sameLetters_self (text : String) : sameLetters text text := by simp [sameLetters]

/-- Equality up to case is symmetric. -/
theorem sameLetters_comm (left right : String) : sameLetters left right = sameLetters right left :=
  Bool.beq_comm

/-- Two texts equal up to case have the same lower form. -/
theorem sameLetters_iff {left right : String} :
    sameLetters left right ↔ lower left.toList = lower right.toList := by
  simp [sameLetters]

/-! ## Blank characters -/

/-- The characters with the property `White_Space`. -/
def isBlank (char : Char) : Bool :=
  let code := char.toNat
  (9 ≤ code && code ≤ 13) || code = 0x20 || code = 0x85 || code = 0xA0 || code = 0x1680 ||
    (0x2000 ≤ code && code ≤ 0x200A) || code = 0x2028 || code = 0x2029 || code = 0x202F ||
    code = 0x205F || code = 0x3000

/-- A text without the blanks at its two ends. -/
def trim (text : List Char) : List Char :=
  ((text.dropWhile isBlank).reverse.dropWhile isBlank).reverse

/-- The maximal runs of characters that are not blank, in order. -/
def words (text : List Char) : List (List Char) :=
  (text.splitOnP isBlank).filter (!·.isEmpty)

/-- A line feed is blank, and so is a no-break space; a zero-width space is not. -/
example : isBlank '\n' ∧ isBlank '\u00a0' ∧ ¬isBlank '\u200b' := by decide

/-! ## Cutting texts -/

/-- The lines of a text, given the reversed beginning of the first one. -/
def linesFrom (passed : List Char) : List Char → List (List Char)
  | '\r' :: '\n' :: rest => passed.reverse :: linesFrom [] rest
  | char :: rest => linesFrom (char :: passed) rest
  | [] => [passed.reverse]

/-- The pieces of a text between its line ends (carriage return, line feed), the empty ones
included. -/
def lines (text : List Char) : List (List Char) := linesFrom [] text

/-- The text before the first occurrence of a character and the text after it, if it occurs. -/
def cutAt? (mark : Char) (text : List Char) : Option (List Char × List Char) :=
  match text.dropWhile (· != mark) with
  | [] => none
  | _ :: rest => some (text.takeWhile (· != mark), rest)

/-- A cut gives back the text: what stands before the mark, the mark, what stands after it. -/
theorem of_cutAt? {mark : Char} {text before after : List Char}
    (cut : cutAt? mark text = some (before, after)) :
    text = before ++ mark :: after ∧ mark ∉ before := by
  unfold cutAt? at cut
  split at cut
  · contradiction
  · rename_i found rest dropped
    obtain ⟨rfl, rfl⟩ := Prod.mk.inj (Option.some.inj cut)
    have marked : found = mark := by
      have := List.head?_dropWhile_not (· != mark) text
      rw [dropped] at this
      simpa using this
    refine ⟨?_, ?_⟩
    · conv => lhs; rw [← List.takeWhile_append_dropWhile (p := (· != mark)) (l := text)]
      rw [dropped, marked]
    · intro inside
      have kept := List.all_takeWhile (p := (· != mark)) (l := text)
      rw [List.all_eq_true] at kept
      simpa using kept mark inside

/-! ## Hexadecimal numbers -/

/-- The value of a hexadecimal digit. -/
def hexDigit? (char : Char) : Option Nat :=
  if '0' ≤ char && char ≤ '9' then some (char.toNat - '0'.toNat)
  else if 'a' ≤ char && char ≤ 'f' then some (char.toNat - 'a'.toNat + 10)
  else if 'A' ≤ char && char ≤ 'F' then some (char.toNat - 'A'.toNat + 10)
  else none

/-- The number that hexadecimal digits write, if there is nothing but digits. -/
def hexNumber? (digits : List Char) : Option Nat :=
  digits.foldlM (fun number digit => do some (16 * number + (← hexDigit? digit))) 0

/-- A number in hexadecimal. -/
def hexText (number : Nat) : String := String.ofList (Nat.toDigits 16 number)

/-- The character with a number. -/
def charOfCode? (code : Nat) : Option Char :=
  if code.isValidChar then some (Char.ofNat code) else none

/-- Both cases of a digit have the same value, and nothing else is a digit. -/
example : hexNumber? "1Ff".toList = some 0x1FF ∧ hexNumber? "1g".toList = none := by decide

end OriginServer.Text
