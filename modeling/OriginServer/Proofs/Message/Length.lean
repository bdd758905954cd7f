import OriginServer.Message.RequestHead

/-!
# Declared lengths

`Decimal` says which texts write a number: decimal digits, any number of them, perhaps after a plus
sign. The usual text of a number is one of them (`decimal_toString`). A declared length is read
exactly if it is such a text and the number is not too large (`readLength_eq_ok_iff`).
-/
namespace OriginServer

namespace Text

/-- Decimal digits, perhaps after a plus sign, write a number. -/
def Decimal (text : List Char) (number : Nat) : Prop :=
  ∃ digits, (text = digits ∨ text = '+' :: digits) ∧ digits ≠ [] ∧
    (∀ digit ∈ digits, digit.isDigit = true) ∧ Nat.ofDigitChars 10 digits 0 = number

/-- A text without its plus sign, if it begins with one. -/
def unsigned : List Char → List Char
  | '+' :: digits => digits
  | digits => digits

/-- What stands behind the plus sign decides which number a text writes. -/
theorem decimal_iff {text : List Char} {number : Nat} :
    Decimal text number ↔ unsigned text ≠ [] ∧ (∀ digit ∈ unsigned text, digit.isDigit = true) ∧
      Nat.ofDigitChars 10 (unsigned text) 0 = number := by
  constructor
  · rintro ⟨digits, rfl | rfl, written⟩
    · have same : unsigned text = text := by
        rw [unsigned.eq_2]
        -- A plus sign is no digit.
        rintro rest rfl
        exact absurd (written.2.1 '+' List.mem_cons_self) (by decide)
      rwa [same]
    · exact written
  · intro written
    refine ⟨unsigned text, ?_, written⟩
    cases text with
    | nil => exact .inl rfl
    | cons char rest =>
      by_cases plus : char = '+'
      · subst plus
        exact .inr rfl
      · refine .inl (unsigned.eq_2 _ ?_).symm
        intro digits same
        exact plus (List.cons.inj same).1

/-- The usual text of a number consists of digits. -/
theorem isDigit_of_mem_toString {number : Nat} {digit : Char}
    (inside : digit ∈ (toString number).toList) : digit.isDigit = true := by
  rw [Nat.toString_eq_repr, Nat.toList_repr] at inside
  exact Nat.isDigit_of_mem_toDigits (by decide) (by decide) inside

/-- The usual text of a number writes it. -/
theorem decimal_toString (number : Nat) : Decimal (toString number).toList number := by
  refine ⟨(toString number).toList, .inl rfl, ?_, fun _ => isDigit_of_mem_toString, ?_⟩
  · simp only [Nat.toString_eq_repr, Nat.toList_repr]
    exact Nat.toDigits_ne_nil
  · simp only [Nat.toString_eq_repr, Nat.toList_repr]
    exact Nat.ofDigitChars_ten_toDigits

end Text

namespace RequestHead

open Text (Decimal decimal_iff unsigned trim)

/-- Numbers are cut off at the bound without a loss: past it they stay past it. -/
theorem foldl_min_eq (bound start : Nat) (digits : List Char) :
    digits.foldl (fun number digit => min bound (10 * number + (digit.toNat - '0'.toNat)))
        (min bound start) =
      min bound (Nat.ofDigitChars 10 digits start) := by
  induction digits generalizing start with
  | nil => rfl
  | cons digit rest ih =>
    have step : min bound (10 * min bound start + (digit.toNat - '0'.toNat)) =
        min bound (10 * start + (digit.toNat - '0'.toNat)) := by
      omega
    rw [List.foldl_cons, step, ih, Nat.ofDigitChars_cons]

/-- A bounded number is the bound or the number that the digits write. -/
theorem boundedNumber_eq (bound : Nat) (digits : List Char) :
    boundedNumber bound digits = min bound (Nat.ofDigitChars 10 digits 0) := by
  have start := foldl_min_eq bound 0 digits
  rwa [Nat.min_zero] at start

/-- The reading of a length, with the plus sign taken away by a function of its own. -/
theorem readLength_eq (value : String) :
    readLength value =
      let digits := unsigned (trim value.toList)
      if digits.isEmpty || !digits.all Char.isDigit ||
          maxBodyBytes < boundedNumber (maxBodyBytes + 1) digits then
        .error .invalidContentLength
      else .ok (boundedNumber (maxBodyBytes + 1) digits) := rfl

/-- A declared length is read exactly if it writes a number that is not too large. -/
theorem readLength_eq_ok_iff {value : String} {length : Nat} :
    readLength value = .ok length ↔
      Decimal (trim value.toList) length ∧ length ≤ maxBodyBytes := by
  rw [readLength_eq, decimal_iff]
  dsimp only
  rw [boundedNumber_eq]
  generalize unsigned (trim value.toList) = digits
  by_cases written : digits ≠ [] ∧ ∀ digit ∈ digits, digit.isDigit = true
  · by_cases small : Nat.ofDigitChars 10 digits 0 ≤ maxBodyBytes
    · have kept : min (maxBodyBytes + 1) (Nat.ofDigitChars 10 digits 0) =
          Nat.ofDigitChars 10 digits 0 := by
        omega
      rw [if_neg (by simp [written.1, List.all_eq_true.mpr written.2, kept, small]), kept,
        Except.ok.injEq]
      constructor
      · rintro rfl
        exact ⟨⟨written.1, written.2, rfl⟩, small⟩
      · exact fun read => read.1.2.2
    · have cut : min (maxBodyBytes + 1) (Nat.ofDigitChars 10 digits 0) = maxBodyBytes + 1 := by
        omega
      rw [if_pos (by simp [cut])]
      constructor
      · intro refused
        cases refused
      · rintro ⟨⟨_, _, rfl⟩, bounded⟩
        exact absurd bounded small
  · rw [if_pos]
    · constructor
      · intro refused
        cases refused
      · exact fun read => absurd ⟨read.1.1, read.1.2.1⟩ written
    · by_cases empty : digits = []
      · simp [empty]
      · have other : digits.all Char.isDigit = false := by
          rw [List.all_eq_false]
          simpa [empty] using written
        simp [other]

/-- A length that is not read is refused as such. -/
theorem readLength_eq_error_iff {value : String} {cause : ReadError} :
    readLength value = .error cause ↔ cause = .invalidContentLength ∧
      ∀ length, ¬(Decimal (trim value.toList) length ∧ length ≤ maxBodyBytes) := by
  simp only [← readLength_eq_ok_iff]
  rw [readLength_eq]
  dsimp only
  split
  · simp [eq_comm]
  · simp

end RequestHead

end OriginServer
