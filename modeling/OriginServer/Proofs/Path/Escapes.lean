import OriginServer.Message.Form
import OriginServer.Message.Path
import OriginServer.Proofs.Text.Bytes
import OriginServer.Text.Chars

/-!
# Escapes in request paths

`Path.isIllegal` looks for escaped marks in the text of a path and replaces only escaped dots and
slashes. It refuses exactly the paths that show a control character or a backslash, do not begin
with a slash, or whose bytes with every escape replaced hold a NUL, a backslash or a segment of two
dots (`isIllegal_eq_false_iff`).

The argument goes through `Decoding`, which cuts a text into escapes and plain characters: what
`Form.percentDecode` makes of a text and what `Path.isIllegal` looks at are both read off the cut.
-/
namespace OriginServer

open Text (lower)
open Utf8 (ofChars)

namespace Form

/-- Bytes that were passed earlier stand before the result. -/
theorem percentDecodeFrom_append (passed earlier bytes : Bytes) :
    percentDecodeFrom (passed ++ earlier) bytes =
      earlier.reverse ++ percentDecodeFrom passed bytes := by
  fun_induction percentDecodeFrom passed bytes with
  | case1 passed => simp [percentDecodeFrom]
  | case2 passed high low rest byte written ih =>
    rw [percentDecodeFrom, written]
    exact ih
  | case3 passed high low rest unwritten ih =>
    rw [percentDecodeFrom, unwritten]
    exact ih
  | case4 passed byte rest notEscape ih =>
    rw [percentDecodeFrom]
    · exact ih
    · exact notEscape

/-- An escape is replaced by the byte that it writes. -/
theorem percentDecode_escape {high low byte : UInt8} (written : hexByte? high low = some byte)
    (rest : Bytes) : percentDecode (0x25 :: high :: low :: rest) = byte :: percentDecode rest := by
  rw [percentDecode, percentDecodeFrom, written]
  exact percentDecodeFrom_append [] [byte] rest

/-- A byte that begins no escape stands for itself. -/
theorem percentDecode_plain {byte : UInt8} {rest : Bytes}
    (plain : byte = 0x25 → ∀ high low more, rest = high :: low :: more → hexByte? high low = none) :
    percentDecode (byte :: rest) = byte :: percentDecode rest := by
  have passed : percentDecodeFrom [] (byte :: rest) = percentDecodeFrom [byte] rest := by
    by_cases mark : byte = 0x25
    · subst mark
      match rest with
      | [] => rfl
      | [_] => rfl
      | high :: low :: more => rw [percentDecodeFrom, plain rfl high low more rfl]
    · rw [percentDecodeFrom]
      rintro high low more rfl
      exact absurd rfl mark
  rw [percentDecode, passed]
  exact percentDecodeFrom_append [] [byte] rest

/-- Bytes without a percent sign stand for themselves. -/
theorem percentDecode_append {front : Bytes} (unmarked : 0x25 ∉ front) (rest : Bytes) :
    percentDecode (front ++ rest) = front ++ percentDecode rest := by
  induction front with
  | nil => rfl
  | cons byte front ih =>
    rw [List.mem_cons, not_or] at unmarked
    rw [List.cons_append, percentDecode_plain fun mark => absurd mark.symm unmarked.1,
      ih unmarked.2, List.cons_append]

/-- A byte at the end that neither is a percent sign nor writes a digit belongs to no escape. -/
theorem percentDecodeFrom_concat {last : UInt8} (unmarked : last ≠ 0x25)
    (unread : hexDigit? last = none) (passed bytes : Bytes) :
    percentDecodeFrom passed (bytes ++ [last]) = percentDecodeFrom passed bytes ++ [last] := by
  have alone : ∀ passed, percentDecodeFrom passed [last] = passed.reverse ++ [last] := by
    intro passed
    rw [percentDecodeFrom.eq_3 passed last [] (fun _ _ _ mark => absurd mark unmarked)]
    simp [percentDecodeFrom]
  fun_induction percentDecodeFrom passed bytes with
  | case1 passed => exact alone passed
  | case2 passed high low rest byte written ih =>
    simp only [List.cons_append, percentDecodeFrom, written]
    exact ih
  | case3 passed high low rest unwritten ih =>
    simp only [List.cons_append, percentDecodeFrom, unwritten] at ih ⊢
    exact ih
  | case4 passed byte rest notEscape ih =>
    rw [List.cons_append, ← ih]
    by_cases mark : byte = 0x25
    · subst mark
      match rest with
      | [] => rw [List.nil_append, percentDecodeFrom.eq_3 _ _ _ (by simp)]
      | [high] =>
        -- The last byte stands where an escape has its second digit.
        have unwritten : hexByte? high last = none := by
          simp [hexByte?, unread]
        simp only [List.cons_append, List.nil_append, percentDecodeFrom, unwritten]
      | high :: low :: more => exact absurd rfl (notEscape high low more rfl)
    · rw [percentDecodeFrom.eq_3 _ _ _ (fun _ _ _ same => absurd same mark)]

end Form

namespace Text

/-- A character that is not ASCII has only one case. -/
theorem toLower_of_wide {char : Char} (wide : 128 ≤ char.toNat) : char.toLower = char := by
  refine dif_neg ?_
  rintro ⟨_, small⟩
  have : char.toNat ≤ 'Z'.toNat := small
  have : 'Z'.toNat = 90 := rfl
  omega

/-- A sign without cases is the small letter of itself alone. -/
theorem toLower_eq_iff {char sign : Char}
    (unlettered : sign.toUpper = sign ∧ sign.toLower = sign) :
    char.toLower = sign ↔ char = sign := by
  by_cases ascii : char.toNat < 128
  · -- A character with another small letter has a small letter with cases.
    have table : ∀ number < 128, (Char.ofNat number).toLower = Char.ofNat number ∨
        (Char.ofNat number).toLower.toUpper ≠ (Char.ofNat number).toLower := by decide +kernel
    have entry := table char.toNat ascii
    rw [Char.ofNat_toNat] at entry
    constructor
    · intro small
      rw [small] at entry
      cases entry with
      | inl same => exact same.symm
      | inr cased => exact absurd unlettered.1 cased
    · rintro rfl
      exact unlettered.2
  · rw [toLower_of_wide (Nat.le_of_not_lt ascii)]

/-- A character that is not ASCII is no hexadecimal digit. -/
theorem hexDigit?_of_wide {char : Char} (wide : 128 ≤ char.toNat) : hexDigit? char = none := by
  have above : ∀ bound : Char, bound.toNat < 128 → ¬char ≤ bound := by
    intro bound small below
    have : char.toNat ≤ bound.toNat := below
    omega
  simp [hexDigit?, above '9' (by decide), above 'f' (by decide), above 'F' (by decide)]

/-- Hexadecimal digits are ASCII characters. -/
theorem ascii_of_hexDigit? {char : Char} {digit : Nat} (read : hexDigit? char = some digit) :
    char.toNat < 128 := by
  refine Nat.lt_of_not_le fun wide => ?_
  rw [hexDigit?_of_wide wide] at read
  contradiction

/-- A digit is read from the characters that write it, in either case. -/
theorem hexDigit?_eq_some_iff {char : Char} {digit : Nat} (small : digit < 16) :
    hexDigit? char = some digit ↔ char.toLower = digit.digitChar := by
  by_cases ascii : char.toNat < 128
  · have table : ∀ number < 128, ∀ digit < 16, (hexDigit? (Char.ofNat number) = some digit ↔
        (Char.ofNat number).toLower = digit.digitChar) := by decide +kernel
    have entry := table char.toNat ascii digit small
    rwa [Char.ofNat_toNat] at entry
  · have wide := Nat.le_of_not_lt ascii
    rw [hexDigit?_of_wide wide, toLower_of_wide wide]
    have digits : ∀ digit < 16, digit.digitChar.toNat < 128 := by decide
    have narrow := digits digit small
    constructor
    · simp
    · rintro rfl
      omega

/-- A digit is written by one small character only. -/
theorem digitChar_inj : ∀ digit < 16, ∀ other < 16,
    digit.digitChar = other.digitChar → digit = other := by
  decide

/-- The characters of digits are neither percent signs nor dots nor slashes. -/
theorem digitChar_plain : ∀ digit < 16,
    digit.digitChar ≠ '%' ∧ digit.digitChar ≠ '.' ∧ digit.digitChar ≠ '/' := by
  decide

/-- Digits are below sixteen. -/
theorem hexDigit?_lt {char : Char} {digit : Nat} (read : hexDigit? char = some digit) :
    digit < 16 := by
  have table : ∀ number < 128, (hexDigit? (Char.ofNat number)).all (· < 16) := by decide
  have entry := table char.toNat (ascii_of_hexDigit? read)
  rw [Char.ofNat_toNat, read] at entry
  simpa using entry

/-- Two digits write a number below 256. -/
theorem hexNumber?_pair {high low : Char} {number : Nat} :
    hexNumber? [high, low] = some number ↔
      ∃ first last, hexDigit? high = some first ∧ hexDigit? low = some last ∧
        number = 16 * first + last := by
  simp only [hexNumber?, List.foldlM, bind, Option.bind, Nat.mul_zero, Nat.zero_add]
  cases hexDigit? high with
  | none => simp
  | some first =>
    cases hexDigit? low with
    | none => simp
    | some last => simp [eq_comm]

/-- Two characters write the number of two digits in either case. -/
theorem hexNumber?_eq_some_iff {high low : Char} {first last : Nat} (bound : first < 16)
    (lastBound : last < 16) : hexNumber? [high, low] = some (16 * first + last) ↔
      high.toLower = first.digitChar ∧ low.toLower = last.digitChar := by
  rw [hexNumber?_pair, ← hexDigit?_eq_some_iff bound, ← hexDigit?_eq_some_iff lastBound]
  constructor
  · rintro ⟨readFirst, readLast, high, low, same⟩
    have := hexDigit?_lt high
    have := hexDigit?_lt low
    obtain rfl : first = readFirst := by omega
    obtain rfl : last = readLast := by omega
    exact ⟨high, low⟩
  · rintro ⟨high, low⟩
    exact ⟨first, last, high, low, rfl⟩

end Text

namespace Form

/-- A hexadecimal digit among the bytes is one of ASCII. -/
theorem ascii_of_hexDigit? {byte digit : UInt8} (read : hexDigit? byte = some digit) :
    byte.toNat < 128 := by
  have table : ∀ number < 256, 128 ≤ number → hexDigit? (UInt8.ofNat number) = none := by
    decide +kernel
  refine Nat.lt_of_not_le fun wide => ?_
  have entry := table byte.toNat byte.toNat_lt wide
  rw [UInt8.ofNat_toNat, read] at entry
  simp at entry

/-- Digits among the bytes are read as the characters are. -/
theorem hexDigit?_of_char {char : Char} (ascii : char.toNat < 128) :
    hexDigit? (UInt8.ofNat char.toNat) = (Text.hexDigit? char).map UInt8.ofNat := by
  have table : ∀ number < 128, hexDigit? (UInt8.ofNat number) =
      (Text.hexDigit? (Char.ofNat number)).map UInt8.ofNat := by decide +kernel
  have entry := table char.toNat ascii
  rwa [Char.ofNat_toNat] at entry

/-- Two ASCII characters write the same number as their bytes. -/
theorem hexByte?_of_chars {high low : Char} (highAscii : high.toNat < 128)
    (lowAscii : low.toNat < 128) :
    hexByte? (UInt8.ofNat high.toNat) (UInt8.ofNat low.toNat) =
      (Text.hexNumber? [high, low]).map UInt8.ofNat := by
  simp only [hexByte?, hexDigit?_of_char highAscii, hexDigit?_of_char lowAscii, Text.hexNumber?,
    List.foldlM, bind, Option.bind]
  cases Text.hexDigit? high with
  | none => rfl
  | some first =>
    cases Text.hexDigit? low with
    | none => rfl
    | some last => simp [UInt8.ofNat_add, UInt8.ofNat_mul]

/-- A text cut into escapes and plain characters, with the bytes that it stands for. -/
inductive Decoding : List Char → Bytes → Prop where
  /-- Nothing stands for nothing. -/
  | nil : Decoding [] []
  /-- An escape stands for the byte that its digits write. -/
  | escape {high low : Char} {first last : Nat} {chars : List Char} {bytes : Bytes}
      (readFirst : Text.hexDigit? high = some first) (readLast : Text.hexDigit? low = some last)
      (later : Decoding chars bytes) :
      Decoding ('%' :: high :: low :: chars) (UInt8.ofNat (16 * first + last) :: bytes)
  /-- A character that begins no escape stands for its own bytes. -/
  | plain {char : Char} {chars : List Char} {bytes : Bytes}
      (unescaped : char = '%' → ∀ high low rest, chars = high :: low :: rest →
        Text.hexNumber? [high, low] = none)
      (later : Decoding chars bytes) :
      Decoding (char :: chars) (String.utf8EncodeChar char ++ bytes)

/-- A pair of bytes that writes a byte consists of two digits. -/
theorem ascii_of_hexByte? {high low byte : UInt8} (written : hexByte? high low = some byte) :
    high.toNat < 128 ∧ low.toNat < 128 := by
  simp only [hexByte?, bind, Option.bind] at written
  cases first : hexDigit? high with
  | none => simp [first] at written
  | some digit =>
    cases last : hexDigit? low with
    | none => simp [first, last] at written
    | some other => exact ⟨ascii_of_hexDigit? first, ascii_of_hexDigit? last⟩

/-- The escape of two characters that write a number is replaced by one byte. -/
theorem percentDecode_chars {high low : Char} {number : Nat}
    (written : Text.hexNumber? [high, low] = some number) (chars : List Char) :
    percentDecode (ofChars ('%' :: high :: low :: chars)) =
      UInt8.ofNat number :: percentDecode (ofChars chars) := by
  obtain ⟨first, last, readFirst, readLast, _⟩ := Text.hexNumber?_pair.mp written
  have highAscii := Text.ascii_of_hexDigit? readFirst
  have lowAscii := Text.ascii_of_hexDigit? readLast
  have spelled : ofChars ('%' :: high :: low :: chars) =
      0x25 :: UInt8.ofNat high.toNat :: UInt8.ofNat low.toNat :: ofChars chars := by
    simp only [ofChars, List.flatMap_cons, Utf8.bytes_of_ascii highAscii,
      Utf8.bytes_of_ascii lowAscii]
    rfl
  rw [spelled, percentDecode_escape]
  rw [hexByte?_of_chars highAscii lowAscii, written]
  rfl

/-- A character that begins no escape keeps its bytes. -/
theorem percentDecode_char {char : Char} {chars : List Char}
    (unescaped : char = '%' → ∀ high low rest, chars = high :: low :: rest →
      Text.hexNumber? [high, low] = none) :
    percentDecode (ofChars (char :: chars)) =
      String.utf8EncodeChar char ++ percentDecode (ofChars chars) := by
  rw [ofChars, List.flatMap_cons]
  by_cases mark : char = '%'
  · subst mark
    refine percentDecode_plain fun _ high low more same => ?_
    cases written : hexByte? high low with
    | none => rfl
    | some byte =>
      -- The two bytes are digits, so two characters would write the same number.
      obtain ⟨highAscii, lowAscii⟩ := ascii_of_hexByte? written
      obtain ⟨first, rest, rfl, firstNumber, tail⟩ := Utf8.ofChars_eq_cons highAscii same
      obtain ⟨last, later, rfl, lastNumber, _⟩ := Utf8.ofChars_eq_cons lowAscii tail.symm
      have pair := hexByte?_of_chars (firstNumber ▸ highAscii) (lastNumber ▸ lowAscii)
      rw [firstNumber, lastNumber, UInt8.ofNat_toNat, UInt8.ofNat_toNat, written,
        unescaped rfl first last later rfl] at pair
      contradiction
  · refine percentDecode_append ?_ _
    intro inside
    have number := Utf8.eq_of_mem_ascii (by decide) inside
    exact mark (Char.toNat_inj.mp number)

/-- Every text is cut, and stands for its bytes with the escapes replaced. -/
theorem decoding_percentDecode (chars : List Char) :
    Decoding chars (percentDecode (ofChars chars)) := by
  induction size : chars.length using Nat.strongRecOn generalizing chars with
  | ind size ih =>
    cases chars with
    | nil => exact .nil
    | cons char rest =>
      by_cases escape : char = '%' ∧ ∃ high low more number, rest = high :: low :: more ∧
          Text.hexNumber? [high, low] = some number
      · obtain ⟨rfl, high, low, more, number, rfl, written⟩ := escape
        obtain ⟨first, last, readFirst, readLast, rfl⟩ := Text.hexNumber?_pair.mp written
        rw [percentDecode_chars written]
        exact .escape readFirst readLast (ih _ (by simp at size; omega) more rfl)
      · have unescaped : char = '%' → ∀ high low more, rest = high :: low :: more →
            Text.hexNumber? [high, low] = none := by
          intro mark high low more same
          cases written : Text.hexNumber? [high, low] with
          | none => rfl
          | some number => exact absurd ⟨mark, high, low, more, number, same, written⟩ escape
        rw [percentDecode_char unescaped]
        exact .plain unescaped (ih _ (by simp at size; omega) rest rfl)

/-- An escape in small letters is written by small digits. -/
theorem lower_escape {high low : Char} {first last : Nat}
    (readFirst : Text.hexDigit? high = some first) (readLast : Text.hexDigit? low = some last)
    (chars : List Char) : lower ('%' :: high :: low :: chars) =
      '%' :: first.digitChar :: last.digitChar :: lower chars := by
  have spelled := (Text.hexDigit?_eq_some_iff (Text.hexDigit?_lt readFirst)).mp readFirst
  have lastSpelled := (Text.hexDigit?_eq_some_iff (Text.hexDigit?_lt readLast)).mp readLast
  simp only [lower, List.map_cons, spelled, lastSpelled]
  rfl

/-- Two digits write the byte of two others if they are written alike. -/
theorem escaped_eq_iff {first last high low : Nat} (bound : first < 16) (lastBound : last < 16)
    (highBound : high < 16) (lowBound : low < 16) :
    UInt8.ofNat (16 * first + last) = UInt8.ofNat (16 * high + low) ↔
      first.digitChar = high.digitChar ∧ last.digitChar = low.digitChar := by
  constructor
  · intro same
    have numbers := congrArg UInt8.toNat same
    rw [UInt8.toNat_ofNat', UInt8.toNat_ofNat'] at numbers
    obtain rfl : first = high := by omega
    obtain rfl : last = low := by omega
    exact ⟨rfl, rfl⟩
  · rintro ⟨firstSame, lastSame⟩
    rw [Text.digitChar_inj _ bound _ highBound firstSame,
      Text.digitChar_inj _ lastBound _ lowBound lastSame]

/-- Texts that begin with different pairs of characters are different. -/
theorem ne_of_pair_ne {first last high low : Char} (different : ¬(first = high ∧ last = low))
    (rest more : List Char) : first :: last :: rest ≠ high :: low :: more := by
  intro same
  rw [List.cons.injEq, List.cons.injEq] at same
  exact different ⟨same.1, same.2.1⟩

/-- Where no escape begins, no two digits stand in either case. -/
theorem lower_ne_digits {chars : List Char}
    (unescaped : ∀ high low rest, chars = high :: low :: rest →
      Text.hexNumber? [high, low] = none)
    {first last : Nat} (bound : first < 16) (lastBound : last < 16) (rest : List Char) :
    lower chars ≠ first.digitChar :: last.digitChar :: rest := by
  intro same
  match chars, same with
  | [_], same => simp [lower] at same
  | high :: low :: more, same =>
    simp only [lower, List.map_cons, List.cons.injEq] at same
    have written := (Text.hexNumber?_eq_some_iff bound lastBound).mpr ⟨same.1, same.2.1⟩
    rw [unescaped high low more rfl] at written
    contradiction

end Form

namespace Path

/-- A character other than a percent sign begins no escaped mark. -/
theorem hasEscapedMark_of_ne {char : Char} (plain : char ≠ '%') (rest : List Char) :
    hasEscapedMark (char :: rest) = hasEscapedMark rest := by
  rw [hasEscapedMark]
  · rintro _ rfl
    exact absurd rfl plain
  · rintro _ rfl
    exact absurd rfl plain

/-- A percent sign begins an escaped mark only before the digits of one. -/
theorem hasEscapedMark_of_unescaped {rest : List Char}
    (null : ∀ more, rest ≠ '0' :: '0' :: more) (backslash : ∀ more, rest ≠ '5' :: 'c' :: more) :
    hasEscapedMark ('%' :: rest) = hasEscapedMark rest := by
  rw [hasEscapedMark]
  · rintro more _ rfl
    exact null more rfl
  · rintro more _ rfl
    exact backslash more rfl

/-- An escape is an escaped mark if it stands for a NUL or a backslash; otherwise the text goes on
behind it. -/
theorem hasEscapedMark_escape {high low : Char} {first last : Nat}
    (readFirst : Text.hexDigit? high = some first) (readLast : Text.hexDigit? low = some last)
    (chars : List Char) :
    hasEscapedMark (lower ('%' :: high :: low :: chars)) = true ↔
      0 = UInt8.ofNat (16 * first + last) ∨ 0x5C = UInt8.ofNat (16 * first + last) ∨
        hasEscapedMark (lower chars) = true := by
  have bound := Text.hexDigit?_lt readFirst
  have lastBound := Text.hexDigit?_lt readLast
  have isNull : 0 = UInt8.ofNat (16 * first + last) ↔
      first.digitChar = '0' ∧ last.digitChar = '0' :=
    eq_comm.trans
      (Form.escaped_eq_iff bound lastBound (by decide : 0 < 16) (by decide : 0 < 16))
  have isBackslash : 0x5C = UInt8.ofNat (16 * first + last) ↔
      first.digitChar = '5' ∧ last.digitChar = 'c' :=
    eq_comm.trans
      (Form.escaped_eq_iff bound lastBound (by decide : 5 < 16) (by decide : 12 < 16))
  rw [Form.lower_escape readFirst readLast, isNull, isBackslash]
  by_cases null : first.digitChar = '0' ∧ last.digitChar = '0'
  · simp [null, hasEscapedMark]
  · by_cases backslash : first.digitChar = '5' ∧ last.digitChar = 'c'
    · simp [backslash, hasEscapedMark]
    · rw [hasEscapedMark_of_unescaped (Form.ne_of_pair_ne null _)
          (Form.ne_of_pair_ne backslash _),
        hasEscapedMark_of_ne (Text.digitChar_plain first bound).1,
        hasEscapedMark_of_ne (Text.digitChar_plain last lastBound).1]
      simp only [null, backslash, false_or]

/-- A character that begins no escape begins no escaped mark. -/
theorem hasEscapedMark_plain {char : Char} {chars : List Char}
    (unescaped : char = '%' → ∀ high low rest, chars = high :: low :: rest →
      Text.hexNumber? [high, low] = none) :
    hasEscapedMark (lower (char :: chars)) = hasEscapedMark (lower chars) := by
  by_cases mark : char = '%'
  · subst mark
    have noDigits {first last : Nat} (bound : first < 16) (lastBound : last < 16) :=
      Form.lower_ne_digits (unescaped rfl) bound lastBound
    exact hasEscapedMark_of_unescaped (noDigits (by decide : 0 < 16) (by decide : 0 < 16))
      (noDigits (by decide : 5 < 16) (by decide : 12 < 16))
  · exact hasEscapedMark_of_ne (fun same => mark ((Text.toLower_eq_iff (by decide)).mp same)) _

/-- A text without NUL and backslash holds an escaped one iff its decoded bytes hold one. -/
theorem hasEscapedMark_iff {chars : List Char} {bytes : Bytes}
    (decoding : Form.Decoding chars bytes)
    (clean : ∀ char ∈ chars, char ≠ '\x00' ∧ char ≠ '\\') :
    hasEscapedMark (lower chars) = true ↔ 0 ∈ bytes ∨ 0x5C ∈ bytes := by
  induction decoding with
  | nil => simp [lower, hasEscapedMark]
  | escape readFirst readLast later ih =>
    have rest := ih fun char inside => clean char (by simp [inside])
    rw [hasEscapedMark_escape readFirst readLast, rest, List.mem_cons, List.mem_cons]
    simp only [or_assoc, or_left_comm]
  | @plain char chars bytes unescaped later ih =>
    have rest := ih fun char inside => clean char (by simp [inside])
    obtain ⟨notNull, notBackslash⟩ := clean char (by simp)
    have nullByte : 0 ∉ String.utf8EncodeChar char := fun inside =>
      notNull (Char.toNat_inj.mp (Utf8.eq_of_mem_ascii (by decide) inside))
    have backslashByte : 0x5C ∉ String.utf8EncodeChar char := fun inside =>
      notBackslash (Char.toNat_inj.mp (Utf8.eq_of_mem_ascii (by decide) inside))
    rw [hasEscapedMark_plain unescaped, rest, List.mem_append, List.mem_append]
    simp only [nullByte, backslashByte, false_or]

/-- Earlier characters stand before the text with its escaped dots and slashes replaced. -/
theorem plainFrom_append (passed earlier text : List Char) :
    plainFrom (passed ++ earlier) text = earlier.reverse ++ plainFrom passed text := by
  fun_induction plainFrom passed text with
  | case1 passed => simp [plainFrom]
  | case2 passed rest ih =>
    rw [plainFrom]
    exact ih
  | case3 passed rest ih =>
    rw [plainFrom]
    exact ih
  | case4 passed char rest notDot notSlash ih =>
    rw [plainFrom]
    · exact ih
    · exact notDot
    · exact notSlash

/-- A character that begins no escaped dot or slash stands for itself. -/
theorem plainFrom_cons {char : Char} {rest : List Char}
    (dot : ∀ more, char = '%' → rest ≠ '2' :: 'e' :: more)
    (slash : ∀ more, char = '%' → rest ≠ '2' :: 'f' :: more) :
    plainFrom [] (char :: rest) = char :: plainFrom [] rest := by
  rw [plainFrom]
  · exact plainFrom_append [] [char] rest
  · exact dot
  · exact slash

/-- A character other than a percent sign stands for itself. -/
theorem plainFrom_cons_of_ne {char : Char} (plain : char ≠ '%') (rest : List Char) :
    plainFrom [] (char :: rest) = char :: plainFrom [] rest :=
  plainFrom_cons (fun _ same => absurd same plain) (fun _ same => absurd same plain)

/-- An escaped dot is a dot. -/
theorem plainFrom_dot (rest : List Char) :
    plainFrom [] ('%' :: '2' :: 'e' :: rest) = '.' :: plainFrom [] rest := by
  rw [plainFrom]
  exact plainFrom_append [] ['.'] rest

/-- An escaped slash is a slash. -/
theorem plainFrom_slash (rest : List Char) :
    plainFrom [] ('%' :: '2' :: 'f' :: rest) = '/' :: plainFrom [] rest := by
  rw [plainFrom]
  exact plainFrom_append [] ['/'] rest

/-- Characters and bytes in which dots and slashes stand at the same places. -/
inductive Alike : List Char → Bytes → Prop where
  /-- Nothing stands in either. -/
  | nil : Alike [] []
  /-- Both begin with a dot. -/
  | dot {chars : List Char} {bytes : Bytes} (later : Alike chars bytes) :
      Alike ('.' :: chars) (0x2E :: bytes)
  /-- Both begin with a slash. -/
  | slash {chars : List Char} {bytes : Bytes} (later : Alike chars bytes) :
      Alike ('/' :: chars) (0x2F :: bytes)
  /-- Both begin with something else. -/
  | other {front : List Char} {block : Bytes} {chars : List Char} {bytes : Bytes}
      (frontNonempty : front ≠ []) (blockNonempty : block ≠ [])
      (frontPlain : ∀ char ∈ front, char ≠ '.' ∧ char ≠ '/')
      (blockPlain : ∀ byte ∈ block, byte ≠ 0x2E ∧ byte ≠ 0x2F) (later : Alike chars bytes) :
      Alike (front ++ chars) (block ++ bytes)

/-- What holds no separator is put before the first segment. -/
theorem splitOn_append {α : Type} [BEq α] [LawfulBEq α] {separator : α} {front : List α}
    (absent : separator ∉ front) {rest head : List α} {tail : List (List α)}
    (split : rest.splitOn separator = head :: tail) :
    (front ++ rest).splitOn separator = (front ++ head) :: tail := by
  induction front with
  | nil => exact split
  | cons item front ih =>
    rw [List.mem_cons, not_or] at absent
    rw [List.cons_append, List.splitOn_cons_eq_if_modifyHead, ih absent.2, if_neg]
    · rfl
    · simpa using fun same => absent.1 same.symm

/-- Where dots and slashes stand at the same places, the first segments are both empty, both one
dot or both two dots or neither, and two dots follow later in both or in neither. -/
theorem splitOn_of_alike {chars : List Char} {bytes : Bytes} (alike : Alike chars bytes) :
    ∃ head tail block blocks, chars.splitOn '/' = head :: tail ∧
      bytes.splitOn 0x2F = block :: blocks ∧ (head = [] ↔ block = []) ∧
      (head = ['.'] ↔ block = [0x2E]) ∧ (head = ['.', '.'] ↔ block = [0x2E, 0x2E]) ∧
      (['.', '.'] ∈ tail ↔ [0x2E, 0x2E] ∈ blocks) := by
  induction alike with
  | nil => exact ⟨[], [], [], [], by simp⟩
  | dot later ih =>
    obtain ⟨head, tail, block, blocks, split, cut, empty, one, two, more⟩ := ih
    refine ⟨'.' :: head, tail, 0x2E :: block, blocks, ?_, ?_, ?_⟩
    · exact splitOn_append (by decide : '/' ∉ ['.']) split
    · exact splitOn_append (by decide : (0x2F : UInt8) ∉ [0x2E]) cut
    · simp [empty, one, more]
  | slash later ih =>
    obtain ⟨head, tail, block, blocks, split, cut, empty, one, two, more⟩ := ih
    refine ⟨[], head :: tail, [], block :: blocks, ?_, ?_, ?_⟩
    · rw [List.splitOn_cons_eq_if_modifyHead, split]
      rfl
    · rw [List.splitOn_cons_eq_if_modifyHead, cut]
      rfl
    · simp [@eq_comm _ ['.', '.'] head, @eq_comm _ [0x2E, 0x2E] block, two, more]
  | @other front block chars bytes frontNonempty blockNonempty frontPlain blockPlain later ih =>
    obtain ⟨head, tail, cutHead, blocks, split, cut, -, -, -, more⟩ := ih
    refine ⟨front ++ head, tail, block ++ cutHead, blocks, ?_, ?_, ?_⟩
    · exact splitOn_append (fun inside => (frontPlain _ inside).2 rfl) split
    · exact splitOn_append (fun inside => (blockPlain _ inside).2 rfl) cut
    · match front, block, frontNonempty, blockNonempty with
      | char :: _, byte :: _, _, _ =>
        have notDot := (frontPlain char (by simp)).1
        have notDotByte := (blockPlain byte (by simp)).1
        simp [notDot, notDotByte, more]

/-- An escape keeps dots and slashes at the same places. -/
theorem alike_escape {high low : Char} {first last : Nat}
    (readFirst : Text.hexDigit? high = some first) (readLast : Text.hexDigit? low = some last)
    {chars : List Char} {bytes : Bytes} (later : Alike (plainFrom [] (lower chars)) bytes) :
    Alike (plainFrom [] (lower ('%' :: high :: low :: chars)))
      (UInt8.ofNat (16 * first + last) :: bytes) := by
  have bound := Text.hexDigit?_lt readFirst
  have lastBound := Text.hexDigit?_lt readLast
  have isDot : UInt8.ofNat (16 * first + last) = 0x2E ↔
      first.digitChar = '2' ∧ last.digitChar = 'e' :=
    Form.escaped_eq_iff bound lastBound (by decide : 2 < 16) (by decide : 14 < 16)
  have isSlash : UInt8.ofNat (16 * first + last) = 0x2F ↔
      first.digitChar = '2' ∧ last.digitChar = 'f' :=
    Form.escaped_eq_iff bound lastBound (by decide : 2 < 16) (by decide : 15 < 16)
  rw [Form.lower_escape readFirst readLast]
  by_cases dot : first.digitChar = '2' ∧ last.digitChar = 'e'
  · rw [isDot.mpr dot, dot.1, dot.2, plainFrom_dot]
    exact .dot later
  · by_cases slash : first.digitChar = '2' ∧ last.digitChar = 'f'
    · rw [isSlash.mpr slash, slash.1, slash.2, plainFrom_slash]
      exact .slash later
    · have kept : plainFrom [] ('%' :: first.digitChar :: last.digitChar :: lower chars) =
          ['%', first.digitChar, last.digitChar] ++ plainFrom [] (lower chars) := by
        rw [plainFrom_cons (fun _ _ => Form.ne_of_pair_ne dot _ _)
            (fun _ _ => Form.ne_of_pair_ne slash _ _),
          plainFrom_cons_of_ne (Text.digitChar_plain first bound).1,
          plainFrom_cons_of_ne (Text.digitChar_plain last lastBound).1]
        rfl
      have blockPlain : ∀ byte ∈ [UInt8.ofNat (16 * first + last)],
          byte ≠ 0x2E ∧ byte ≠ 0x2F := by
        intro byte inside
        rw [List.mem_singleton.mp inside]
        exact ⟨fun same => dot (isDot.mp same), fun same => slash (isSlash.mp same)⟩
      rw [kept]
      refine .other (by simp) (by simp) ?_ blockPlain later
      simp [Text.digitChar_plain first bound, Text.digitChar_plain last lastBound]

/-- A character that begins no escape keeps dots and slashes at the same places. -/
theorem alike_char {char : Char} {chars : List Char} {bytes : Bytes}
    (unescaped : char = '%' → ∀ high low rest, chars = high :: low :: rest →
      Text.hexNumber? [high, low] = none)
    (later : Alike (plainFrom [] (lower chars)) bytes) :
    Alike (plainFrom [] (lower (char :: chars))) (String.utf8EncodeChar char ++ bytes) := by
  have text : plainFrom [] (lower (char :: chars)) =
      [char.toLower] ++ plainFrom [] (lower chars) := by
    by_cases mark : char = '%'
    · subst mark
      have noDigits {first last : Nat} (bound : first < 16) (lastBound : last < 16) :=
        Form.lower_ne_digits (unescaped rfl) bound lastBound
      exact plainFrom_cons (fun more _ => noDigits (by decide : 2 < 16) (by decide : 14 < 16) more)
        (fun more _ => noDigits (by decide : 2 < 16) (by decide : 15 < 16) more)
    · have unmarked := fun same => mark ((Text.toLower_eq_iff (by decide)).mp same)
      exact plainFrom_cons_of_ne unmarked _
  rw [text]
  by_cases dot : char = '.'
  · subst dot
    exact .dot later
  · by_cases slash : char = '/'
    · subst slash
      exact .slash later
    · refine .other (by simp) String.utf8EncodeChar_ne_nil ?_ ?_ later
      · intro other inside
        rw [List.mem_singleton.mp inside]
        exact ⟨fun same => dot ((Text.toLower_eq_iff (by decide)).mp same),
          fun same => slash ((Text.toLower_eq_iff (by decide)).mp same)⟩
      · intro byte inside
        constructor
        · rintro rfl
          exact dot (Char.toNat_inj.mp (Utf8.eq_of_mem_ascii (by decide) inside))
        · rintro rfl
          exact slash (Char.toNat_inj.mp (Utf8.eq_of_mem_ascii (by decide) inside))

/-- The text that is split and the decoded bytes have the same dots and slashes. -/
theorem alike_plain {chars : List Char} {bytes : Bytes} (decoding : Form.Decoding chars bytes) :
    Alike (plainFrom [] (lower chars)) bytes := by
  induction decoding with
  | nil => exact .nil
  | escape readFirst readLast later ih => exact alike_escape readFirst readLast ih
  | plain unescaped later ih => exact alike_char unescaped ih

/-- The text that is split has a segment of two dots iff the decoded bytes have one. -/
theorem two_dots_mem_segments_iff {chars : List Char} {bytes : Bytes}
    (decoding : Form.Decoding chars bytes) :
    ['.', '.'] ∈ segments (lower chars) ↔ [0x2E, 0x2E] ∈ bytes.splitOn 0x2F := by
  obtain ⟨head, tail, block, blocks, split, cut, -, -, two, more⟩ :=
    splitOn_of_alike (alike_plain decoding)
  rw [segments, split, cut, List.mem_cons, List.mem_cons, eq_comm, two, eq_comm, more]

/-- A path is allowed iff it begins with a slash, shows neither control characters nor backslashes,
and its bytes with every escape replaced hold no NUL, no backslash and no segment of two dots. -/
theorem isIllegal_eq_false_iff (path : String) :
    isIllegal path = false ↔ path.toList.head? = some '/' ∧
      (∀ char ∈ path.toList, isControl char = false ∧ char ≠ '\\') ∧
      0 ∉ Form.percentDecode (Utf8.encode path) ∧ 0x5C ∉ Form.percentDecode (Utf8.encode path) ∧
      [0x2E, 0x2E] ∉ (Form.percentDecode (Utf8.encode path)).splitOn 0x2F := by
  have decoding := Form.decoding_percentDecode path.toList
  rw [← Utf8.encode_eq_ofChars] at decoding
  have dots := two_dots_mem_segments_iff decoding
  simp only [isIllegal, Bool.or_eq_false_iff, List.any_eq_false, List.contains_eq_mem,
    decide_eq_false_iff_not, dots, bne_eq_false_iff_eq, Bool.or_eq_true, decide_eq_true_eq, not_or,
    and_assoc, Bool.not_eq_true]
  refine and_congr_right fun _ => and_congr_right fun clean => ?_
  have noMark := hasEscapedMark_iff decoding fun char inside =>
    ⟨fun null => by simpa [null, isControl] using (clean char inside).1, (clean char inside).2⟩
  rw [← Bool.not_eq_true, noMark, not_or, and_assoc]

/-- The reasons to refuse a path. -/
inductive Forbidden (path : String) : Prop where
  /-- The path does not begin with a slash. -/
  | relative (start : path.toList.head? ≠ some '/')
  /-- The path shows a control character. -/
  | control {char : Char} (inside : char ∈ path.toList) (control : isControl char = true)
  /-- The path shows a backslash. -/
  | backslash (inside : '\\' ∈ path.toList)
  /-- With every escape replaced once, the path holds a NUL. -/
  | decodedNull (inside : 0 ∈ Form.percentDecode (Utf8.encode path))
  /-- With every escape replaced once, the path holds a backslash. -/
  | decodedBackslash (inside : 0x5C ∈ Form.percentDecode (Utf8.encode path))
  /-- With every escape replaced once, the path has a segment of two dots. -/
  | decodedUp (inside : [0x2E, 0x2E] ∈ (Form.percentDecode (Utf8.encode path)).splitOn 0x2F)

/-- A path that there is a reason to refuse is refused. -/
theorem isIllegal_of_forbidden {path : String} (forbidden : Forbidden path) :
    isIllegal path = true := by
  rw [← Bool.not_eq_false]
  intro legal
  obtain ⟨start, clean, noNull, noBackslash, noUp⟩ := (isIllegal_eq_false_iff path).mp legal
  cases forbidden with
  | relative other => exact other start
  | control inside control => simp [(clean _ inside).1] at control
  | backslash inside => exact (clean _ inside).2 rfl
  | decodedNull inside => exact noNull inside
  | decodedBackslash inside => exact noBackslash inside
  | decodedUp inside => exact noUp inside

end Path

end OriginServer
