import OriginServer.Proofs.Path.Escapes
import OriginServer.Unicode.CategoryTables
import OriginServer.Unicode.CharSet

/-!
# Legal paths

What a path shows and what it stands for decide whether it is refused, not how it is spelled. There
is one way to replace the escapes of a path (`Form.decoding_iff`), and the path is let through
exactly if it begins with a slash, shows no character of the category control and no backslash, and
with its escapes replaced holds no NUL, no backslash and no segment of two dots
(`Path.legal_iff_permitted`). Escaped dots and slashes are found in one pass over a path; it is the
same to replace all escaped dots first and the escaped slashes of what this gives then
(`Path.isIllegal_iff_replaceEscape`).
-/
namespace OriginServer

namespace Form

/-- The bytes that a text stands for are those that are found by replacing its escapes from left to
right, and no others. -/
theorem decoding_iff {chars : List Char} {bytes : Bytes} :
    Decoding chars bytes ↔ bytes = percentDecode (Utf8.ofChars chars) := by
  constructor
  · intro decoding
    induction decoding with
    | nil => rfl
    | @escape high low first last chars bytes readFirst readLast later ih =>
      have written : Text.hexNumber? [high, low] = some (16 * first + last) :=
        Text.hexNumber?_pair.mpr ⟨first, last, readFirst, readLast, rfl⟩
      rw [percentDecode_chars written, ih]
    | plain unescaped later ih => rw [percentDecode_char unescaped, ih]
  · intro same
    rw [same]
    exact decoding_percentDecode chars

end Form

namespace Path

/-! ## One escape after the other -/

/-- A text in which every occurrence of an escape, given by its two digits, is replaced by a sign,
from left to right. -/
def replaceEscape (high low sign : Char) : List Char → List Char
  | [] => []
  | '%' :: first :: last :: rest =>
    if first = high ∧ last = low then sign :: replaceEscape high low sign rest
    else '%' :: replaceEscape high low sign (first :: last :: rest)
  | char :: rest => char :: replaceEscape high low sign rest

section replaceEscape

variable {high low sign char : Char} {rest text : List Char}

/-- The escape gives way to the sign. -/
theorem replaceEscape_escape :
    replaceEscape high low sign ('%' :: high :: low :: rest) =
      sign :: replaceEscape high low sign rest := by
  rw [replaceEscape, if_pos ⟨rfl, rfl⟩]

/-- A character that does not begin the escape stays. -/
theorem replaceEscape_cons (unescaped : char = '%' → ∀ more, rest ≠ high :: low :: more) :
    replaceEscape high low sign (char :: rest) = char :: replaceEscape high low sign rest := by
  rw [replaceEscape.eq_def]
  split
  · contradiction
  · rename_i first last more same
    obtain ⟨rfl, rfl⟩ := List.cons.inj same
    have other : ¬(first = high ∧ last = low) := by
      rintro ⟨rfl, rfl⟩
      exact unescaped rfl more rfl
    rw [if_neg other]
  · rename_i same
    obtain ⟨rfl, rfl⟩ := List.cons.inj same
    rfl

/-- What stands in front afterwards, other than the sign, stood there before. -/
theorem exists_cons_of_replaceEscape {first : Char} {more : List Char}
    (replaced : replaceEscape high low sign text = first :: more) (other : first ≠ sign) :
    ∃ rest, text = first :: rest ∧ replaceEscape high low sign rest = more := by
  cases text with
  | nil => cases replaced
  | cons char rest =>
    by_cases escaped : char = '%' ∧ ∃ behind, rest = high :: low :: behind
    · obtain ⟨rfl, behind, rfl⟩ := escaped
      rw [replaceEscape_escape] at replaced
      exact absurd (List.cons.inj replaced).1.symm other
    · have unescaped : char = '%' → ∀ behind, rest ≠ high :: low :: behind :=
        fun mark behind same => escaped ⟨mark, behind, same⟩
      rw [replaceEscape_cons unescaped] at replaced
      obtain ⟨rfl, rfl⟩ := List.cons.inj replaced
      exact ⟨rest, rfl, rfl⟩

end replaceEscape

/-- Escaped dots and slashes are replaced in one pass as in two. -/
theorem plainFrom_eq_replaceEscape (passed text : List Char) :
    plainFrom passed text =
      passed.reverse ++ replaceEscape '2' 'f' '/' (replaceEscape '2' 'e' '.' text) := by
  fun_induction plainFrom passed text with
  | case1 passed => simp [replaceEscape]
  | case2 passed rest ih =>
    rw [ih, replaceEscape_escape, replaceEscape_cons (fun mark => absurd mark (by decide))]
    simp
  | case3 passed rest ih =>
    have dots : replaceEscape '2' 'e' '.' ('%' :: '2' :: 'f' :: rest) =
        '%' :: '2' :: 'f' :: replaceEscape '2' 'e' '.' rest := by
      rw [replaceEscape_cons (by simp), replaceEscape_cons (by simp), replaceEscape_cons (by simp)]
    rw [ih, dots, replaceEscape_escape]
    simp
  | case4 passed char rest notDot notSlash ih =>
    have dots : replaceEscape '2' 'e' '.' (char :: rest) =
        char :: replaceEscape '2' 'e' '.' rest :=
      replaceEscape_cons fun mark more same => notDot more mark same
    -- No escaped slash comes about where a dot is put.
    have slashes : char = '%' → ∀ more, replaceEscape '2' 'e' '.' rest ≠ '2' :: 'f' :: more := by
      intro mark more replaced
      obtain ⟨later, rfl, behind⟩ := exists_cons_of_replaceEscape replaced (by decide)
      obtain ⟨last, rfl, -⟩ := exists_cons_of_replaceEscape behind (by decide)
      exact notSlash last mark rfl
    rw [ih, dots, replaceEscape_cons slashes]
    simp

/-- The segments of a text are found by replacing its escaped dots first and then the escaped
slashes of what this gives. -/
theorem segments_eq_replaceEscape (text : List Char) :
    segments text =
      (replaceEscape '2' 'f' '/' (replaceEscape '2' 'e' '.' text)).splitOn '/' := by
  rw [segments, plainFrom_eq_replaceEscape, List.reverse_nil, List.nil_append]

/-- A text holds an escaped mark exactly if it contains one of the two. -/
theorem hasEscapedMark_iff_infix (text : List Char) :
    hasEscapedMark text = true ↔ ['%', '0', '0'] <:+: text ∨ ['%', '5', 'c'] <:+: text := by
  fun_induction hasEscapedMark text with
  | case1 => simp
  | case2 rest => simpa using .inl ⟨[], rest, rfl⟩
  | case3 rest => simpa using .inr ⟨[], rest, rfl⟩
  | case4 char rest notNull notBackslash ih =>
    have null : ¬['%', '0', '0'] <+: char :: rest := by
      rintro ⟨more, same⟩
      obtain ⟨rfl, rfl⟩ := List.cons.inj same
      exact notNull more rfl rfl
    have backslash : ¬['%', '5', 'c'] <+: char :: rest := by
      rintro ⟨more, same⟩
      obtain ⟨rfl, rfl⟩ := List.cons.inj same
      exact notBackslash more rfl rfl
    rw [ih, List.infix_cons_iff, List.infix_cons_iff]
    simp only [null, backslash, false_or]

/-- A path is refused exactly if one of the checks says so, with a search for each of the two marks
and with one replacement after the other. -/
theorem isIllegal_iff_replaceEscape (path : String) :
    isIllegal path = true ↔
      path.toList.head? ≠ some '/' ∨
      (∃ char ∈ path.toList, isControl char = true ∨ char = '\\') ∨
      (['%', '0', '0'] <:+: Text.lower path.toList ∨
        ['%', '5', 'c'] <:+: Text.lower path.toList) ∨
      ['.', '.'] ∈ (replaceEscape '2' 'f' '/'
        (replaceEscape '2' 'e' '.' (Text.lower path.toList))).splitOn '/' := by
  rw [← hasEscapedMark_iff_infix, ← segments_eq_replaceEscape]
  simp [isIllegal, or_assoc]

/-! ## Legal paths -/

/-- The control characters are those of the general category with this name. -/
theorem isControl_eq_contains (char : Char) :
    isControl char = (CharSet.ofTable Unicode.controlTable).contains char := by
  have table : CharSet.ofTable Unicode.controlTable = ⟨[(0, 0x1F), (0x7F, 0x9F)]⟩ := by
    decide +kernel
  have low : char.toNat < 0x20 ↔ char.toNat ≤ 0x1F := Nat.lt_succ_iff
  have high : char.toNat < 0xA0 ↔ char.toNat ≤ 0x9F := Nat.lt_succ_iff
  rw [table]
  simp [isControl, CharSet.contains, CharSet.containsCode, low, high]

/-- A path that may be served, given its bytes with every escape replaced once. -/
structure Permitted (path : String) (decoded : Bytes) : Prop where
  /-- The path begins with a slash. -/
  rooted : path.toList.head? = some '/'
  /-- No character of the category control is shown. -/
  uncontrolled : ∀ char ∈ path.toList, (CharSet.ofTable Unicode.controlTable).contains char = false
  /-- No backslash is shown. -/
  noBackslash : '\\' ∉ path.toList
  /-- No byte stands for a NUL. -/
  noNull : 0 ∉ decoded
  /-- No byte stands for a backslash. -/
  noDecodedBackslash : 0x5C ∉ decoded
  /-- No segment between slashes stands for two dots. -/
  noUp : ∀ segment ∈ decoded.splitOn 0x2F, segment ≠ [0x2E, 0x2E]

/-- **Only what a path shows and stands for counts.** The escapes of a path can be replaced in one
way, and the path is let through exactly if it is permitted with the bytes that this gives. -/
theorem legal_iff_permitted (path : String) :
    ∃ decoded, (∀ bytes, Form.Decoding path.toList bytes ↔ bytes = decoded) ∧
      (isIllegal path = false ↔ Permitted path decoded) := by
  refine ⟨Form.percentDecode (Utf8.encode path), ?_, ?_⟩
  · intro bytes
    rw [Utf8.encode_eq_ofChars]
    exact Form.decoding_iff
  · rw [isIllegal_eq_false_iff]
    constructor
    · intro ⟨rooted, shown, noNull, noBackslash, noUp⟩
      refine ⟨rooted, ?_, ?_, noNull, noBackslash, ?_⟩
      · intro char inside
        rw [← isControl_eq_contains]
        exact (shown char inside).1
      · intro inside
        exact (shown '\\' inside).2 rfl
      · intro segment inside same
        exact noUp (same ▸ inside)
    · intro permitted
      refine ⟨permitted.rooted, ?_, permitted.noNull, permitted.noDecodedBackslash, ?_⟩
      · intro char inside
        constructor
        · rw [isControl_eq_contains]
          exact permitted.uncontrolled char inside
        · intro same
          exact permitted.noBackslash (same ▸ inside)
      · intro inside
        exact permitted.noUp _ inside rfl

/-- An escape that replacing another one would make is no escape, and three dots are no way up; an
escaped slash ends a segment as a plain one does. -/
example : isIllegal "/%252e%252e/.../%2" = false ∧ isIllegal "/a%2f.%2E" = true := by
  decide +kernel

end Path

end OriginServer
