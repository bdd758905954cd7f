import OriginServer.Message.Response
import OriginServer.Proofs.Message.StatusLine
import OriginServer.Proofs.Reading.Front
import OriginServer.Proofs.Text.Bytes
import OriginServer.Proofs.Text.Pieces

/-!
# The lines of a head

A head is written as a first line and a line for each field, each with a line end, and an empty
line (`headText`). If no line holds a carriage return of its own, the head that is found at the
front of the bytes is the one that was written, whatever follows it (`splitHead_headText`), and it
is taken apart into the lines that were written (`lined_intercalate`).
-/
namespace OriginServer

open Text (Lined lineEnd)

/-- A header line, without its line end. -/
def fieldText (field : String × String) : String := field.1 ++ ": " ++ field.2

/-- The lines of a head, without their ends. -/
def headLines (first : String) (fields : List (String × String)) : List String :=
  first :: fields.map fieldText

/-- A head as it is sent, the empty line included. -/
def headText (first : String) (fields : List (String × String)) : String :=
  first ++ "\r\n" ++ String.join (fields.map Response.fieldLine) ++ "\r\n"

/-- The head of a response is sent as a status line and the fields that are sent. -/
theorem Response.head_eq_headText (response : Response) :
    response.head = headText response.statusLine response.sentFields := rfl

/-- The lines of a head are sent with a line end between each two, and an empty line follows. -/
theorem headText_eq (first : String) (fields : List (String × String)) :
    headText first fields = "\r\n".intercalate (headLines first fields) ++ "\r\n\r\n" := by
  have twice : "\r\n\r\n" = "\r\n" ++ "\r\n" := rfl
  induction fields generalizing first with
  | nil => simp [headText, headLines, twice, String.append_assoc]
  | cons field rest ih =>
    have later := ih (fieldText field)
    have line : Response.fieldLine field = fieldText field ++ "\r\n" := rfl
    simp only [headText, headLines, List.map_cons, String.join_cons, line,
      String.intercalate_cons_cons, String.append_assoc] at later ⊢
    rw [later]

/-- The head of a response ends in an empty line. -/
theorem Response.headEnd_suffix_head (response : Response) :
    headEnd <:+ Utf8.encode response.head := by
  have ending : Utf8.encode "\r\n\r\n" = headEnd := by decide
  rw [head_eq_headText, headText_eq, Utf8.encode_append, ending]
  exact List.suffix_append _ _

/-- Bytes without a carriage return are passed. -/
theorem splitHeadFrom_append {line : Bytes} (single : 13 ∉ line) (passed rest : Bytes) :
    splitHeadFrom passed (line ++ rest) = splitHeadFrom (line.reverse ++ passed) rest := by
  induction line generalizing passed with
  | nil => rfl
  | cons byte line ih =>
    rw [List.mem_cons, not_or] at single
    rw [List.cons_append, splitHeadFrom.eq_2, ih single.2]
    · simp
    · rintro more rfl
      exact absurd rfl single.1

/-- If no part of a head holds a carriage return, no line of it does. -/
theorem not_mem_headLines {first : String} {fields : List (String × String)}
    (begins : '\r' ∉ first.toList)
    (single : ∀ field ∈ fields, '\r' ∉ field.1.toList ∧ '\r' ∉ field.2.toList) :
    ∀ line ∈ headLines first fields, '\r' ∉ line.toList := by
  rw [headLines, List.forall_mem_cons, List.forall_mem_map]
  refine ⟨begins, fun field inside => ?_⟩
  obtain ⟨named, valued⟩ := single field inside
  simp [fieldText, named, valued]

/-- The end of a line that is not empty is passed. -/
theorem splitHeadFrom_lineEnd {byte : UInt8} (other : byte ≠ 13) (passed rest : Bytes) :
    splitHeadFrom passed (13 :: 10 :: byte :: rest) =
      splitHeadFrom (10 :: 13 :: passed) (byte :: rest) := by
  simp [splitHeadFrom, other]

/-- Lines with a separator between each two begin with the first line. -/
theorem exists_intercalate_cons {Piece : Type} (mark line : List Piece) (more : List (List Piece)) :
    ∃ rest, mark.intercalate (line :: more) = line ++ rest := by
  cases more with
  | nil => exact ⟨[], by simp⟩
  | cons next more => exact ⟨mark ++ mark.intercalate (next :: more), by simp⟩

/-- Lines that are not empty are passed up to the empty line behind them. -/
theorem splitHeadFrom_intercalate {lines : List Bytes} (nonempty : lines ≠ [])
    (single : ∀ line ∈ lines, line ≠ [] ∧ 13 ∉ line) (passed rest : Bytes) :
    splitHeadFrom passed ([13, 10].intercalate lines ++ headEnd ++ rest) =
      some (passed.reverse ++ [13, 10].intercalate lines, rest) := by
  induction lines generalizing passed with
  | nil => exact absurd rfl nonempty
  | cons line more ih =>
    rw [List.forall_mem_cons] at single
    cases more with
    | nil =>
      rw [List.intercalate_singleton, List.append_assoc, splitHeadFrom_append single.1.2]
      simp [headEnd, splitHeadFrom]
    | cons next more =>
      have later := ih (List.cons_ne_nil _ _) single.2 (10 :: 13 :: line.reverse ++ passed)
      -- The next line does not begin with a carriage return, so the head does not end before it.
      obtain ⟨begins, whole⟩ := single.2 next List.mem_cons_self
      obtain ⟨byte, next, rfl⟩ := List.exists_cons_of_ne_nil begins
      have other : byte ≠ 13 := fun same => whole (same ▸ List.mem_cons_self)
      obtain ⟨behind, joined⟩ := exists_intercalate_cons [13, 10] (byte :: next) more
      rw [joined] at later
      rw [List.intercalate_cons_cons, joined]
      simp only [List.append_assoc, List.cons_append, List.nil_append] at later ⊢
      rw [splitHeadFrom_append single.1.2, splitHeadFrom_lineEnd other, later]
      simp

/-- A text without a carriage return has no byte for one. -/
theorem Utf8.not_mem_encode {text : String} (single : '\r' ∉ text.toList) : 13 ∉ encode text := by
  rw [encode_eq_ofChars, ofChars, List.mem_flatMap]
  rintro ⟨char, inside, byte⟩
  have number := eq_of_mem_ascii (by decide) byte
  obtain rfl : char = '\r' := Char.toNat_inj.mp number
  exact single inside

/-- The bytes of texts with a separator between each two. -/
theorem Utf8.encode_intercalate (mark : String) (texts : List String) :
    encode (mark.intercalate texts) = (encode mark).intercalate (texts.map encode) := by
  induction texts with
  | nil => rfl
  | cons text rest ih =>
    cases rest with
    | nil => simp
    | cons next rest =>
      simp only [List.map_cons] at ih ⊢
      rw [String.intercalate_cons_cons, List.intercalate_cons_cons, encode_append, encode_append,
        ih]

/-- A header line is not empty. -/
theorem fieldText_ne_empty (field : String × String) : fieldText field ≠ "" := by
  simp [fieldText]

/-- The head that is found is the one that was written, whatever follows it. -/
theorem splitHead_headText {first : String} {fields : List (String × String)}
    (begins : first ≠ "")
    (single : ∀ line ∈ headLines first fields, '\r' ∉ line.toList) (rest : Bytes) :
    splitHead (Utf8.encode (headText first fields) ++ rest) =
      some (Utf8.encode ("\r\n".intercalate (headLines first fields)), rest) := by
  have ending : Utf8.encode "\r\n\r\n" = headEnd := by decide
  have mark : Utf8.encode "\r\n" = [13, 10] := by decide
  have nonempty : ∀ line ∈ headLines first fields, line ≠ "" := by
    rw [headLines, List.forall_mem_cons, List.forall_mem_map]
    exact ⟨begins, fun field _ => fieldText_ne_empty field⟩
  rw [headText_eq, Utf8.encode_append, ending, splitHead, Utf8.encode_intercalate, mark,
    splitHeadFrom_intercalate (by simp [headLines])]
  · rfl
  · rw [List.forall_mem_map]
    intro line inside
    refine ⟨?_, Utf8.not_mem_encode (single line inside)⟩
    intro empty
    have same : Utf8.encode line = Utf8.encode "" := empty
    exact nonempty line inside (Utf8.encode_injective same)

/-- A text without a carriage return is one line. -/
theorem Text.not_lineEnd_infix {line : List Char} (single : '\r' ∉ line) : ¬lineEnd <:+: line :=
  fun inside => single (inside.subset (by simp [lineEnd]))

/-- Lines that were put together are taken apart again. -/
theorem lined_intercalate {lines : List String} (nonempty : lines ≠ [])
    (single : ∀ line ∈ lines, '\r' ∉ line.toList) :
    Lined ("\r\n".intercalate lines).toList (lines.map String.toList) := by
  induction lines with
  | nil => exact absurd rfl nonempty
  | cons line rest ih =>
    rw [List.forall_mem_cons] at single
    cases rest with
    | nil => simpa using .last (Text.not_lineEnd_infix single.1)
    | cons next rest =>
      rw [String.intercalate_cons_cons, String.toList_append, String.toList_append]
      exact .next (Text.not_lineEnd_infix single.1) (ih (List.cons_ne_nil _ _) single.2)

end OriginServer
