import Mathlib.Data.List.Forall2
import OriginServer.Proofs.Reading.Grammar

/-!
# Header lines, one by one

A head ends at the first empty line of some bytes, so none of the lines between the request line and
that empty line is empty (`LaterLine.ne_nil`). The loop over the header lines has a branch for an
empty line nevertheless. No bytes lead the loop into it: every line that the loop comes to sets one
field or ends the reading (`Request.no_header_line_skipped`).
-/
namespace OriginServer

/-- A line of some bytes behind the first one: it stands behind a line end, holds none, and goes up
to the next line end or to the end of the bytes. -/
structure LaterLine (bytes line : Bytes) : Prop where
  /-- A line end stands before the line, and a line end or nothing behind it. -/
  placed : ∃ before after, bytes = before ++ [13, 10] ++ line ++ after ∧
    (after = [] ∨ [13, 10] <+: after)
  /-- There is no line end in the line. -/
  whole : ¬[13, 10] <:+: line

/-- No line of a head behind its first one is empty, whether the head is text or not. -/
theorem LaterLine.ne_nil {bytes head rest line : Bytes} (later : LaterLine head line)
    (framed : Framed bytes head rest) : line ≠ [] := by
  rintro rfl
  obtain ⟨before, after, rfl, ends⟩ := later.placed
  -- Two line ends would follow each other in the head or at its end, and so end it earlier.
  refine framed.closed ?_
  rcases ends with rfl | ⟨more, rfl⟩
  · exact ⟨before, [], by simp [headEnd]⟩
  · exact ⟨before, more ++ [13, 10], by simp [headEnd]⟩

namespace RequestHead

/-- The states of the loop over some header lines: the headers that are set and the lines that are
left. -/
inductive Reached (lines : List (List Char)) : Headers → List (List Char) → Prop where
  /-- The loop begins without headers at the first line. -/
  | start : Reached lines .empty lines
  /-- An empty line is passed over. -/
  | skip {headers : Headers} {rest : List (List Char)}
      (reached : Reached lines headers ([] :: rest)) : Reached lines headers rest
  /-- A header line sets its field. -/
  | set {headers : Headers} {line : List Char} {rest : List (List Char)} {name value : String}
      (reached : Reached lines headers (line :: rest)) (nonempty : line ≠ [])
      (field : readField line = .ok (name, value)) : Reached lines (headers.set name value) rest

variable {lines rest : List (List Char)} {line : List Char} {headers : Headers}

/-- What is left of the lines decides the outcome of the whole loop. -/
theorem Reached.readFields_eq (reached : Reached lines headers rest) :
    readFields .empty lines = readFields headers rest := by
  induction reached with
  | start => rfl
  | skip reached ih =>
    rw [ih, readFields]
    rfl
  | set reached nonempty field ih =>
    rw [ih, readFields, if_neg (by simpa using nonempty), field]

/-- A loop that ends well comes to its end with the headers that it returns. -/
theorem Reached.of_readFields {result : Headers} (reached : Reached lines headers rest)
    (ended : readFields headers rest = .ok result) : Reached lines result [] := by
  fun_induction readFields headers rest with
  | case1 headers =>
    obtain rfl := Except.ok.inj ended
    exact reached
  | case2 headers line rest blank ih =>
    obtain rfl : line = [] := by simpa using blank
    exact ih reached.skip ended
  | case3 headers line rest full cause refused => cases ended
  | case4 headers line rest full name value field ih =>
    exact ih (reached.set (by simpa using full) field) ended

/-- Where no line is empty, each line that the loop has passed has set one field. -/
theorem Reached.exists_fields (reached : Reached lines headers rest)
    (nonempty : ∀ line ∈ lines, line ≠ []) :
    ∃ passed fields, lines = passed ++ rest ∧ List.Forall₂ FieldLine passed fields ∧
      headers = .ofList fields := by
  induction reached with
  | start => exact ⟨[], [], rfl, .nil, rfl⟩
  | @skip headers rest reached ih =>
    obtain ⟨passed, fields, whole, -⟩ := ih
    exact absurd rfl (nonempty [] (whole ▸ by simp))
  | @set headers line rest name value reached full field ih =>
    obtain ⟨passed, fields, whole, fieldLines, rfl⟩ := ih
    have fieldLine : FieldLine line (name, value) := readField_eq_ok_iff.mp field
    refine ⟨passed ++ [line], fields ++ [(name, value)], by simp [whole], ?_, ?_⟩
    · exact List.rel_append fieldLines (.cons fieldLine .nil)
    · exact (Headers.ofList_concat fields (name, value)).symm

/-- What a header line does to the loop that comes to it with some headers: it is not empty, and it
sets one field or ends the reading of the bytes. -/
structure Effective (bytes : Bytes) (first : List Char) (headers : Headers) (line : List Char)
    (later : List (List Char)) : Prop where
  /-- The line is not empty. -/
  nonempty : line ≠ []
  /-- Its field is set and the loop goes on behind it, or it is refused, and with it everything that
  begins with a request line. -/
  effect : (∃ name value, readField line = .ok (name, value) ∧
      readFields headers (line :: later) = readFields (headers.set name value) later) ∨
    readField line = .error .invalidHeader ∧
      readFields headers (line :: later) = .error .invalidHeader ∧
      ∀ parts, readRequestLine first = .ok parts → Request.read bytes = .error .invalidHeader

/-- Behind a request line the outcome of the loop over the other lines is an outcome of the head. -/
theorem read_of_readFields {bytes : Bytes} {first : List Char} {others : List (List Char)}
    {parts : Method × String × String} {cause : ReadError}
    (inscribed : Inscribed bytes (first :: others)) (started : readRequestLine first = .ok parts)
    (refused : readFields .empty others = .error cause) : read bytes = .error cause := by
  rw [read_of_inscribed inscribed, started, refused]
  rfl

/-- A line that is not empty sets one field or is refused. -/
theorem effective_of_ne_nil {bytes head rest : Bytes} {first : List Char}
    {later : List (List Char)} (found : splitHead bytes = some (head, rest))
    (inscribed : Inscribed head (first :: lines)) (nonempty : line ≠ [])
    (same : readFields .empty lines = readFields headers (line :: later)) :
    Effective bytes first headers line later := by
  refine ⟨nonempty, ?_⟩
  rw [readFields, if_neg (by simpa using nonempty)] at same ⊢
  by_cases fieldLine : ∃ field, FieldLine line field
  · obtain ⟨⟨name, value⟩, fieldLine⟩ := fieldLine
    have field := readField_eq_ok_iff.mpr fieldLine
    exact .inl ⟨name, value, field, by rw [field]⟩
  · have refused := readField_of_malformed (not_exists.mp fieldLine)
    rw [refused] at same ⊢
    refine .inr ⟨rfl, rfl, fun parts started => ?_⟩
    exact Request.read_of_unreadable found (read_of_readFields inscribed started same)

end RequestHead

/-- **No header line is skipped.** Where some bytes hold a head, no line of the head behind its
first one is empty. Wherever the loop over the header lines stands, each line that it has passed has
set one field, and the next line is not empty and sets one field or ends the reading. -/
theorem Request.no_header_line_skipped {bytes head rest : Bytes}
    (found : splitHead bytes = some (head, rest)) :
    (∀ line, LaterLine head line → line ≠ []) ∧
      ∀ text first others, Utf8.decode? head = some text →
        Text.lines text.toList = first :: others →
        (∀ line ∈ others, line ≠ []) ∧
        (∀ headers, RequestHead.readFields .empty others = .ok headers →
          RequestHead.Reached others headers []) ∧
        ∀ headers remaining, RequestHead.Reached others headers remaining →
          RequestHead.readFields .empty others = RequestHead.readFields headers remaining ∧
          (∃ passed fields, others = passed ++ remaining ∧
            List.Forall₂ RequestHead.FieldLine passed fields ∧ headers = .ofList fields) ∧
          ∀ line later, remaining = line :: later →
            RequestHead.Effective bytes first headers line later := by
  have framed := splitHead_eq_some_iff_framed.mp found
  refine ⟨fun line later => later.ne_nil framed, ?_⟩
  intro text first others decoded split
  have inscribed : RequestHead.Inscribed head (first :: others) :=
    ⟨text, Utf8.encode_of_decode? decoded, Text.lines_eq_iff.mp split⟩
  have nonempty : ∀ line ∈ others, line ≠ [] := fun line inside =>
    RequestHead.ne_nil_of_inscribed framed.closed inscribed inside
  refine ⟨nonempty, fun headers ended => .of_readFields .start ended, ?_⟩
  intro headers remaining reached
  obtain ⟨passed, fields, whole, fieldLines, made⟩ := reached.exists_fields nonempty
  refine ⟨reached.readFields_eq, ⟨passed, fields, whole, fieldLines, made⟩, ?_⟩
  rintro line later rfl
  have full : line ≠ [] := nonempty line (whole ▸ by simp)
  exact RequestHead.effective_of_ne_nil found inscribed full reached.readFields_eq

/-- Bytes whose last header line ends in a carriage return of its own, before the line ends that end
the head. -/
def carriageBytes : Bytes :=
  Utf8.encode "GET / HTTP/1.1\r\nA: 1\r\nno field\r\r\n\r\nB: 2\r\n\r\n"

/-- The loop comes to a line that is no header line, behind one that is, and refuses the bytes. -/
theorem Request.no_header_line_skipped_carriage :
    splitHead carriageBytes =
        some (Utf8.encode "GET / HTTP/1.1\r\nA: 1\r\nno field\r", Utf8.encode "B: 2\r\n\r\n") ∧
      RequestHead.Effective carriageBytes "GET / HTTP/1.1".toList (.ofList [("A", "1")])
        "no field\r".toList [] ∧
      Request.read carriageBytes = .error .invalidHeader := by
  have found : splitHead carriageBytes =
      some (Utf8.encode "GET / HTTP/1.1\r\nA: 1\r\nno field\r", Utf8.encode "B: 2\r\n\r\n") := by
    decide +kernel
  have passed : RequestHead.Reached ["A: 1".toList, "no field\r".toList] (.ofList [("A", "1")])
      ["no field\r".toList] := .set .start (by decide) (by decide +kernel)
  obtain ⟨-, counted⟩ := Request.no_header_line_skipped found
  obtain ⟨-, -, reached⟩ := counted _ "GET / HTTP/1.1".toList ["A: 1".toList, "no field\r".toList]
    (Utf8.decode?_encode _) (by decide +kernel)
  have effective := (reached _ _ passed).2.2 _ _ rfl
  refine ⟨found, effective, ?_⟩
  have malformed : RequestHead.readField "no field\r".toList = .error .invalidHeader := by
    decide +kernel
  rcases effective.effect with ⟨name, value, field, -⟩ | ⟨-, -, refused⟩
  · cases malformed.symm.trans field
  · exact refused (.get, "/", "HTTP/1.1") (by decide +kernel)

end OriginServer
