import Mathlib.Data.List.Forall2
import OriginServer.Proofs.Message.HeaderLines
import OriginServer.Proofs.Reading.Grammar

/-!
# Responses as they are received

`Received.read?` takes the bytes of a response apart as a client does: at the first empty line, at
line ends, each header line at its first colon with a space behind it. While no header makes more
than one line it finds what was sent, whatever the body holds, and nothing else has the same bytes
(`Response.received_wire`).
-/
namespace OriginServer

open Text (FieldName Unbroken cutAt? sameLetters)

/-! ## Lines -/

namespace Text

/-- A line cut at the first colon that a space follows. -/
def cutField? : List Char → Option (List Char × List Char)
  | [] => none
  | ':' :: ' ' :: rest => some ([], rest)
  | char :: rest => (cutField? rest).map fun parts => (char :: parts.1, parts.2)

/-- The name and the value of a header line. -/
def readFieldText? (line : List Char) : Option (String × String) :=
  (cutField? line).map fun parts => (String.ofList parts.1, String.ofList parts.2)

/-- The number and the reason phrase of a status line, which stand behind the protocol. -/
def readStatus? (line : List Char) : Option (Nat × String) := do
  let (protocol, rest) ← cutAt? ' ' line
  let (digits, reason) ← cutAt? ' ' rest
  if protocol = "HTTP/1.1".toList ∧ digits.all Char.isDigit then
    some (Nat.ofDigitChars 10 digits 0, String.ofList reason)
  else none

/-- A line is cut behind a name without a colon. -/
theorem cutField?_append {name : List Char} (uncut : ':' ∉ name) (value : List Char) :
    cutField? (name ++ ':' :: ' ' :: value) = some (name, value) := by
  induction name with
  | nil => rfl
  | cons char name ih =>
    rw [List.mem_cons, not_or] at uncut
    have later := ih uncut.2
    rw [List.cons_append, cutField?.eq_3, later]
    · rfl
    · intro rest same
      exact absurd same.symm uncut.1

/-- The line of a field is read as the field. -/
theorem readFieldText?_fieldText {field : String × String} (uncut : ':' ∉ field.1.toList) :
    readFieldText? (fieldText field).toList = some field := by
  have line : (fieldText field).toList = field.1.toList ++ ':' :: ' ' :: field.2.toList := by
    simp [fieldText]
  rw [readFieldText?, line, cutField?_append uncut]
  simp

/-- The line of a status is read as its number and its reason phrase. -/
theorem readStatus?_announcement (status : Status) :
    readStatus? status.announcement.toList = some (status.code, status.reason) := by
  cases status <;> decide +kernel

end Text

/-! ## Responses -/

/-- What a client makes of the bytes of a response. -/
structure Received where
  /-- The number of the status. -/
  code : Nat
  /-- The reason phrase of the status. -/
  reason : String
  /-- The header fields, in the order of their lines. -/
  fields : List (String × String)
  /-- What follows the head. -/
  content : Bytes
  deriving DecidableEq

/-- Take the bytes of a response apart. -/
def Received.read? (bytes : Bytes) : Option Received := do
  let (head, content) ← splitHead bytes
  let text ← Utf8.decode? head
  let lines := Text.lines text.toList
  let (code, reason) ← Text.readStatus? (lines.headD [])
  let fields ← lines.tail.mapM Text.readFieldText?
  some { code, reason, fields, content }

/-- Lines that are read one by one as some fields are read as those fields. -/
theorem mapM_readFieldText? {fields : List (String × String)}
    (uncut : ∀ field ∈ fields, ':' ∉ field.1.toList) :
    (fields.map (String.toList ∘ fieldText)).mapM Text.readFieldText? = some fields := by
  induction fields with
  | nil => rfl
  | cons field rest ih =>
    rw [List.forall_mem_cons] at uncut
    have first := Text.readFieldText?_fieldText uncut.1
    rw [List.map_cons, List.mapM_cons, Function.comp_apply, first, ih uncut.2]
    rfl

namespace Response

/-- No header of a response makes more than one line. -/
def SingleLined (response : Response) : Prop :=
  ∀ entry ∈ response.headers.entries, FieldName entry.1 ∧ Unbroken entry.2

/-- Whether each header makes one line is decided by their texts. -/
instance (response : Response) : Decidable response.SingleLined :=
  List.decidableBAll (fun entry : String × String => FieldName entry.1 ∧ Unbroken entry.2)
    response.headers.entries

/-- The headers of a response that are sent as they were set: the length and the connection have
lines of their own. -/
def ownFields (response : Response) : List (String × String) :=
  response.headers.entries.filter fun entry =>
    !sameLetters entry.1 "Content-Length" && !sameLetters entry.1 "Connection"

/-- The fields that are sent are the own ones, then the length, then the connection. -/
theorem sentFields_eq (response : Response) :
    response.sentFields = response.ownFields ++
      [("Content-Length", toString response.body.length),
        ("Connection", if response.keepAlive then "keep-alive" else "close")] := by
  have kept : (fun entry : String × String => !isDerived entry.1) = fun entry =>
      !sameLetters entry.1 "Content-Length" && !sameLetters entry.1 "Connection" := by
    funext entry
    rw [isDerived, Bool.not_or]
  rw [sentFields, kept]
  rfl

/-- What follows the head of a response. -/
def content (response : Response) : Bytes := if response.includeBody then response.body else []

/-- What a client is to make of a response. -/
def received (response : Response) : Received where
  code := response.status.code
  reason := response.status.reason
  fields := response.ownFields ++
    [("Content-Length", toString response.body.length),
      ("Connection", if response.keepAlive then "keep-alive" else "close")]
  content := response.content

variable {response : Response}

/-- The first empty line of a response ends its head. -/
theorem SingleLined.framed (single : response.SingleLined) :
    Framed response.wire
      (Utf8.encode ("\r\n".intercalate (headLines response.statusLine response.sentFields)))
      response.content := by
  have kept : response.Kept response.keepAlive := ⟨single, rfl⟩
  rw [← splitHead_eq_some_iff_framed]
  exact (kept.splitHead_wire response.content).1

/-- A client finds what was sent. -/
theorem SingleLined.read?_wire (single : response.SingleLined) :
    Received.read? response.wire = some response.received := by
  have kept : response.Kept response.keepAlive := ⟨single, rfl⟩
  have found : splitHead response.wire =
      some (Utf8.encode ("\r\n".intercalate (headLines response.statusLine response.sentFields)),
        response.content) :=
    (kept.splitHead_wire response.content).1
  have lines := (kept.splitHead_wire response.content).2
  have first : Text.readStatus? response.statusLine.toList =
      some (response.status.code, response.status.reason) :=
    Text.readStatus?_announcement response.status
  have uncut : ∀ field ∈ response.sentFields, ':' ∉ field.1.toList :=
    fun field inside => (kept.single_sentFields field inside).1.uncut
  have fields := mapM_readFieldText? uncut
  have allLines : (headLines response.statusLine response.sentFields).map String.toList =
      response.statusLine.toList :: response.sentFields.map (String.toList ∘ fieldText) := by
    rw [headLines, List.map_cons, List.map_map]
  rw [allLines] at lines
  simp only [Received.read?, found, Utf8.decode?_encode, lines, List.headD_cons, List.tail_cons,
    first, fields, Option.bind_eq_bind, Option.bind_some]
  rw [received, sentFields_eq]

/-- The word for the keep-alive flag tells what the flag is. -/
theorem option_inj {first second : Bool}
    (same : (if first then "keep-alive" else "close") = if second then "keep-alive" else "close") :
    first = second := by
  revert same
  cases first <;> cases second <;> decide

/-- The usual texts of different numbers are different. -/
theorem toString_inj {first second : Nat} (same : toString first = toString second) :
    first = second := by
  have numbers := congrArg (fun text => Nat.ofDigitChars 10 text.toList 0) same
  simpa only [Nat.toString_eq_repr, Nat.toList_repr, Nat.ofDigitChars_ten_toDigits] using numbers

/-- Responses that are received alike are alike: the status, the headers that were set, the flag for
the connection and, if one of them sends it, the body. -/
theorem eq_of_received_eq {other : Response} (same : other.received = response.received) :
    other.status = response.status ∧ other.ownFields = response.ownFields ∧
      other.keepAlive = response.keepAlive ∧
      (response.includeBody = true → other.body = response.body) := by
  rw [received, received, Received.mk.injEq] at same
  obtain ⟨code, -, fields, content⟩ := same
  have status : other.status = response.status := by
    have numbers := congrArg Status.ofCode? code
    rwa [Status.ofCode?_code, Status.ofCode?_code, Option.some.injEq] at numbers
  -- The two derived fields stand last, so the fields before them are as many.
  have parts := List.append_inj' fields rfl
  obtain ⟨own, derived⟩ := parts
  simp only [List.cons.injEq, Prod.mk.injEq, true_and, and_true] at derived
  have length := toString_inj derived.1
  have flag := option_inj derived.2
  refine ⟨status, own, flag, ?_⟩
  intro included
  have sent : response.content = response.body := if_pos included
  rw [sent] at content
  by_cases otherIncluded : other.includeBody = true
  · rw [← content]
    exact (if_pos otherIncluded).symm
  · -- Nothing follows the other head, so both bodies are empty.
    have nothing : other.content = [] := if_neg otherIncluded
    rw [nothing] at content
    rw [← content, List.length_nil, List.length_eq_zero_iff] at length
    rw [length, content]

/-- **A response is found again in its bytes.** If each header of a response makes one line, the
first empty line ends the head, and taken apart at line ends and at the first colon with a space of
each header line, the bytes give back the status, the headers in order without those named
`Content-Length` or `Connection`, the length of the body, what becomes of the connection, and the
body if it is sent. So another such response with the same bytes has the same status, headers and
flag, and the same body if it is sent. -/
theorem received_wire (single : response.SingleLined) :
    (∃ head, Framed response.wire head (if response.includeBody then response.body else [])) ∧
      Received.read? response.wire = some
        { code := response.status.code
          reason := response.status.reason
          fields := response.headers.entries.filter (fun entry =>
              !sameLetters entry.1 "Content-Length" && !sameLetters entry.1 "Connection") ++
            [("Content-Length", toString response.body.length),
              ("Connection", if response.keepAlive then "keep-alive" else "close")]
          content := if response.includeBody then response.body else [] } ∧
      ∀ other : Response, other.SingleLined → other.wire = response.wire →
        other.status = response.status ∧
          other.headers.entries.filter (fun entry =>
              !sameLetters entry.1 "Content-Length" && !sameLetters entry.1 "Connection") =
            response.headers.entries.filter (fun entry =>
              !sameLetters entry.1 "Content-Length" && !sameLetters entry.1 "Connection") ∧
          other.keepAlive = response.keepAlive ∧
          (response.includeBody = true → other.body = response.body) := by
  refine ⟨⟨_, single.framed⟩, single.read?_wire, ?_⟩
  intro other otherSingle bytes
  have found := otherSingle.read?_wire
  rw [bytes, single.read?_wire, Option.some.injEq] at found
  exact eq_of_received_eq found.symm

/-- A response with headers under the derived names, an empty header, and a body that looks like the
end of one head and the beginning of another. -/
def ambiguousResponse : Response :=
  { status := .notFound
    headers := ⟨[("content-LENGTH", "7"), ("X", ""), ("", " a: b "), ("CONNECTION", "upgrade")]⟩
    body := Utf8.encode "\r\n\r\nHTTP/1.1 200 OK\r\n\r\n"
    keepAlive := true
    includeBody := true }

/-- The headers of the response make one line each, and the response is found again. -/
theorem received_wire_ambiguous :
    ambiguousResponse.SingleLined ∧
      Received.read? ambiguousResponse.wire = some
        ⟨404, "Not Found", [("X", ""), ("", " a: b "), ("Content-Length", "23"),
          ("Connection", "keep-alive")], ambiguousResponse.body⟩ ∧
      ∀ other : Response, other.SingleLined → other.wire = ambiguousResponse.wire →
        other.status = .notFound ∧ other.keepAlive = true ∧
          other.body = ambiguousResponse.body := by
  have single : ambiguousResponse.SingleLined := by decide +kernel
  obtain ⟨-, found, alike⟩ := received_wire single
  refine ⟨single, ?_, ?_⟩
  · rw [found]
    decide +kernel
  · intro other otherSingle bytes
    obtain ⟨status, -, flag, body⟩ := alike other otherSingle bytes
    exact ⟨status, flag, body rfl⟩

end Response

end OriginServer
