import OriginServer.Proofs.Message.Headers
import OriginServer.Proofs.Message.Length
import OriginServer.Proofs.Message.Lines

/-!
# Responses as messages

`Message.WellFramed` says what one message is: a status line, header lines that hold no line break
and no NUL, among them one that declares a length and one for the connection, an empty line, and as
many bytes as declared, or none where bodies are left out. Such a message is found at the front of
its bytes with the lines that were written (`Message.WellFramed.legible`). A response whose
header fields are plain is one on the wire (`Response.Fit.wellFramed`).
-/
namespace OriginServer

open Text (sameLetters)

namespace Text

/-- A text that can stand in a header line: it holds no line break and no NUL. -/
def Plain (text : String) : Prop :=
  ∀ char ∈ text.toList, char ≠ '\r' ∧ char ≠ '\n' ∧ char ≠ '\x00'

/-- Whether a text is plain is decided by its characters. -/
instance (text : String) : Decidable (Plain text) :=
  List.decidableBAll (fun char => char ≠ '\r' ∧ char ≠ '\n' ∧ char ≠ '\x00') text.toList

/-- A plain text holds no carriage return. -/
theorem Plain.carriage {text : String} (plain : Plain text) : '\r' ∉ text.toList :=
  fun inside => (plain '\r' inside).1 rfl

/-- A text in two parts is plain exactly if both are. -/
@[simp]
theorem plain_append_iff {left right : String} :
    Plain (left ++ right) ↔ Plain left ∧ Plain right := by
  simp only [Plain, String.toList_append, List.forall_mem_append]

/-- What holds of the characters of a separator and of some texts holds of the characters of the
texts with the separator between each two. -/
theorem forall_mem_intercalate {kind : Char → Prop} {separator : String} {texts : List String}
    (apart : ∀ char ∈ separator.toList, kind char)
    (all : ∀ text ∈ texts, ∀ char ∈ text.toList, kind char) :
    ∀ char ∈ (separator.intercalate texts).toList, kind char := by
  induction texts with
  | nil => simp
  | cons text rest ih =>
    rw [List.forall_mem_cons] at all
    cases rest with
    | nil => simpa using all.1
    | cons next rest =>
      rw [String.intercalate_cons_cons, String.toList_append, String.toList_append,
        List.forall_mem_append, List.forall_mem_append]
      exact ⟨⟨all.1, apart⟩, ih all.2⟩

/-- Plain texts with a plain separator between each two are plain. -/
theorem plain_intercalate {separator : String} {texts : List String} (apart : Plain separator)
    (plain : ∀ text ∈ texts, Plain text) : Plain (separator.intercalate texts) :=
  forall_mem_intercalate apart plain

/-- The text of a number is plain. -/
theorem plain_toString (number : Nat) : Plain (toString number) := by
  intro digit inside
  have isDigit := isDigit_of_mem_toString inside
  refine ⟨?_, ?_, ?_⟩ <;> rintro rfl <;> cases isDigit

end Text

/-- The line in which a status is announced, without its line end. -/
def Status.announcement (status : Status) : String := s!"HTTP/1.1 {status.code} {status.reason}"

/-- A message in its parts. -/
structure Message where
  /-- The outcome announced. -/
  status : Status
  /-- The header fields, in order. -/
  fields : List (String × String)
  /-- What follows the empty line. -/
  body : Bytes

namespace Message

/-- The status line, the header lines and the empty line of a message. -/
def head (message : Message) : String := headText message.status.announcement message.fields

/-- The bytes of a message. -/
def bytes (message : Message) : Bytes := Utf8.encode message.head ++ message.body

/-- A message has bytes. -/
theorem bytes_ne_nil (message : Message) : message.bytes ≠ [] := by
  have ending : Utf8.encode "\r\n" ≠ [] := by decide
  simp [bytes, head, headText, Utf8.encode_append, ending]

/-- The fields of a message with a name, in any case of its letters. -/
def named (message : Message) (name : String) : List (String × String) :=
  message.fields.filter fun field => sameLetters field.1 name

/-- A message can be told apart from what follows it. Its body may be left out, as that of the
answer to a `HEAD` request is. -/
structure WellFramed (message : Message) (bodyless : Prop) : Prop where
  /-- No name and no value of a field holds a line break or a NUL. -/
  plain : ∀ field ∈ message.fields, Text.Plain field.1 ∧ Text.Plain field.2
  /-- One field declares the length of the body. -/
  measured : ∃ length, message.named "Content-Length" = [("Content-Length", toString length)] ∧
    (bodyless → message.body = []) ∧ (¬bodyless → message.body.length = length)
  /-- One field says whether the connection stays open. -/
  connected : ∃ option, message.named "Connection" = [("Connection", option)]

/-- No line of a message with plain fields holds a carriage return of its own. -/
theorem carriage_not_mem_headLines {message : Message}
    (plain : ∀ field ∈ message.fields, Text.Plain field.1 ∧ Text.Plain field.2) :
    ∀ line ∈ headLines message.status.announcement message.fields, '\r' ∉ line.toList := by
  have announced : '\r' ∉ message.status.announcement.toList := by
    cases message.status <;> decide +kernel
  refine not_mem_headLines announced fun field inside => ?_
  exact ⟨(plain field inside).1.carriage, (plain field inside).2.carriage⟩

/-- Whoever takes some bytes apart, at the first empty line and then at line ends, finds the lines
and the body of a message. -/
def Legible (message : Message) (bytes : Bytes) : Prop :=
  ∃ text, splitHead bytes = some (Utf8.encode text, message.body) ∧
    Text.lines text.toList =
      (headLines message.status.announcement message.fields).map String.toList

/-- A well-framed message is found in its bytes: no field makes another line, and none ends the
head. -/
theorem WellFramed.legible {message : Message} {bodyless : Prop}
    (wellFramed : message.WellFramed bodyless) : message.Legible message.bytes := by
  have single := carriage_not_mem_headLines wellFramed.plain
  have announced : message.status.announcement ≠ "" := by
    cases message.status <;> decide +kernel
  refine ⟨_, splitHead_headText announced single message.body, ?_⟩
  exact Text.lines_eq_iff.mpr (lined_intercalate (List.cons_ne_nil _ _) single)

end Message

namespace Response

/-- A response as the message that is sent for it. -/
def message (response : Response) : Message :=
  ⟨response.status, response.sentFields, if response.includeBody then response.body else []⟩

/-- The bytes of a response are those of its message. -/
theorem bytes_message (response : Response) : response.message.bytes = response.wire := by
  rw [wire, head_eq_headText]
  rfl

/-- A response with plain header fields, of which it is known whether its body is sent. -/
structure Fit (response : Response) (included : Bool) : Prop where
  /-- No name and no value of a header holds a line break or a NUL. -/
  plain : ∀ entry ∈ response.headers.entries, Text.Plain entry.1 ∧ Text.Plain entry.2
  /-- The body is sent, or not. -/
  included : response.includeBody = included

/-- The response that a request starts from has no headers and sends its body. -/
theorem fit_initial : initial.Fit true := ⟨by decide, rfl⟩

/-- A header with a plain name and a plain value may be set. -/
theorem Fit.setHeader {response : Response} {included : Bool} (fit : response.Fit included)
    {name value : String} (named : Text.Plain name) (valued : Text.Plain value) :
    (response.setHeader name value).Fit included :=
  ⟨Headers.forall_entries_set named valued fit.plain, fit.included⟩

/-- The status may be set. -/
theorem Fit.setStatus {response : Response} {included : Bool} (fit : response.Fit included)
    (status : Status) : (response.setStatus status).Fit included :=
  ⟨fit.plain, fit.included⟩

/-- The body may be replaced. -/
theorem Fit.setBody {response : Response} {included : Bool} (fit : response.Fit included)
    (body : Bytes) : (response.setBody body).Fit included :=
  ⟨fit.plain, fit.included⟩

/-- What becomes of the connection may be decided. -/
theorem Fit.setKeepAlive {response : Response} {included : Bool} (fit : response.Fit included)
    (keepAlive : Bool) : (response.setKeepAlive keepAlive).Fit included :=
  ⟨fit.plain, fit.included⟩

/-- A response may be forgotten, whatever headers it has. -/
theorem fit_reset {response : Response} {included : Bool}
    (sent : response.includeBody = included) : response.reset.Fit included :=
  ⟨by simp [reset, Headers.empty], sent⟩

/-- A client may be pointed to a plain address. -/
theorem Fit.redirectPermanent {response : Response} {included : Bool} (fit : response.Fit included)
    {location : String} (plain : Text.Plain location) :
    (response.redirectPermanent location).Fit included := by
  have pointed := fit.setHeader (by decide +kernel : Text.Plain "Location") plain
  exact ⟨pointed.plain, pointed.included⟩

/-- The fields that are sent are plain if the headers are. -/
theorem Fit.plain_sentFields {response : Response} {included : Bool}
    (fit : response.Fit included) :
    ∀ field ∈ response.sentFields, Text.Plain field.1 ∧ Text.Plain field.2 := by
  have lengthName : Text.Plain "Content-Length" := by decide +kernel
  have optionName : Text.Plain "Connection" := by decide +kernel
  have option : Text.Plain response.connectionOption := by
    rw [connectionOption]
    split <;> decide +kernel
  rw [sentFields, List.forall_mem_append, List.forall_mem_cons, List.forall_mem_singleton]
  exact ⟨fun entry inside => fit.plain entry (List.mem_filter.mp inside).1,
    ⟨lengthName, Text.plain_toString _⟩, ⟨optionName, option⟩⟩

/-- No header that is sent as it was set has the name of a derived one. -/
theorem filter_derived (entries : List (String × String)) {name : String}
    (derived : isDerived name = true) :
    (entries.filter fun entry => !isDerived entry.1).filter
      (fun field => sameLetters field.1 name) = [] := by
  rw [List.filter_eq_nil_iff]
  intro field inside same
  have kept := (List.mem_filter.mp inside).2
  rw [isDerived, Text.sameLetters_congr same, Text.sameLetters_congr same, ← isDerived,
    derived] at kept
  cases kept

/-- One length is sent: that of the body. -/
theorem named_length (response : Response) :
    response.message.named "Content-Length" =
      [("Content-Length", toString response.body.length)] := by
  have other : sameLetters "Connection" "Content-Length" = false := by decide +kernel
  rw [Message.named, message, sentFields, List.filter_append, filter_derived _ (by decide +kernel)]
  simp [other]

/-- One option for the connection is sent. -/
theorem named_option (response : Response) :
    response.message.named "Connection" = [("Connection", response.connectionOption)] := by
  have other : sameLetters "Content-Length" "Connection" = false := by decide +kernel
  rw [Message.named, message, sentFields, List.filter_append, filter_derived _ (by decide +kernel)]
  simp [other]

/-- The message of a response with plain headers is well-framed. -/
theorem Fit.wellFramed {response : Response} {included : Bool} (fit : response.Fit included)
    {bodyless : Prop} (left : bodyless ↔ included = false) :
    response.message.WellFramed bodyless where
  plain := fit.plain_sentFields
  measured := by
    refine ⟨response.body.length, response.named_length, ?_, ?_⟩
    · intro bodyless
      simp [message, fit.included, left.mp bodyless]
    · intro bodied
      have included := mt left.mpr bodied
      simp [message, fit.included, included]
  connected := ⟨response.connectionOption, response.named_option⟩

end Response

end OriginServer
