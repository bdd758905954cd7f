import OriginServer.Message.HeaderDate
import OriginServer.Message.MediaType
import OriginServer.Proofs.Message.Framing

/-!
# Header lines of responses

A name without a colon and without line breaks, and a value without line breaks, make one header
line. While all headers of a response are so, the header lines with a name that are found in its
bytes are the ones that were sent under that name (`Response.Kept.linesNamed_wire`). What providers
do to a response is a row of changes (`Response.Change`); a change that sets no other headers keeps
a response so, and leaves open whether the connection stays open (`Response.Kept.apply`).
-/
namespace OriginServer

open Text (Plain sameLetters)

/-! ## Names and values -/

namespace Text

/-- A text that ends no line: it holds neither a carriage return nor a line feed. -/
def Unbroken (text : String) : Prop := ∀ char ∈ text.toList, char ≠ '\r' ∧ char ≠ '\n'

/-- Whether a text ends a line is decided by its characters. -/
instance (text : String) : Decidable (Unbroken text) :=
  List.decidableBAll (fun char => char ≠ '\r' ∧ char ≠ '\n') text.toList

/-- An unbroken text holds no carriage return. -/
theorem Unbroken.carriage {text : String} (unbroken : Unbroken text) : '\r' ∉ text.toList :=
  fun inside => (unbroken '\r' inside).1 rfl

/-- A plain text is unbroken. -/
theorem Plain.unbroken {text : String} (plain : Plain text) : Unbroken text :=
  fun char inside => ⟨(plain char inside).1, (plain char inside).2.1⟩

/-- A text that can stand before the colon of a header line. -/
structure FieldName (name : String) : Prop where
  /-- The name ends no line. -/
  unbroken : Unbroken name
  /-- The name goes up to the first colon. -/
  uncut : ':' ∉ name.toList

/-- Whether a text can stand before the colon is decided by its characters. -/
instance (name : String) : Decidable (FieldName name) :=
  decidable_of_iff (Unbroken name ∧ ':' ∉ name.toList)
    ⟨fun ⟨unbroken, uncut⟩ => ⟨unbroken, uncut⟩, fun ⟨unbroken, uncut⟩ => ⟨unbroken, uncut⟩⟩

/-- Whether a line is a header line with a name: the name stands before the first colon, in any case
of its letters and with nothing around it. -/
def isNamed (name : String) (line : List Char) : Bool :=
  match cutAt? ':' line with
  | some (front, _) => sameLetters (String.ofList front) name
  | none => false

/-- The line of a field is named as the field is. -/
theorem isNamed_fieldText {field : String × String} (uncut : ':' ∉ field.1.toList)
    (name : String) : isNamed name (fieldText field).toList = sameLetters field.1 name := by
  have parts : (fieldText field).toList = field.1.toList ++ ':' :: (' ' :: field.2.toList) := by
    simp [fieldText]
  rw [isNamed, cutAt?_eq_some_iff.mpr ⟨parts, uncut⟩]
  dsimp only
  rw [String.ofList_toList]

end Text

/-! ## Dates and media types -/

/-- A text out of a list of plain texts is plain. -/
theorem Text.plain_getD {texts : List String} (plain : ∀ text ∈ texts, Plain text) (place : Nat) :
    Plain (texts[place]?.getD "") := by
  cases found : texts[place]? with
  | none => decide +kernel
  | some text => exact plain text (List.mem_of_getElem? found)

namespace HeaderDate

/-- A padded number is plain. -/
theorem plain_padded (width number : Nat) : Plain (padded width number) := by
  rw [padded, Text.plain_append_iff]
  refine ⟨?_, Text.plain_toString number⟩
  intro char inside
  rw [String.toList_ofList] at inside
  obtain rfl := List.eq_of_mem_replicate inside
  decide

/-- The text of a date is plain. -/
theorem plain_format (date : HeaderDate) : Plain date.format := by
  have days : ∀ name ∈ dayNames, Plain name := by decide +kernel
  have months : ∀ name ∈ monthNames, Plain name := by decide +kernel
  have marks : ∀ mark ∈ [", ", " ", ":", " GMT"], Plain mark := by decide +kernel
  simp only [List.forall_mem_cons] at marks
  simp only [format, Text.plain_append_iff, plain_padded, Text.plain_getD days,
    Text.plain_getD months, marks, and_self]

end HeaderDate

/-- The media type of a file is plain. -/
theorem MediaType.plain_ofPath (path : Bytes) : Plain (MediaType.ofPath path) := by
  have listed : ∀ entry ∈ byExtension, Plain entry.2 := by decide +kernel
  have unlisted : Plain unknown := by decide +kernel
  rw [ofPath]
  split
  · rw [ofExtension]
    split
    · rename_i entry found
      exact listed entry (List.mem_of_find?_eq_some found)
    · exact unlisted
  · exact unlisted

/-! ## Header lines of a message -/

/-- The header lines with a name at the front of some bytes: the lines before the first empty line,
without the very first one, that have the name. -/
def linesNamed (name : String) (bytes : Bytes) : List String :=
  match splitHead bytes with
  | none => []
  | some (head, _) =>
    match Utf8.decode? head with
    | none => []
    | some text => ((Text.lines text.toList).tail.filter (Text.isNamed name)).map String.ofList

/-! ## Changes to a response -/

namespace Response

/-- What can be done to a response besides deciding whether the connection stays open. -/
inductive Change where
  /-- A header is set. -/
  | setHeader (name value : String)
  /-- All headers are removed. -/
  | clearHeaders
  /-- The status is set. -/
  | setStatus (status : Status)
  /-- The body is replaced. -/
  | setBody (body : Bytes)
  /-- Bytes are added to the body. -/
  | write (bytes : Bytes)
  /-- It is decided whether the body is sent. -/
  | setIncludeBody (included : Bool)
  /-- The client is pointed to another address. -/
  | redirectPermanent (location : String)
  /-- Status, headers and body are forgotten. -/
  | reset

/-- A response after a change. -/
def Change.apply (response : Response) : Change → Response
  | setHeader name value => response.setHeader name value
  | clearHeaders => response.clearHeaders
  | setStatus status => response.setStatus status
  | setBody body => response.setBody body
  | write bytes => response.write bytes
  | setIncludeBody included => response.setIncludeBody included
  | redirectPermanent location => response.redirectPermanent location
  | reset => response.reset

/-- A change sets no header that makes more than one line. -/
def Change.Single : Change → Prop
  | setHeader name value => Text.FieldName name ∧ Text.Unbroken value
  | redirectPermanent location => Text.Unbroken location
  | _ => True

/-- Whether a change sets a header of more than one line is decided by the texts that it sets. -/
instance (change : Change) : Decidable change.Single :=
  match change with
  | .setHeader name value =>
    inferInstanceAs (Decidable (Text.FieldName name ∧ Text.Unbroken value))
  | .redirectPermanent location => inferInstanceAs (Decidable (Text.Unbroken location))
  | .clearHeaders | .setStatus _ | .setBody _ | .write _ | .setIncludeBody _ | .reset =>
    .isTrue trivial

/-- A response whose headers make one line each, and of which it is known whether the connection
stays open. -/
structure Kept (response : Response) (keepAlive : Bool) : Prop where
  /-- Every header makes one line. -/
  single : ∀ entry ∈ response.headers.entries,
    Text.FieldName entry.1 ∧ Text.Unbroken entry.2
  /-- The connection stays open, or not. -/
  flag : response.keepAlive = keepAlive

variable {response : Response} {keepAlive : Bool}

/-- A change that sets no header of more than one line keeps a response. -/
theorem Kept.apply (kept : response.Kept keepAlive) (change : Change) (single : change.Single) :
    (change.apply response).Kept keepAlive := by
  have none : ∀ entry ∈ Headers.empty.entries, Text.FieldName entry.1 ∧ Text.Unbroken entry.2 := by
    simp [Headers.empty]
  cases change with
  | setHeader name value =>
    exact ⟨Headers.forall_entries_set single.1 single.2 kept.single, kept.flag⟩
  | clearHeaders => exact ⟨none, kept.flag⟩
  | setStatus status => exact ⟨kept.single, kept.flag⟩
  | setBody body => exact ⟨kept.single, kept.flag⟩
  | write bytes => exact ⟨kept.single, kept.flag⟩
  | setIncludeBody included => exact ⟨kept.single, kept.flag⟩
  | redirectPermanent location =>
    have named : Text.FieldName "Location" := by decide +kernel
    exact ⟨Headers.forall_entries_set named single kept.single, kept.flag⟩
  | reset => exact ⟨none, kept.flag⟩

/-- Changes that set no header of more than one line keep a response. -/
theorem Kept.applyAll {changes : List Change} (single : ∀ change ∈ changes, change.Single)
    (kept : response.Kept keepAlive) :
    (changes.foldl Change.apply response).Kept keepAlive := by
  induction changes generalizing response with
  | nil => exact kept
  | cons change rest ih =>
    rw [List.forall_mem_cons] at single
    exact ih single.2 (kept.apply change single.1)

/-! ## What is sent -/

/-- The fields that are sent make one line each if the headers do. -/
theorem Kept.single_sentFields (kept : response.Kept keepAlive) :
    ∀ field ∈ response.sentFields, Text.FieldName field.1 ∧ Text.Unbroken field.2 := by
  have lengthName : Text.FieldName "Content-Length" := by decide +kernel
  have optionName : Text.FieldName "Connection" := by decide +kernel
  have option : Text.Unbroken response.connectionOption := by
    rw [connectionOption]
    split <;> decide +kernel
  rw [sentFields, List.forall_mem_append, List.forall_mem_cons, List.forall_mem_singleton]
  exact ⟨fun entry inside => kept.single entry (List.mem_filter.mp inside).1,
    ⟨lengthName, (Text.plain_toString _).unbroken⟩, ⟨optionName, option⟩⟩

/-- The head of a response whose headers make one line each is found in front of its body, with the
lines that were sent. -/
theorem Kept.splitHead_wire (kept : response.Kept keepAlive) (body : Bytes) :
    splitHead (Utf8.encode response.head ++ body) =
        some (Utf8.encode ("\r\n".intercalate (headLines response.statusLine response.sentFields)),
          body) ∧
      Text.lines ("\r\n".intercalate (headLines response.statusLine response.sentFields)).toList =
        (headLines response.statusLine response.sentFields).map String.toList := by
  have announced : response.statusLine ≠ "" ∧ '\r' ∉ response.statusLine.toList := by
    rw [statusLine]
    cases response.status <;> decide +kernel
  have lines : ∀ line ∈ headLines response.statusLine response.sentFields, '\r' ∉ line.toList := by
    refine not_mem_headLines announced.2 fun field inside => ?_
    obtain ⟨named, valued⟩ := kept.single_sentFields field inside
    exact ⟨named.unbroken.carriage, valued.carriage⟩
  refine ⟨?_, ?_⟩
  · rw [head_eq_headText]
    exact splitHead_headText announced.1 lines body
  · exact Text.lines_eq_iff.mpr (lined_intercalate (List.cons_ne_nil _ _) lines)

/-- The header lines with a name that are found in a response are the fields that are sent under
that name. -/
theorem Kept.linesNamed_wire (kept : response.Kept keepAlive) (name : String) :
    linesNamed name response.wire = (response.message.named name).map fieldText := by
  obtain ⟨found, lines⟩ := kept.splitHead_wire (if response.includeBody then response.body else [])
  rw [linesNamed, wire, found]
  dsimp only
  rw [Utf8.decode?_encode]
  dsimp only
  rw [lines, headLines, List.map_cons, List.tail_cons, List.map_map, List.filter_map, List.map_map]
  have sameName : ∀ field ∈ response.sentFields,
      (Text.isNamed name ∘ String.toList ∘ fieldText) field = sameLetters field.1 name :=
    fun field inside => Text.isNamed_fieldText (kept.single_sentFields field inside).1.uncut name
  rw [List.filter_congr sameName]
  have again : String.ofList ∘ String.toList ∘ fieldText = fieldText := by
    funext field
    exact String.ofList_toList
  rw [again]
  rfl

/-- The one header line that says what becomes of the connection. -/
theorem Kept.connection_line (kept : response.Kept keepAlive) :
    linesNamed "Connection" response.wire =
      ["Connection: " ++ if keepAlive then "keep-alive" else "close"] := by
  have name : "Connection: " = "Connection" ++ ": " := rfl
  rw [kept.linesNamed_wire, named_option, List.map_singleton, fieldText, connectionOption,
    kept.flag, name]

end Response

end OriginServer
