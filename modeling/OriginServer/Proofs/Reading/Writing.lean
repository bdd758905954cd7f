import Mathlib.Data.List.Forall2
import OriginServer.Proofs.Message.Lines
import OriginServer.Proofs.Reading.Grammar

/-!
# Requests that are written and read again

A request is written as its request line, its header lines, an empty line and its body
(`Request.written`). If no part of it holds what parts are separated with, reading gives back the
request that was written, whatever bytes follow it (`Request.read_written`).
-/
namespace OriginServer

open Text (Decimal Trimmed Worded isBlank trim)

/-! ## Parts that hold no separator -/

/-- A word of a request line: a text without blanks that is not empty. -/
structure Text.Solid (text : String) : Prop where
  /-- The text is not empty. -/
  nonempty : text ≠ ""
  /-- No character is blank. -/
  solid : ∀ char ∈ text.toList, isBlank char = false

/-- A text that stands in a header line: it holds no line break, and no blanks stand around it. -/
structure Text.Inline (text : String) : Prop where
  /-- The text holds no carriage return. -/
  carriage : '\r' ∉ text.toList
  /-- The text holds no line feed. -/
  feed : '\n' ∉ text.toList
  /-- The text neither begins nor ends with a blank. -/
  bare : trim text.toList = text.toList

/-- A name of a header: it is not empty and holds no colon. -/
structure Text.Named (name : String) : Prop extends Text.Inline name where
  /-- The name is not empty. -/
  nonempty : name ≠ ""
  /-- The name ends at the first colon of its line. -/
  uncut : ':' ∉ name.toList

namespace Text

/-- Whether a text is a word is decided by its characters. -/
instance (text : String) : Decidable (Solid text) :=
  decidable_of_iff (text ≠ "" ∧ text.toList.all (!isBlank ·) = true)
    ⟨fun ⟨nonempty, solid⟩ => ⟨nonempty, by simpa using solid⟩,
      fun ⟨nonempty, solid⟩ => ⟨nonempty, by simpa using solid⟩⟩

/-- Whether a text stands in one line is decided by its characters. -/
instance (text : String) : Decidable (Inline text) :=
  decidable_of_iff ('\r' ∉ text.toList ∧ '\n' ∉ text.toList ∧ trim text.toList = text.toList)
    ⟨fun ⟨carriage, feed, bare⟩ => ⟨carriage, feed, bare⟩,
      fun ⟨carriage, feed, bare⟩ => ⟨carriage, feed, bare⟩⟩

/-- Whether a text is a name of a header is decided by its characters. -/
instance (name : String) : Decidable (Named name) :=
  decidable_of_iff (Inline name ∧ name ≠ "" ∧ ':' ∉ name.toList)
    ⟨fun ⟨inline, nonempty, uncut⟩ => ⟨inline, nonempty, uncut⟩,
      fun ⟨inline, nonempty, uncut⟩ => ⟨inline, nonempty, uncut⟩⟩

/-- A word has characters. -/
theorem Solid.toList_ne_nil {text : String} (word : Solid text) : text.toList ≠ [] := by
  simpa using word.nonempty

/-- A word holds no carriage return. -/
theorem Solid.carriage {text : String} (word : Solid text) : '\r' ∉ text.toList := by
  intro inside
  exact absurd (word.solid '\r' inside) (by decide)

/-- A text that is its own trimmed text stands between no blanks. -/
theorem Inline.trimmed {text : String} (inline : Inline text) : Trimmed text.toList text.toList :=
  trim_eq_iff.mp inline.bare

/-- The text of a number has no blanks around it. -/
theorem trim_toString (number : Nat) :
    trim (toString number).toList = (toString number).toList := by
  have solid : ∀ digit ∈ (toString number).toList, isBlank digit = false := by
    intro digit inside
    have isDigit := isDigit_of_mem_toString inside
    exact Method.isBlank_of_isTokenChar (by simp [Method.isTokenChar, Char.isAlphanum, isDigit])
  exact trim_of_solid (fun char first => solid char (List.mem_of_mem_head? first))
    fun char last => solid char (List.mem_of_mem_getLast? last)

/-- Words with a space between each two are found again. -/
theorem worded_of_solid {first second third : String} (one : Solid first) (two : Solid second)
    (three : Solid third) :
    Worded (first ++ " " ++ second ++ " " ++ third).toList
      [first.toList, second.toList, third.toList] := by
  have parts : (first ++ " " ++ second ++ " " ++ third).toList =
      first.toList ++ ' ' :: (second.toList ++ ' ' :: (third.toList ++ [])) := by
    simp
  have apart : ∀ rest char, (' ' :: rest).head? = some char → isBlank char = true := by
    intro rest char begins
    obtain rfl := Option.some.inj begins
    rfl
  rw [← words_eq_iff, parts, words_append_of_solid one.toList_ne_nil one.solid (apart _),
    words_cons rfl, words_append_of_solid two.toList_ne_nil two.solid (apart _),
    words_cons rfl, words_append_of_solid three.toList_ne_nil three.solid (by simp)]
  rfl

end Text

/-- The text of a method that a token spells is a word. -/
theorem Method.Spelled.solid {method : Method} {token : String} (spelled : method.Spelled token) :
    Text.Solid token := by
  obtain ⟨nonempty, valid⟩ := Method.isToken_iff.mp spelled.valid
  exact ⟨nonempty, fun char inside => Method.isBlank_of_isTokenChar (valid char inside)⟩

/-! ## Requests -/

namespace Request

/-- A request as it is sent. -/
def written (method : Method) (target version : String) (headers : Headers) (body : Bytes) :
    Bytes :=
  Utf8.encode (headText (method.text ++ " " ++ target ++ " " ++ version) headers.entries) ++ body

end Request

namespace RequestHead

/-- A field in a line of its own is a header line. -/
theorem fieldLine_fieldText {field : String × String} (named : Text.Named field.1)
    (valued : Text.Inline field.2) : FieldLine (fieldText field).toList field := by
  have padded : Trimmed (' ' :: field.2.toList) field.2.toList :=
    ⟨⟨[' '], [], by simp, by simp [isBlank], by simp⟩, valued.trimmed.begins,
      valued.trimmed.ends⟩
  exact ⟨field.1.toList, ' ' :: field.2.toList, by simp [fieldText], named.uncut, named.trimmed,
    padded, named.nonempty⟩

/-- Fields in lines of their own are header lines. -/
theorem fieldLines_fieldText {fields : List (String × String)}
    (inline : ∀ field ∈ fields, Text.Named field.1 ∧ Text.Inline field.2) :
    List.Forall₂ FieldLine ((fields.map fieldText).map String.toList) fields := by
  rw [List.map_map, List.forall₂_map_left_iff, List.forall₂_same]
  intro field inside
  obtain ⟨named, valued⟩ := inline field inside
  exact fieldLine_fieldText named valued

/-- Fields that name the length of a body declare it, and fields that name none declare none. -/
theorem declaredLength_of_get? {headers : Headers} (distinct : headers.Distinct) {body : Bytes}
    (measured : headers.get? "Content-Length" = some (toString body.length) ∨
      headers.get? "Content-Length" = none ∧ body = [])
    (bounded : body.length ≤ maxBodyBytes) : DeclaredLength headers.entries body.length := by
  rw [← bodyLength_eq_ok_iff, distinct.ofList_entries, bodyLength]
  obtain declared | ⟨absent, rfl⟩ := measured
  · rw [declared]
    dsimp only
    rw [readLength_eq_ok_iff, Text.trim_toString]
    exact ⟨Text.decimal_toString body.length, bounded⟩
  · rw [absent]
    rfl

end RequestHead

namespace Request

/-- No line of a request that is written holds a carriage return of its own. -/
theorem carriage_not_mem_headLines {first second third : String}
    {fields : List (String × String)} (one : Text.Solid first) (two : Text.Solid second)
    (three : Text.Solid third)
    (inline : ∀ field ∈ fields, Text.Named field.1 ∧ Text.Inline field.2) :
    ∀ line ∈ headLines (first ++ " " ++ second ++ " " ++ third) fields, '\r' ∉ line.toList := by
  refine not_mem_headLines ?_ fun field inside => ?_
  · simp [one.carriage, two.carriage, three.carriage]
  · exact ⟨(inline field inside).1.carriage, (inline field inside).2.carriage⟩

/-- **Reading undoes writing.** A request made from a method given by a token, a target and a
version without blanks, header pairs that stand in one line each, and a body whose length they
declare, is read from the bytes in which it is written, whatever bytes follow them, and just these
bytes are taken. -/
theorem read_written {token target : String} {method : Method} {version : Option String}
    {pairs : List (String × String)} {body : Bytes}
    (parsed : Method.parse? token = some method) (targeted : Text.Solid target)
    (versioned : Text.Solid (version.getD "HTTP/1.1"))
    (protocol : "HTTP/".toList <+: (version.getD "HTTP/1.1").toList)
    (paired : ∀ pair ∈ pairs, Text.Named pair.1 ∧ Text.Inline pair.2)
    (measured : (Headers.ofList pairs).get? "Content-Length" = some (toString body.length) ∨
      (Headers.ofList pairs).get? "Content-Length" = none ∧ body = [])
    (bounded : body.length ≤ maxBodyBytes) :
    let bytes := written method target (version.getD "HTTP/1.1") (.ofList pairs) body
    ∃ request, Draft.build ⟨method, target, version, .ofList pairs, body⟩ = .ok request ∧
      ∀ more, read (bytes ++ more) = .ok (request, bytes.length) := by
  have spelled := Method.parse?_eq_some_iff.mp parsed
  have named : Text.Solid method.text := spelled.text ▸ spelled.solid
  have entries := Headers.forall_entries_ofList paired
  have distinct := Headers.distinct_ofList pairs
  generalize Headers.ofList pairs = headers at *
  obtain ⟨⟨path, query⟩, cut⟩ : ∃ parts, splitTarget target = parts := ⟨_, rfl⟩
  have parts := splitTarget_eq_iff.mp cut
  refine ⟨⟨method, path, query, version.getD "HTTP/1.1", headers, body⟩, ?_, fun more => ?_⟩
  · simp [Draft.build, cut, pure, Except.pure]
  -- The head that is found is the one that was written.
  have begins : method.text ++ " " ++ target ++ " " ++ version.getD "HTTP/1.1" ≠ "" := by simp
  have single := carriage_not_mem_headLines named targeted versioned entries
  have found := splitHead_headText begins single (body ++ more)
  have taken := length_of_splitHead found
  -- Its lines are taken apart into what they were put together from.
  have lined := lined_intercalate (List.cons_ne_nil _ _) single
  have requestLine : RequestHead.RequestLine _ _ _ _ :=
    ⟨Text.worded_of_solid named targeted versioned, protocol⟩
  have declared := RequestHead.declaredLength_of_get? distinct measured bounded
  have wellFormed := RequestHead.Grammar.whole ⟨_, rfl, lined⟩ requestLine
    (spelled.text ▸ spelled) (RequestHead.fieldLines_fieldText entries) declared
  have read := read_of_grammar
    (.whole (splitHead_eq_some_iff_framed.mp found) wellFormed parts rfl)
  rw [distinct.ofList_entries] at read
  rw [written, List.append_assoc, read]
  congr 2
  simp only [List.length_append, terminatorBytes] at taken ⊢
  omega

/-- Header pairs that repeat two names in other cases; a value holds a colon. -/
def repeatedPairs : List (String × String) :=
  [("X-Note", "a: b"), ("content-length", "none"), ("Content-Length", "4"), ("x-note", "c:")]

/-- A request with repeated headers, two question marks in its target and an empty line as its body
is read again. -/
theorem read_written_repeatedPairs :
    (∀ pair ∈ repeatedPairs, Text.Named pair.1 ∧ Text.Inline pair.2) ∧
      ∀ more, read (written (.extension "PURGE") "/a?b?c" "HTTP/1.1" (.ofList repeatedPairs) headEnd
          ++ more) =
        .ok (⟨.extension "PURGE", "/a", some "b?c", "HTTP/1.1",
          ⟨[("X-Note", "c:"), ("content-length", "4")]⟩, headEnd⟩, 60) := by
  have parsed : Method.parse? "PURGE" = some (.extension "PURGE") := by decide +kernel
  have targeted : Text.Solid "/a?b?c" := by decide +kernel
  have versioned : Text.Solid ((none : Option String).getD "HTTP/1.1") := by decide +kernel
  have paired : ∀ pair ∈ repeatedPairs, Text.Named pair.1 ∧ Text.Inline pair.2 := by decide +kernel
  have measured : (Headers.ofList repeatedPairs).get? "Content-Length" =
      some (toString headEnd.length) := by
    decide +kernel
  obtain ⟨request, built, read⟩ :=
    read_written parsed targeted versioned (by decide +kernel) paired (.inl measured) (by decide)
  refine ⟨paired, fun more => (read more).trans ?_⟩
  have made : Draft.build ⟨some (.extension "PURGE"), some "/a?b?c", none, .ofList repeatedPairs,
      headEnd⟩ = .ok ⟨.extension "PURGE", "/a", some "b?c", "HTTP/1.1",
        ⟨[("X-Note", "c:"), ("content-length", "4")]⟩, headEnd⟩ := by
    decide +kernel
  have taken : (written (.extension "PURGE") "/a?b?c" "HTTP/1.1" (.ofList repeatedPairs)
      headEnd).length = 60 := by
    decide +kernel
  rw [Except.ok.inj (built.symm.trans made)]
  exact congrArg (fun count => Except.ok (_, count)) taken

end Request

end OriginServer
