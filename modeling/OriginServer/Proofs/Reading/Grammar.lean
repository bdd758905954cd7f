import OriginServer.Proofs.Message.Headers
import OriginServer.Proofs.Message.Length
import OriginServer.Proofs.Message.Method
import OriginServer.Proofs.Reading.Front
import OriginServer.Proofs.Text.Bytes
import OriginServer.Proofs.Text.Pieces

/-!
# The grammar of requests

`Request.Grammar` says what is at the front of some bytes without a reader: a request with its
length, or the first thing that is wrong. It is put together from relations for the framing, the
request line, the header lines and the declared length. Every byte list has an outcome under the
grammar (`Request.exists_grammar`), and reading gives that outcome and no other one
(`Request.read_eq_iff_grammar`).
-/
namespace OriginServer

open Text (Decimal Lined Trimmed Worded lineEnd sameLetters)

/-! ## Framing -/

/-- Some bytes consist of a head, the first end of a head in them, and a rest. -/
structure Framed (bytes head rest : Bytes) : Prop where
  /-- The parts make up the bytes. -/
  parts : bytes = head ++ headEnd ++ rest
  /-- There is no earlier end of a head. -/
  first : ∀ before after, bytes = before ++ headEnd ++ after → head.length ≤ before.length

/-- A head is found where it ends first. -/
theorem splitHead_eq_some_iff_framed {bytes head rest : Bytes} :
    splitHead bytes = some (head, rest) ↔ Framed bytes head rest := by
  rw [splitHead_eq_some_iff]
  constructor
  · rintro ⟨parts, first⟩
    refine ⟨parts, fun before after whole => Nat.le_of_not_lt fun early => ?_⟩
    refine first before.length early ⟨after, ?_⟩
    rw [whole, List.append_assoc, List.drop_left]
  · rintro ⟨parts, first⟩
    refine ⟨parts, fun offset inside ⟨after, early⟩ => ?_⟩
    have short : offset ≤ bytes.length := by
      rw [parts]
      simp only [List.length_append]
      omega
    have whole : bytes = bytes.take offset ++ headEnd ++ after := by
      rw [List.append_assoc, early, List.take_append_drop]
    have late := first _ _ whole
    rw [List.length_take_of_le short] at late
    omega

/-- A head and the end of its last line hold no end of a head. -/
theorem Framed.closed {bytes head rest : Bytes} (framed : Framed bytes head rest) :
    ¬headEnd <:+: head ++ [13, 10] := by
  rintro ⟨before, after, inside⟩
  have whole : bytes = before ++ headEnd ++ (after ++ [13, 10] ++ rest) := by
    rw [framed.parts]
    have ending : headEnd = [13, 10] ++ [13, 10] := rfl
    conv => lhs; rw [ending, ← List.append_assoc, ← inside]
    simp only [List.append_assoc]
  have early := congrArg List.length inside
  have late := framed.first _ _ whole
  simp only [headEnd, List.length_append, List.length_cons, List.length_nil] at early
  omega

/-! ## The request line -/

namespace RequestHead

/-- A line of three words, the last of which names a version of the protocol. -/
structure RequestLine (line : List Char) (method target version : String) : Prop where
  /-- The line consists of the three words. -/
  words : Worded line [method.toList, target.toList, version.toList]
  /-- The version begins with the name of the protocol. -/
  protocol : "HTTP/".toList <+: version.toList

variable {line : List Char} {token target version : String}

/-- A line of three words is read word by word. -/
theorem readRequestLine_of_requestLine (requestLine : RequestLine line token target version) :
    readRequestLine line = (Method.parse? token).elim (.error .invalidMethod)
      fun method => .ok (method, target, version) := by
  rw [readRequestLine, Text.words_eq_iff.mpr requestLine.words]
  dsimp only
  rw [if_pos (List.isPrefixOf_iff_prefix.mpr requestLine.protocol)]
  simp only [String.ofList_toList]
  cases Method.parse? token with
  | none => rfl
  | some method => rfl

/-- A request line is read if its first word spells a method. -/
theorem readRequestLine_of_spelled {method : Method}
    (requestLine : RequestLine line token target version) (spelled : method.Spelled token) :
    readRequestLine line = .ok (method, target, version) := by
  rw [readRequestLine_of_requestLine requestLine, Method.parse?_eq_some_iff.mpr spelled,
    Option.elim_some]

/-- A request line is refused for its method if its first word is no token. -/
theorem readRequestLine_of_not_token (requestLine : RequestLine line token target version)
    (invalid : Method.isToken token = false) :
    readRequestLine line = .error .invalidMethod := by
  rw [readRequestLine_of_requestLine requestLine, Method.parse?_eq_none_iff.mpr invalid,
    Option.elim_none]

/-- Any other line is no request line. -/
theorem readRequestLine_of_malformed
    (malformed : ∀ method target version, ¬RequestLine line method target version) :
    readRequestLine line = .error .invalidRequest := by
  rw [readRequestLine]
  split
  · rename_i method target version worded
    refine if_neg fun protocol => ?_
    refine malformed (.ofList method) (.ofList target) (.ofList version) ⟨?_, ?_⟩
    · simpa using Text.words_eq_iff.mp worded
    · simpa using List.isPrefixOf_iff_prefix.mp protocol
  · rfl

/-! ## Header lines -/

/-- A header line is a name that is not empty, a colon, which is the first one, and a value, with
blanks around both. -/
def FieldLine (line : List Char) (field : String × String) : Prop :=
  ∃ name value, line = name ++ ':' :: value ∧ ':' ∉ name ∧ Trimmed name field.1.toList ∧
    Trimmed value field.2.toList ∧ field.1 ≠ ""

/-- A header line is read as its name and its value. -/
theorem readField_eq_ok_iff {field : String × String} :
    readField line = .ok field ↔ FieldLine line field := by
  rw [readField]
  cases cut : Text.cutAt? ':' line with
  | none =>
    rw [Text.cutAt?_eq_none_iff] at cut
    refine iff_of_false (by simp) ?_
    rintro ⟨name, value, rfl, -⟩
    simp at cut
  | some parts =>
    obtain ⟨name, value⟩ := parts
    dsimp only
    constructor
    · intro read
      split at read
      · cases read
      · rename_i named
        obtain rfl := Except.ok.inj read
        obtain ⟨whole, absent⟩ := Text.cutAt?_eq_some_iff.mp cut
        refine ⟨name, value, whole, absent, ?_, ?_, ?_⟩
        · simpa using Text.trimmed_trim name
        · simpa using Text.trimmed_trim value
        · simpa using named
    · rintro ⟨name', value', whole, absent, named, valued, nonempty⟩
      have same := Text.cutAt?_eq_some_iff.mpr ⟨whole, absent⟩
      rw [cut] at same
      obtain ⟨rfl, rfl⟩ := Prod.mk.inj (Option.some.inj same)
      rw [Text.trim_eq_iff.mpr named, Text.trim_eq_iff.mpr valued, if_neg (by simpa using nonempty)]
      simp

/-- A line that is no header line is refused as such. -/
theorem readField_of_malformed (malformed : ∀ field, ¬FieldLine line field) :
    readField line = .error .invalidHeader := by
  cases read : readField line with
  | ok field => exact absurd (readField_eq_ok_iff.mp read) (malformed field)
  | error cause =>
    rw [readField] at read
    split at read
    · exact read.symm
    · split at read
      · exact read.symm
      · cases read

/-- Lines that are all header lines declare fields. -/
theorem exists_fields {lines : List (List Char)}
    (declared : ∀ line ∈ lines, ∃ field, FieldLine line field) :
    ∃ fields, List.Forall₂ FieldLine lines fields := by
  induction lines with
  | nil => exact ⟨[], .nil⟩
  | cons line rest ih =>
    rw [List.forall_mem_cons] at declared
    obtain ⟨field, fieldLine⟩ := declared.1
    obtain ⟨fields, fieldLines⟩ := ih declared.2
    exact ⟨field :: fields, .cons fieldLine fieldLines⟩

/-- Header lines are read in order. -/
theorem readFields_of_fieldLines {lines : List (List Char)} {fields : List (String × String)}
    (fieldLines : List.Forall₂ FieldLine lines fields) (headers : Headers) :
    readFields headers lines =
      .ok (fields.foldl (fun headers field => headers.set field.1 field.2) headers) := by
  induction fieldLines generalizing headers with
  | nil => rfl
  | @cons line field lines fields fieldLine fieldLines ih =>
    have nonempty : ¬line.isEmpty = true := by
      obtain ⟨name, value, rfl, -⟩ := fieldLine
      simp
    rw [readFields, if_neg nonempty, readField_eq_ok_iff.mpr fieldLine]
    exact ih _

/-- The fields of header lines are set in order. -/
theorem readFields_empty_of_fieldLines {lines : List (List Char)} {fields : List (String × String)}
    (fieldLines : List.Forall₂ FieldLine lines fields) :
    readFields .empty lines = .ok (.ofList fields) :=
  readFields_of_fieldLines fieldLines .empty

/-- Lines are refused if one of them, which is not empty, is no header line. -/
theorem readFields_of_malformed {lines : List (List Char)} (inside : line ∈ lines)
    (nonempty : line ≠ []) (malformed : ∀ field, ¬FieldLine line field) (headers : Headers) :
    readFields headers lines = .error .invalidHeader := by
  induction lines generalizing headers with
  | nil => cases inside
  | cons first rest ih =>
    rw [readFields]
    by_cases here : first = line
    · subst here
      rw [if_neg (by simpa using nonempty), readField_of_malformed malformed]
    · have later : line ∈ rest := by
        cases inside with
        | head => exact absurd rfl here
        | tail _ later => exact later
      split
      · exact ih later headers
      · by_cases read : ∃ field, FieldLine first field
        · obtain ⟨field, fieldLine⟩ := read
          rw [readField_eq_ok_iff.mpr fieldLine]
          exact ih later _
        · rw [readField_of_malformed (not_exists.mp read)]

/-! ## The declared length -/

/-- Some fields declare the length of a body: the last `Content-Length` does, in any case of its
letters, and without one there is no body. -/
inductive DeclaredLength (fields : List (String × String)) : Nat → Prop where
  /-- No field is a `Content-Length`. -/
  | absent (unnamed : ∀ field ∈ fields, sameLetters field.1 "Content-Length" = false) :
      DeclaredLength fields 0
  /-- The last `Content-Length` writes a number that is not too large. -/
  | present {before after : List (String × String)} {name value : String} {number : List Char}
      {length : Nat} (parts : fields = before ++ (name, value) :: after)
      (named : sameLetters name "Content-Length" = true)
      (last : ∀ field ∈ after, sameLetters field.1 "Content-Length" = false)
      (trimmed : Trimmed value.toList number) (decimal : Decimal number length)
      (bounded : length ≤ maxBodyBytes) : DeclaredLength fields length

/-- The length that is read is the one declared. -/
theorem bodyLength_eq_ok_iff {fields : List (String × String)} {length : Nat} :
    bodyLength (.ofList fields) = .ok length ↔ DeclaredLength fields length := by
  rw [bodyLength]
  cases kept : (Headers.ofList fields).get? "Content-Length" with
  | none =>
    have unnamed := Headers.get?_ofList_eq_none_iff.mp kept
    dsimp only
    constructor
    · intro none
      obtain rfl := Except.ok.inj none
      exact .absent unnamed
    · intro declared
      cases declared with
      | absent => rfl
      | @present before after name value _ _ parts named =>
        have other := unnamed (name, value) (by simp [parts])
        rw [named] at other
        cases other
  | some value =>
    obtain ⟨before, name, after, parts, named, last⟩ := Headers.get?_ofList_eq_some_iff.mp kept
    dsimp only
    rw [readLength_eq_ok_iff]
    constructor
    · rintro ⟨decimal, bounded⟩
      exact .present parts named last (Text.trimmed_trim value.toList) decimal bounded
    · intro declared
      cases declared with
      | absent unnamed =>
        rw [Headers.get?_ofList_eq_none_iff.mpr unnamed] at kept
        cases kept
      | @present before' after' name' value' _ _ parts' named' last' trimmed decimal bounded =>
        have same := Headers.get?_ofList_eq_some_iff.mpr
          ⟨before', name', after', parts', named', last'⟩
        obtain rfl : value = value' := Option.some.inj (kept.symm.trans same)
        rw [Text.trim_eq_iff.mpr trimmed]
        exact ⟨decimal, bounded⟩

/-- A declaration that writes no length is refused as such. -/
theorem bodyLength_of_undeclared {fields : List (String × String)}
    (undeclared : ∀ length, ¬DeclaredLength fields length) :
    bodyLength (.ofList fields) = .error .invalidContentLength := by
  cases read : bodyLength (.ofList fields) with
  | ok length => exact absurd (bodyLength_eq_ok_iff.mp read) (undeclared length)
  | error cause =>
    rw [bodyLength] at read
    split at read
    · cases read
    · rw [(readLength_eq_error_iff.mp read).1]

/-! ## Heads -/

/-- Some bytes are the text of some lines. -/
def Inscribed (bytes : Bytes) (lines : List (List Char)) : Prop :=
  ∃ text, Utf8.encode text = bytes ∧ Lined text.toList lines

/-- What a head is: a request line and header lines, or the first thing that is wrong with it. -/
inductive Grammar (bytes : Bytes) : Except ReadError RequestHead → Prop where
  /-- The head is no text. -/
  | notText (unreadable : ∀ text, Utf8.encode text ≠ bytes) :
      Grammar bytes (.error .invalidRequest)
  /-- The first line is no request line. -/
  | noRequestLine {first : List Char} {others : List (List Char)}
      (inscribed : Inscribed bytes (first :: others))
      (malformed : ∀ method target version, ¬RequestLine first method target version) :
      Grammar bytes (.error .invalidRequest)
  /-- The first word is no token. -/
  | noMethod {first : List Char} {others : List (List Char)} {token target version : String}
      (inscribed : Inscribed bytes (first :: others))
      (requestLine : RequestLine first token target version)
      (invalid : Method.isToken token = false) : Grammar bytes (.error .invalidMethod)
  /-- One of the other lines is no header line. -/
  | noField {first line : List Char} {others : List (List Char)}
      {token target version : String} {method : Method}
      (inscribed : Inscribed bytes (first :: others))
      (requestLine : RequestLine first token target version) (spelled : method.Spelled token)
      (inside : line ∈ others) (malformed : ∀ field, ¬FieldLine line field) :
      Grammar bytes (.error .invalidHeader)
  /-- The declared length is none. -/
  | noLength {first : List Char} {others : List (List Char)} {token target version : String}
      {method : Method} {fields : List (String × String)}
      (inscribed : Inscribed bytes (first :: others))
      (requestLine : RequestLine first token target version) (spelled : method.Spelled token)
      (fieldLines : List.Forall₂ FieldLine others fields)
      (undeclared : ∀ length, ¬DeclaredLength fields length) :
      Grammar bytes (.error .invalidContentLength)
  /-- The head is well-formed. -/
  | whole {first : List Char} {others : List (List Char)} {token target version : String}
      {method : Method} {fields : List (String × String)} {length : Nat}
      (inscribed : Inscribed bytes (first :: others))
      (requestLine : RequestLine first token target version) (spelled : method.Spelled token)
      (fieldLines : List.Forall₂ FieldLine others fields)
      (declared : DeclaredLength fields length) :
      Grammar bytes (.ok ⟨method, target, version, .ofList fields, length⟩)

/-- A text is read line by line. -/
theorem read_of_inscribed {bytes : Bytes} {first : List Char} {others : List (List Char)}
    (inscribed : Inscribed bytes (first :: others)) :
    read bytes = do
      let (method, target, version) ← readRequestLine first
      let headers ← readFields .empty others
      let contentLength ← bodyLength headers
      return { method, target, version, headers, contentLength } := by
  obtain ⟨text, rfl, lined⟩ := inscribed
  rw [read, Utf8.decode?_encode]
  dsimp only
  rw [Text.lines_eq_iff.mpr lined]
  rfl

/-- A further line of a text that has no empty line, at its end neither, is not empty. -/
theorem ne_nil_of_inscribed {bytes : Bytes} {first line : List Char} {others : List (List Char)}
    (closed : ¬headEnd <:+: bytes ++ [13, 10]) (inscribed : Inscribed bytes (first :: others))
    (inside : line ∈ others) : line ≠ [] := by
  rintro rfl
  obtain ⟨text, rfl, lined⟩ := inscribed
  obtain ⟨before, after, whole⟩ := lined.twice_infix inside
  refine closed ⟨Utf8.ofChars before, Utf8.ofChars after, ?_⟩
  have mark : [13, 10] = Utf8.ofChars lineEnd := by decide
  have ending : headEnd = Utf8.ofChars lineEnd ++ Utf8.ofChars lineEnd := by decide
  rw [Utf8.encode_eq_ofChars, mark, ending]
  simp only [Utf8.ofChars, ← List.flatMap_append]
  rw [whole]

/-- Reading a head gives its outcome under the grammar. -/
theorem read_of_grammar {bytes : Bytes} (closed : ¬headEnd <:+: bytes ++ [13, 10])
    {outcome : Except ReadError RequestHead} (grammar : Grammar bytes outcome) :
    read bytes = outcome := by
  cases grammar with
  | notText unreadable =>
    have undecoded : Utf8.decode? bytes = none := by
      cases decoded : Utf8.decode? bytes with
      | none => rfl
      | some text => exact absurd (Utf8.encode_of_decode? decoded) (unreadable text)
    rw [read, undecoded]
    rfl
  | noRequestLine inscribed malformed =>
    rw [read_of_inscribed inscribed, readRequestLine_of_malformed malformed]
    rfl
  | noMethod inscribed requestLine invalid =>
    rw [read_of_inscribed inscribed, readRequestLine_of_not_token requestLine invalid]
    rfl
  | noField inscribed requestLine spelled inside malformed =>
    have nonempty := ne_nil_of_inscribed closed inscribed inside
    rw [read_of_inscribed inscribed, readRequestLine_of_spelled requestLine spelled,
      readFields_of_malformed inside nonempty malformed]
    rfl
  | noLength inscribed requestLine spelled fieldLines undeclared =>
    rw [read_of_inscribed inscribed, readRequestLine_of_spelled requestLine spelled,
      readFields_empty_of_fieldLines fieldLines]
    simp only [bind, Except.bind, bodyLength_of_undeclared undeclared]
  | whole inscribed requestLine spelled fieldLines declared =>
    rw [read_of_inscribed inscribed, readRequestLine_of_spelled requestLine spelled,
      readFields_empty_of_fieldLines fieldLines]
    simp only [bind, Except.bind, bodyLength_eq_ok_iff.mpr declared]
    rfl

/-- Every head has an outcome under the grammar. -/
theorem exists_grammar (bytes : Bytes) : ∃ outcome, Grammar bytes outcome := by
  by_cases readable : ∃ text, Utf8.encode text = bytes
  · obtain ⟨text, rfl⟩ := readable
    obtain ⟨first, others, -, lined⟩ := Text.exists_lined_linesFrom [] text.toList
    have inscribed : Inscribed (Utf8.encode text) (first :: others) := ⟨text, rfl, lined⟩
    by_cases worded : ∃ token target version, RequestLine first token target version
    · obtain ⟨token, target, version, requestLine⟩ := worded
      cases parsed : Method.parse? token with
      | none => exact ⟨_, .noMethod inscribed requestLine (Method.parse?_eq_none_iff.mp parsed)⟩
      | some method =>
        have spelled := Method.parse?_eq_some_iff.mp parsed
        by_cases declared : ∀ line ∈ others, ∃ field, FieldLine line field
        · obtain ⟨fields, fieldLines⟩ := exists_fields declared
          by_cases measured : ∃ length, DeclaredLength fields length
          · obtain ⟨length, declared⟩ := measured
            exact ⟨_, .whole inscribed requestLine spelled fieldLines declared⟩
          · exact ⟨_, .noLength inscribed requestLine spelled fieldLines (not_exists.mp measured)⟩
        · push Not at declared
          obtain ⟨line, inside, malformed⟩ := declared
          exact ⟨_, .noField inscribed requestLine spelled inside malformed⟩
    · push Not at worded
      exact ⟨_, .noRequestLine inscribed worded⟩
  · exact ⟨_, .notText (not_exists.mp readable)⟩

end RequestHead

/-! ## Requests -/

/-- A target consists of a path, and behind the first question mark of a query, if there is one. -/
inductive TargetParts : String → String → Option String → Prop where
  /-- There is no question mark. -/
  | plain {path : String} (absent : '?' ∉ path.toList) : TargetParts path path none
  /-- The path goes up to the first question mark. -/
  | asking {path query : String} (first : '?' ∉ path.toList) :
      TargetParts (path ++ "?" ++ query) path (some query)

/-- A target is cut into its parts. -/
theorem splitTarget_eq_iff {target path : String} {query : Option String} :
    splitTarget target = (path, query) ↔ TargetParts target path query := by
  constructor
  · intro parted
    rw [splitTarget] at parted
    cases cut : Text.cutAt? '?' target.toList with
    | none =>
      rw [cut] at parted
      obtain ⟨rfl, rfl⟩ := Prod.mk.inj parted
      exact .plain (Text.cutAt?_eq_none_iff.mp cut)
    | some parts =>
      obtain ⟨before, after⟩ := parts
      obtain ⟨whole, absent⟩ := Text.cutAt?_eq_some_iff.mp cut
      rw [cut] at parted
      obtain ⟨rfl, rfl⟩ := Prod.mk.inj parted
      have joined : target = .ofList before ++ "?" ++ .ofList after := by
        rw [← String.toList_inj, whole]
        simp
      rw [joined]
      exact .asking (by simpa using absent)
  · intro parts
    cases parts with
    | plain absent => rw [splitTarget, Text.cutAt?_eq_none_iff.mpr absent]
    | @asking _ query first =>
      have whole : (path ++ "?" ++ query).toList = path.toList ++ '?' :: query.toList := by simp
      rw [splitTarget, Text.cutAt?_eq_some_iff.mpr ⟨whole, first⟩]
      simp

/-- What is at the front of some bytes: a request and the number of its bytes, or the first thing
that is wrong. -/
inductive Request.Grammar (bytes : Bytes) : Except ReadError (Request × Nat) → Prop where
  /-- No head ends. -/
  | endless (unended : ¬headEnd <:+: bytes) : Grammar bytes (.error .incomplete)
  /-- There is something wrong with the head. -/
  | refused {head rest : Bytes} {cause : ReadError} (framed : Framed bytes head rest)
      (wrong : RequestHead.Grammar head (.error cause)) : Grammar bytes (.error cause)
  /-- The body is shorter than declared. -/
  | short {head rest : Bytes} {parts : RequestHead} (framed : Framed bytes head rest)
      (wellFormed : RequestHead.Grammar head (.ok parts))
      (missing : rest.length < parts.contentLength) : Grammar bytes (.error .incomplete)
  /-- The request is complete. -/
  | whole {head body rest : Bytes} {parts : RequestHead} {path : String} {query : Option String}
      (framed : Framed bytes head (body ++ rest))
      (wellFormed : RequestHead.Grammar head (.ok parts))
      (target : TargetParts parts.target path query)
      (measured : body.length = parts.contentLength) :
      Grammar bytes (.ok (⟨parts.method, path, query, parts.version, parts.headers, body⟩,
        head.length + 4 + parts.contentLength))

namespace Request

/-- Reading gives the outcome under the grammar. -/
theorem read_of_grammar {bytes : Bytes} {outcome : Except ReadError (Request × Nat)}
    (grammar : Grammar bytes outcome) : read bytes = outcome := by
  cases grammar with
  | endless unended => exact read_of_no_head (splitHead_eq_none_iff.mpr unended)
  | refused framed wrong =>
    have found := splitHead_eq_some_iff_framed.mpr framed
    exact read_of_unreadable found (RequestHead.read_of_grammar framed.closed wrong)
  | short framed wellFormed missing =>
    have found := splitHead_eq_some_iff_framed.mpr framed
    exact read_of_short_body found (RequestHead.read_of_grammar framed.closed wellFormed) missing
  | @whole head body rest parts path query framed wellFormed target measured =>
    have found := splitHead_eq_some_iff_framed.mpr framed
    rw [read_of_splitHead found (RequestHead.read_of_grammar framed.closed wellFormed)]
    · rw [RequestHead.request, splitTarget_eq_iff.mpr target, ← measured, List.take_left]
      rfl
    · rw [List.length_append]
      omega

/-- Every byte list has an outcome under the grammar. -/
theorem exists_grammar (bytes : Bytes) : ∃ outcome, Grammar bytes outcome := by
  cases found : splitHead bytes with
  | none => exact ⟨_, .endless (splitHead_eq_none_iff.mp found)⟩
  | some parts =>
    obtain ⟨head, rest⟩ := parts
    have framed := splitHead_eq_some_iff_framed.mp found
    obtain ⟨outcome, grammar⟩ := RequestHead.exists_grammar head
    cases outcome with
    | error cause => exact ⟨_, .refused framed grammar⟩
    | ok parts =>
      by_cases arrived : parts.contentLength ≤ rest.length
      · have target := splitTarget_eq_iff.mp (rfl : splitTarget parts.target = _)
        rw [← List.take_append_drop parts.contentLength rest] at framed
        exact ⟨_, .whole framed grammar target (List.length_take_of_le arrived)⟩
      · exact ⟨_, .short framed grammar (Nat.not_le.mp arrived)⟩

/-- What reading gives is the outcome under the grammar. -/
theorem grammar_of_read {bytes : Bytes} {outcome : Except ReadError (Request × Nat)}
    (read : Request.read bytes = outcome) : Grammar bytes outcome := by
  obtain ⟨outcome, grammar⟩ := exists_grammar bytes
  rw [read_of_grammar grammar] at read
  rwa [read] at grammar

/-- **Reading accepts exactly the grammar.** For all bytes, reading returns a request with a number
of bytes, or refuses them for a cause, exactly if that is the outcome that the grammar gives the
bytes. -/
theorem read_eq_iff_grammar (bytes : Bytes) (outcome : Except ReadError (Request × Nat)) :
    read bytes = outcome ↔ Grammar bytes outcome := by
  constructor
  · exact grammar_of_read
  · exact read_of_grammar

end Request

end OriginServer
