import OriginServer.Proofs.Message.Lines
import OriginServer.Proofs.Reading.Writing

/-!
# The first word of a request

A request whose bytes begin with its method is read as that method and the rest of the bytes. The
rest alone decides everything but the method: with another method in front it is read as the same
request, except for the method (`Request.read_of_other_method`).
-/
namespace OriginServer

open Text (Lined Solid Worded isBlank)

/-! ## Heads, lines and words behind a beginning -/

/-- What has been passed belongs to the head. -/
theorem splitHeadFrom_eq_map (passed bytes : Bytes) :
    splitHeadFrom passed bytes =
      (splitHead bytes).map fun parts => (passed.reverse ++ parts.1, parts.2) := by
  cases found : splitHead bytes with
  | none =>
    rw [splitHead_eq_none_iff, ← splitHeadFrom_eq_none_iff] at found
    exact found
  | some parts =>
    obtain ⟨whole, first⟩ := splitHead_eq_some_iff.mp found
    exact splitHeadFrom_eq_some_iff.mpr ⟨parts.1, rfl, whole, first⟩

/-- A beginning without a carriage return belongs to the head. -/
theorem splitHead_front {front : Bytes} (single : 13 ∉ front) (bytes : Bytes) :
    splitHead (front ++ bytes) =
      (splitHead bytes).map fun parts => (front ++ parts.1, parts.2) := by
  rw [splitHead, splitHeadFrom_append single, List.append_nil, splitHeadFrom_eq_map,
    List.reverse_reverse]

/-- A beginning without a carriage return makes a head longer. -/
theorem headLength?_front {front : Bytes} (single : 13 ∉ front) (bytes : Bytes) :
    headLength? (front ++ bytes) = (headLength? bytes).map (front.length + ·) := by
  rw [headLength?, headLength?, splitHead_front single, Option.map_map, Option.map_map]
  refine Option.map_congr fun parts _ => ?_
  exact List.length_append

/-- Text whose bytes begin with those of ASCII characters begins with these characters. -/
theorem Utf8.exists_append_of_ascii {front : List Char}
    (ascii : ∀ char ∈ front, char.toNat < 128) {chars : List Char} {bytes : Bytes}
    (same : ofChars chars = ofChars front ++ bytes) :
    ∃ rest, chars = front ++ rest ∧ ofChars rest = bytes := by
  induction front generalizing chars with
  | nil => exact ⟨chars, rfl, same⟩
  | cons char front ih =>
    rw [List.forall_mem_cons] at ascii
    have byte : (UInt8.ofNat char.toNat).toNat = char.toNat := by
      rw [UInt8.toNat_ofNat']
      omega
    rw [ofChars, ofChars, List.flatMap_cons, bytes_of_ascii ascii.1] at same
    have narrow : (UInt8.ofNat char.toNat).toNat < 128 := by
      rw [byte]
      exact ascii.1
    obtain ⟨other, rest, rfl, number, later⟩ := ofChars_eq_cons narrow same
    obtain rfl : other = char := Char.toNat_inj.mp (number.trans byte)
    obtain ⟨rest, rfl, bytes⟩ := ih ascii.2 later.symm
    exact ⟨rest, rfl, bytes⟩

/-- A beginning without a carriage return has been passed when the lines behind it are taken
apart. -/
theorem Text.linesFrom_front {front : List Char} (single : '\r' ∉ front)
    (passed rest : List Char) :
    linesFrom passed (front ++ rest) = linesFrom (front.reverse ++ passed) rest := by
  induction front generalizing passed with
  | nil => rfl
  | cons char front ih =>
    rw [List.mem_cons, not_or] at single
    have inside : ¬(char = '\r' ∧ (front ++ rest).head? = some '\n') :=
      fun ⟨carriage, _⟩ => single.1 carriage.symm
    rw [List.cons_append, linesFrom_cons inside, ih single.2]
    simp

/-- A beginning without a carriage return belongs to the first line. -/
theorem Text.lined_front_iff {front : List Char} (single : '\r' ∉ front) {rest first : List Char}
    {others : List (List Char)} :
    Lined (front ++ rest) (first :: others) ↔
      ∃ line, first = front ++ line ∧ Lined rest (line :: others) := by
  obtain ⟨line, later, found, lined⟩ := exists_lined_linesFrom front.reverse rest
  rw [← lines_eq_iff, lines, linesFrom_front single, List.append_nil, found, List.reverse_reverse,
    List.cons.injEq]
  constructor
  · rintro ⟨rfl, rfl⟩
    exact ⟨line, rfl, lined⟩
  · rintro ⟨other, rfl, same⟩
    rw [← lines_eq_iff, lines_eq_iff.mpr lined, List.cons.injEq] at same
    exact ⟨congrArg (front ++ ·) same.1, same.2⟩

/-- A word at the beginning of a text is its first word if a blank or nothing follows it. -/
theorem Text.worded_front_iff {word : List Char} (nonempty : word ≠ [])
    (solid : ∀ char ∈ word, isBlank char = false) {rest : List Char} {later : List (List Char)} :
    Worded (word ++ rest) (word :: later) ↔
      (∀ char, rest.head? = some char → isBlank char = true) ∧ Worded rest later := by
  constructor
  · intro worded
    generalize whole : word ++ rest = text at worded
    cases worded with
    | @next gap _ behind _ blank _ _ apart worded =>
      -- No blank stands in front of the word, since it begins the text.
      cases gap with
      | nil =>
        obtain rfl := List.append_cancel_left whole
        exact ⟨apart, worded⟩
      | cons char gap =>
        obtain ⟨first, word, rfl⟩ := List.exists_cons_of_ne_nil nonempty
        obtain ⟨rfl, -⟩ := List.cons.inj whole
        have visible := solid first List.mem_cons_self
        rw [blank first List.mem_cons_self] at visible
        cases visible
  · rintro ⟨apart, worded⟩
    have none : ∀ char ∈ [], isBlank char = true := by simp
    exact .next none nonempty solid apart worded

/-! ## Requests with another method -/

/-- The bytes of a token hold no carriage return. -/
theorem Method.Spelled.carriage {method : Method} {token : String}
    (spelled : method.Spelled token) : 13 ∉ Utf8.encode token :=
  Utf8.not_mem_encode spelled.solid.carriage

/-- The bytes of a token belong to the first line. -/
theorem RequestHead.inscribed_front_iff {method : Method} {token : String}
    (spelled : method.Spelled token) {bytes : Bytes} {first : List Char}
    {others : List (List Char)} :
    Inscribed (Utf8.encode token ++ bytes) (first :: others) ↔
      ∃ line, first = token.toList ++ line ∧ Inscribed bytes (line :: others) := by
  have ascii : ∀ char ∈ token.toList, char.toNat < 128 := by
    obtain ⟨-, valid⟩ := Method.isToken_iff.mp spelled.valid
    exact fun char inside => Method.ascii_of_isTokenChar (valid char inside)
  constructor
  · rintro ⟨text, encoded, lined⟩
    rw [Utf8.encode_eq_ofChars, Utf8.encode_eq_ofChars] at encoded
    obtain ⟨rest, whole, rfl⟩ := Utf8.exists_append_of_ascii ascii encoded
    rw [whole, Text.lined_front_iff spelled.solid.carriage] at lined
    obtain ⟨line, rfl, lined⟩ := lined
    refine ⟨line, rfl, String.ofList rest, ?_, by simpa using lined⟩
    rw [Utf8.encode_eq_ofChars, String.toList_ofList]
  · rintro ⟨line, rfl, text, rfl, lined⟩
    refine ⟨token ++ text, Utf8.encode_append token text, ?_⟩
    rw [String.toList_append, Text.lined_front_iff spelled.solid.carriage]
    exact ⟨line, rfl, lined⟩

/-- A head that begins with its method is well-formed with another method as well. -/
theorem RequestHead.Grammar.of_other_method {method other : Method} {token word : String}
    (spelled : method.Spelled token) (otherSpelled : other.Spelled word) {bytes : Bytes}
    {head : RequestHead} (wellFormed : Grammar (Utf8.encode token ++ bytes) (.ok head))
    (asked : head.method = method) :
    Grammar (Utf8.encode word ++ bytes) (.ok { head with method := other }) := by
  cases wellFormed with
  | @whole first others spelling target version named fields length inscribed requestLine
      spelledHere fieldLines declared =>
    obtain rfl : named = method := asked
    obtain rfl : spelling = token := spelledHere.text.symm.trans spelled.text
    obtain ⟨line, rfl, rest⟩ := (inscribed_front_iff spelled).mp inscribed
    obtain ⟨apart, words⟩ := (Text.worded_front_iff spelled.solid.toList_ne_nil
      spelled.solid.solid).mp requestLine.words
    have otherWords := (Text.worded_front_iff otherSpelled.solid.toList_ne_nil
      otherSpelled.solid.solid).mpr ⟨apart, words⟩
    exact .whole ((inscribed_front_iff otherSpelled).mpr ⟨line, rfl, rest⟩)
      ⟨otherWords, requestLine.protocol⟩ otherSpelled fieldLines declared

namespace Request

/-- **The first word of a request is its method and nothing else.** A request whose bytes begin with
the token of its method is read with the token of any other method in its place as well: the request
is the same except for the method, and the same bytes behind the token are taken. -/
theorem read_of_other_method {method other : Method} {token word : String}
    (spelled : method.Spelled token) (otherSpelled : other.Spelled word) {tail : Bytes}
    {request : Request} {taken : Nat}
    (read : Request.read (Utf8.encode token ++ tail) = .ok (request, taken))
    (asked : request.method = method) :
    ∃ count, taken = (Utf8.encode token).length + count ∧
      Request.read (Utf8.encode word ++ tail) =
        .ok ({ request with method := other }, (Utf8.encode word).length + count) := by
  cases Request.grammar_of_read read with
  | @whole head body rest parts path query framed wellFormed target measured =>
    have found := splitHead_eq_some_iff_framed.mpr framed
    rw [splitHead_front spelled.carriage, Option.map_eq_some_iff] at found
    obtain ⟨⟨before, behind⟩, same, joined⟩ := found
    obtain ⟨rfl, rfl⟩ := Prod.mk.inj joined
    have otherFound : splitHead (Utf8.encode word ++ tail) =
        some (Utf8.encode word ++ before, body ++ rest) := by
      rw [splitHead_front otherSpelled.carriage, same]
      rfl
    have otherFramed := splitHead_eq_some_iff_framed.mp otherFound
    have otherFormed := wellFormed.of_other_method spelled otherSpelled asked
    refine ⟨before.length + 4 + parts.contentLength, ?_, ?_⟩
    · dsimp only
      rw [List.length_append]
      omega
    · rw [Request.read_of_grammar (.whole otherFramed otherFormed target measured),
        List.length_append]
      congr 2
      dsimp only
      omega

end Request

end OriginServer
