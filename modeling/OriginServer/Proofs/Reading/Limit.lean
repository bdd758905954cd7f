import OriginServer.Proofs.Reading.Delivery
import OriginServer.Proofs.Text.Bytes

/-!
# The limit of a head

A call of `Connection.readRequest` compares the number of buffered bytes with the limit between two
reads, and only while no head ends among them. So a head within the limit is never refused for its
size, and a longer one is refused for it exactly if a read ends behind the limit and before the end
of the head (`CutBehindLimit`, `judged_of_delivers`). Which of the two happens to a longer head
depends on the delivery alone: the same bytes, a head four bytes above the limit, are returned or
refused (`exists_overlong_head_returned`).
-/
namespace OriginServer.Connection

/-- After some of the reads more bytes than the limit are buffered, but not yet a whole head of the
given size, its end included. -/
def CutBehindLimit (size buffered : Nat) (pieces : List Bytes) : Prop :=
  ∃ reads, maxHeadBytes < buffered + (pieces.take reads).flatten.length ∧
    buffered + (pieces.take reads).flatten.length < size

/-- Nothing is read where nothing is left. -/
theorem cutBehindLimit_nil {size buffered : Nat} :
    CutBehindLimit size buffered [] ↔ maxHeadBytes < buffered ∧ buffered < size := by
  simp [CutBehindLimit]

/-- A head is cut by what is buffered already, or by a later read. -/
theorem cutBehindLimit_cons {size buffered : Nat} {piece : Bytes} {later : List Bytes} :
    CutBehindLimit size buffered (piece :: later) ↔
      (maxHeadBytes < buffered ∧ buffered < size) ∨
        CutBehindLimit size (buffered + piece.length) later := by
  constructor
  · rintro ⟨reads, long, short⟩
    cases reads with
    | zero => exact .inl ⟨long, short⟩
    | succ reads =>
      rw [List.take_succ_cons, List.flatten_cons, List.length_append, ← Nat.add_assoc]
        at long short
      exact .inr ⟨reads, long, short⟩
  · rintro (here | ⟨reads, long, short⟩)
    · exact ⟨0, here⟩
    · refine ⟨reads + 1, ?_⟩
      rw [List.take_succ_cons, List.flatten_cons, List.length_append, ← Nat.add_assoc]
      exact ⟨long, short⟩

/-- Reads within the limit do not cut a head behind it. -/
theorem cutBehindLimit_append {size buffered : Nat} {early : List Bytes} (later : List Bytes)
    (within : buffered + early.flatten.length ≤ maxHeadBytes) :
    CutBehindLimit size buffered (early ++ later) ↔
      CutBehindLimit size (buffered + early.flatten.length) later := by
  induction early generalizing buffered with
  | nil => rfl
  | cons piece rest ih =>
    rw [List.flatten_cons, List.length_append, ← Nat.add_assoc] at within ⊢
    have uncut : ¬(maxHeadBytes < buffered ∧ buffered < size) := by omega
    rw [List.cons_append, cutBehindLimit_cons, or_iff_right uncut, ih within]

/-- A head is not cut behind its end. -/
theorem not_cutBehindLimit_of_le {size buffered : Nat} (whole : size ≤ buffered)
    (pieces : List Bytes) : ¬CutBehindLimit size buffered pieces := by
  rintro ⟨reads, _, short⟩
  omega

/-- A head within the limit is not cut behind it. -/
theorem not_cutBehindLimit_of_small {size : Nat} (small : size ≤ maxHeadBytes) (buffered : Nat)
    (pieces : List Bytes) : ¬CutBehindLimit size buffered pieces := by
  rintro ⟨reads, long, short⟩
  omega

/-- A head whose end is buffered lies in the buffer as a whole. -/
theorem headed_le_length {buffer more head rest : Bytes}
    (ended : ∃ parts, splitHead buffer = some parts)
    (found : splitHead (buffer ++ more) = some (head, rest)) :
    head.length + terminatorBytes ≤ buffer.length := by
  obtain ⟨⟨early, left⟩, ended⟩ := ended
  have same := splitHead_append ended more
  rw [found] at same
  obtain ⟨rfl, _⟩ := Prod.mk.inj (Option.some.inj same)
  have whole := length_of_splitHead ended
  omega

/-- Bytes that are read as a request, or refused, hold the end of a head. -/
theorem exists_splitHead_of_read {bytes : Bytes}
    (decided : Request.read bytes ≠ .error .incomplete) :
    ∃ parts, splitHead bytes = some parts := by
  cases found : splitHead bytes with
  | none => exact absurd (Request.read_of_no_head found) decided
  | some parts => exact ⟨parts, rfl⟩

variable {σ : Type} [Transport σ]

/-- How a call judges the head of the request ahead of it, which has the given size. -/
structure Judged (size : Nat) (pieces : List Bytes) (connection : Connection σ) : Prop where
  /-- A head that is cut behind the limit is refused for its size. -/
  cut : CutBehindLimit size connection.buffer.length pieces →
    connection.readRequest.value = .error (.badRequest .invalidHeader)
  /-- Any other head is judged as it stands. -/
  uncut : ¬CutBehindLimit size connection.buffer.length pieces →
    connection.readRequest.value = returnedFor (connection.buffer ++ pieces.flatten)

section turns

variable {connection : Connection σ} {pieces : List Bytes} {head rest : Bytes}

/-- A buffer that holds the whole head is judged as it stands. -/
theorem judged_of_headed
    (found : splitHead (connection.buffer ++ pieces.flatten) = some (head, rest))
    (ended : ∃ parts, splitHead connection.buffer = some parts)
    (same : connection.readRequest.value = returnedFor (connection.buffer ++ pieces.flatten)) :
    Judged (head.length + terminatorBytes) pieces connection :=
  ⟨fun cut => absurd cut (not_cutBehindLimit_of_le (headed_le_length ended found) pieces),
    fun _ => same⟩

/-- A call judges the head from what is buffered, or waits for more. -/
theorem judged_or_waiting
    (found : splitHead (connection.buffer ++ pieces.flatten) = some (head, rest)) :
    Judged (head.length + terminatorBytes) pieces connection ∨ Waiting connection.buffer := by
  obtain ⟨request, taken, done⟩ | ⟨cause, refused, complete⟩ | ⟨unfound, overlong⟩ | waiting :=
    turn_cases connection.buffer
  · refine .inl (judged_of_headed found (exists_splitHead_of_read (by simp [done])) ?_)
    rw [readRequest_of_ok done, returnedFor_append_of_ok done]
  · refine .inl (judged_of_headed found (exists_splitHead_of_read ?_) ?_)
    · rw [refused]
      exact fun same => complete (Except.error.inj same)
    · rw [readRequest_of_error refused complete, returnedFor_append_of_error refused complete]
  · have short := length_lt_of_splitHead_eq_none unfound found
    refine .inl ⟨fun _ => by rw [readRequest_of_overlong unfound overlong], fun uncut => ?_⟩
    exact absurd ⟨0, by simpa using ⟨overlong, short⟩⟩ uncut
  · exact .inr waiting

/-- What a buffer that waits holds is no reason to refuse a head for its size. -/
theorem Waiting.not_cut {buffer more : Bytes} (waiting : Waiting buffer)
    (found : splitHead (buffer ++ more) = some (head, rest)) :
    ¬(maxHeadBytes < buffer.length ∧ buffer.length < head.length + terminatorBytes) := by
  rintro ⟨long, short⟩
  cases ended : splitHead buffer with
  | none =>
    have bounded := waiting.bounded ended
    omega
  | some parts =>
    have whole := headed_le_length ⟨parts, ended⟩ found
    omega

end turns

/-- A call refuses a head that is cut behind the limit, and judges any other one as it stands. -/
theorem judged_of_delivers {pieces : List Bytes} {connection : Connection σ} {head rest : Bytes}
    (delivery : Delivers pieces connection.stream)
    (found : splitHead (connection.buffer ++ pieces.flatten) = some (head, rest)) :
    Judged (head.length + terminatorBytes) pieces connection := by
  -- One piece is read in each turn of the loop; the bytes ahead, and the head, stay the same.
  induction pieces generalizing connection with
  | nil =>
    obtain judged | waiting := judged_or_waiting found
    · exact judged
    · refine ⟨fun cut => absurd (cutBehindLimit_nil.mp cut) (waiting.not_cut found), fun _ => ?_⟩
      obtain ⟨given, _⟩ := Ended.read delivery
      rw [readRequest_of_waiting waiting, receive_of_nil given, List.flatten_nil, List.append_nil,
        returnedFor_of_waiting waiting]
  | cons piece later ih =>
    obtain judged | waiting := judged_or_waiting found
    · exact judged
    · obtain ⟨nonempty, _, given, more⟩ := delivery
      let turned : Connection σ :=
        ⟨(Transport.read readRoom connection.stream).2, connection.buffer ++ piece⟩
      have same : connection.buffer ++ (piece :: later).flatten =
          turned.buffer ++ later.flatten := by simp [turned]
      have value : connection.readRequest.value = turned.readRequest.value := by
        rw [readRequest_of_waiting waiting, receive_of_piece nonempty given]
      have cut : CutBehindLimit (head.length + terminatorBytes) connection.buffer.length
            (piece :: later) ↔
          CutBehindLimit (head.length + terminatorBytes) turned.buffer.length later := by
        rw [cutBehindLimit_cons, or_iff_right (waiting.not_cut found), List.length_append]
      have judged : Judged (head.length + terminatorBytes) later turned := ih more (same ▸ found)
      refine ⟨fun early => value.trans (judged.cut (cut.mp early)), fun uncut => ?_⟩
      rw [value, same]
      exact judged.uncut (uncut ∘ cut.mpr)

/-- The limit of a head. However the bytes are delivered and however many calls came before, the
next call judges a head as it stands, whatever its size, unless a read ends behind the limit and
before the end of the head; a head that is cut like this is refused for its size. So a head within
the limit is never refused for its size, one that ends a whole read behind the limit always is, and
one in between is refused exactly if it is cut or unreadable in just this way. -/
theorem readRequest_of_size {pieces : List Bytes} {stream : σ} (delivery : Delivers pieces stream)
    (calls : Nat) :
    let earlier := readRequests calls (ofStream stream)
    let ahead := remaining pieces.flatten earlier.1
    let call := earlier.2.readRequest
    ∃ unread, Delivers unread earlier.2.stream ∧ earlier.2.buffer ++ unread.flatten = ahead ∧
      ∀ length, headLength? ahead = some length →
        let size := length + terminatorBytes
        let cut := CutBehindLimit size earlier.2.buffer.length unread
        (size ≤ maxHeadBytes → call.value = returnedFor ahead) ∧
          (maxHeadBytes + readRoom < size → call.value = .error (.badRequest .invalidHeader)) ∧
          (call.value = .error (.badRequest .invalidHeader) ↔
            cut ∨ returnedFor ahead = .error (.badRequest .invalidHeader)) ∧
          (¬cut → call.value = returnedFor ahead) := by
  intro earlier ahead call
  have fresh : Settled (ofStream stream).buffer :=
    settled_of_short (show 0 < readRoom by decide)
  have whole : Delivers pieces (ofStream stream).stream := delivery
  obtain ⟨unread, later, settled, left⟩ := delivers_readRequests whole fresh calls
  have same : earlier.2.buffer ++ unread.flatten = ahead := left
  refine ⟨unread, later, same, fun length found => ?_⟩
  obtain ⟨head, rest, split, rfl⟩ := headLength?_eq_some_iff.mp found
  intro size cut
  have answered : Answered ahead call := same ▸ answered_of_delivers later settled
  have judged : Judged size unread earlier.2 := judged_of_delivers later (same.symm ▸ split)
  have uncut : ¬cut → call.value = returnedFor ahead := fun uncut =>
    (judged.uncut uncut).trans (congrArg returnedFor same)
  refine ⟨fun small => uncut (not_cutBehindLimit_of_small small _ _), answered.beyond _ found,
    ⟨fun refused => ?_, fun reason => ?_⟩, uncut⟩
  · by_cases early : cut
    · exact .inl early
    · exact .inr ((uncut early).symm.trans refused)
  · by_cases early : cut
    · exact judged.cut early
    · exact (uncut early).trans (reason.resolve_left early)

section padded

/-- The beginning of a request for `/`, up to the value of its only header. -/
def paddedStart : List Char := "GET / HTTP/1.1\r\nX:".toList

/-- The head that goes on with as many blanks as given. -/
def paddedHead (count : Nat) : Bytes :=
  Utf8.encode (String.ofList (paddedStart ++ List.replicate count ' '))

/-- The request with a padded head: the blanks are no part of its value. -/
def paddedRequest : Request := ⟨.get, "/", none, "HTTP/1.1", .ofList [("X", "")], []⟩

/-- A padded head is its beginning, then the bytes of its blanks. -/
theorem paddedHead_eq (count : Nat) :
    paddedHead count = Utf8.ofChars paddedStart ++ List.replicate count 32 := by
  have blank : String.utf8EncodeChar ' ' = [32] := rfl
  rw [paddedHead, Utf8.encode_eq_ofChars, String.toList_ofList, Utf8.ofChars,
    List.flatMap_append, List.flatMap_replicate, blank, List.flatten_replicate_singleton,
    Utf8.ofChars]

/-- The length of a padded head. -/
theorem length_paddedHead (count : Nat) : (paddedHead count).length = 18 + count := by
  have start : (Utf8.ofChars paddedStart).length = 18 := by decide
  rw [paddedHead_eq, List.length_append, start, List.length_replicate]

/-- More blanks make a longer padded head. -/
theorem paddedHead_append (count more : Nat) :
    paddedHead count ++ List.replicate more 32 = paddedHead (count + more) := by
  rw [paddedHead_eq, paddedHead_eq, List.append_assoc, List.replicate_append_replicate]

/-- Blanks do not end a head. -/
theorem splitHeadFrom_blanks (count : Nat) (passed : Bytes) :
    splitHeadFrom passed (List.replicate count 32 ++ headEnd) =
      some (passed.reverse ++ List.replicate count 32, []) := by
  induction count generalizing passed with
  | zero => simp [headEnd, splitHeadFrom]
  | succ count ih =>
    rw [List.replicate_succ, List.cons_append, splitHeadFrom, ih]
    · simp
    · simp

/-- A padded head ends where its blanks end. -/
theorem splitHead_paddedHead (count : Nat) :
    splitHead (paddedHead count ++ headEnd) = some (paddedHead count, []) := by
  rw [paddedHead_eq, List.append_assoc]
  exact splitHeadFrom_blanks count (Utf8.ofChars paddedStart).reverse

/-- Blanks do not end a line. -/
theorem linesFrom_blanks (count : Nat) (passed : List Char) :
    Text.linesFrom passed (List.replicate count ' ') =
      [passed.reverse ++ List.replicate count ' '] := by
  induction count generalizing passed with
  | zero => simp [Text.linesFrom]
  | succ count ih =>
    rw [List.replicate_succ, Text.linesFrom, ih]
    · simp
    · simp

/-- A padded head is readable, however long it is. -/
theorem read_paddedHead (count : Nat) :
    RequestHead.read (paddedHead count) =
      .ok ⟨.get, "/", "HTTP/1.1", .ofList [("X", "")], 0⟩ := by
  have lines : Text.lines (paddedStart ++ List.replicate count ' ') =
      ["GET / HTTP/1.1".toList, "X:".toList ++ List.replicate count ' '] :=
    congrArg ("GET / HTTP/1.1".toList :: ·) (linesFrom_blanks count [':', 'X'])
  have line : RequestHead.readRequestLine "GET / HTTP/1.1".toList =
      .ok (.get, "/", "HTTP/1.1") := by decide +kernel
  have trimmed : Text.trim (List.replicate count ' ') = [] := by
    have blank : Text.isBlank ' ' = true := by decide
    simp [Text.trim, blank]
  have field : RequestHead.readField ("X:".toList ++ List.replicate count ' ') =
      .ok ("X", "") := by
    have cut : Text.cutAt? ':' ("X:".toList ++ List.replicate count ' ') =
        some (['X'], List.replicate count ' ') := rfl
    rw [RequestHead.readField, cut]
    dsimp only
    rw [trimmed]
    rfl
  have fields : RequestHead.readFields .empty ["X:".toList ++ List.replicate count ' '] =
      .ok (.ofList [("X", "")]) := by
    rw [RequestHead.readFields, field]
    rfl
  rw [RequestHead.read, paddedHead, Utf8.decode?_encode]
  simp only [String.toList_ofList, lines, List.headD_cons, List.tail_cons, line, fields]
  rfl

/-- A padded head with its end is a whole request. -/
theorem returnedFor_paddedHead (count : Nat) :
    returnedFor (paddedHead count ++ headEnd) = .ok paddedRequest := by
  have whole := Request.read_of_splitHead (splitHead_paddedHead count) (read_paddedHead count)
    (Nat.zero_le _)
  have front := returnedFor_append_of_ok whole []
  rwa [List.append_nil] at front

/-- The pieces of a padded head: full reads, as many as given after the first one, and the last
pieces. -/
def paddedPieces (reads : Nat) (last : List Bytes) : List Bytes :=
  paddedHead 1006 :: List.replicate reads (List.replicate readRoom 32) ++ last

/-- The stream of these pieces. -/
def paddedScript (reads : Nat) (last : List Bytes) : Script :=
  ⟨(paddedPieces reads last).map .bytes, [], [], none⟩

/-- The full reads hold a padded head, without its end. -/
theorem flatten_paddedPieces (reads : Nat) (last : List Bytes) :
    (paddedPieces reads last).flatten = paddedHead (1006 + reads * readRoom) ++ last.flatten := by
  rw [paddedPieces, List.flatten_append, List.flatten_cons, List.flatten_replicate_replicate,
    paddedHead_append]

/-- A full read fits into the room of a read. -/
theorem sized_of_full {piece : Bytes} (full : piece.length = readRoom) :
    piece ≠ [] ∧ piece.length ≤ readRoom := by
  refine ⟨List.ne_nil_of_length_pos ?_, Nat.le_of_eq full⟩
  rw [full]
  decide

/-- The stream delivers the pieces, if the last ones fit. -/
theorem delivers_paddedScript (reads : Nat) {last : List Bytes}
    (sized : ∀ piece ∈ last, piece ≠ [] ∧ piece.length ≤ readRoom) :
    Delivers (paddedPieces reads last) (paddedScript reads last) := by
  refine delivers_script [] [] none fun piece inside => ?_
  rw [paddedPieces, List.mem_append, List.mem_cons] at inside
  obtain (first | full) | ending := inside
  · rw [first]
    exact sized_of_full (length_paddedHead 1006)
  · rw [(List.mem_replicate.mp full).2]
    exact sized_of_full List.length_replicate
  · exact sized piece ending

/-- A head that just fits into the limit is returned. -/
theorem readRequest_of_fitting :
    let last := [List.replicate 1020 32 ++ headEnd]
    Delivers (paddedPieces 62 last) (paddedScript 62 last) ∧
      headLength? (paddedPieces 62 last).flatten = some (maxHeadBytes - terminatorBytes) ∧
      (ofStream (paddedScript 62 last)).readRequest.value = .ok paddedRequest := by
  intro last
  have delivery : Delivers (paddedPieces 62 last) (paddedScript 62 last) :=
    delivers_paddedScript 62 fun piece inside => by
      rw [List.mem_singleton.mp inside]
      refine sized_of_full ?_
      rw [List.length_append, List.length_replicate]
      rfl
  have bytes : (paddedPieces 62 last).flatten = paddedHead 65514 ++ headEnd := by
    rw [flatten_paddedPieces, List.flatten_cons, List.flatten_nil, List.append_nil,
      ← List.append_assoc, paddedHead_append]
    rfl
  have length : headLength? (paddedPieces 62 last).flatten =
      some (maxHeadBytes - terminatorBytes) := by
    rw [bytes, headLength?, splitHead_paddedHead, Option.map_some, length_paddedHead]
    rfl
  obtain ⟨unread, _, _, judged⟩ := readRequest_of_size delivery 0
  have value := (judged _ length).1 (by decide)
  refine ⟨delivery, length, value.trans ?_⟩
  exact (congrArg returnedFor bytes).trans (returnedFor_paddedHead 65514)

/-- A padded head four bytes above the limit is refused if its last pieces cut it, and returned
otherwise. -/
theorem readRequest_paddedScript {last : List Bytes} (ends : last.flatten = headEnd)
    (sized : ∀ piece ∈ last, piece ≠ [] ∧ piece.length ≤ readRoom) :
    (CutBehindLimit (maxHeadBytes + terminatorBytes) maxHeadBytes last →
        (ofStream (paddedScript 63 last)).readRequest.value =
          .error (.badRequest .invalidHeader)) ∧
      (¬CutBehindLimit (maxHeadBytes + terminatorBytes) maxHeadBytes last →
        (ofStream (paddedScript 63 last)).readRequest.value = .ok paddedRequest) := by
  have bytes : (paddedPieces 63 last).flatten = paddedHead 65518 ++ headEnd := by
    rw [flatten_paddedPieces, ends]
    rfl
  have size : (paddedHead 65518).length = maxHeadBytes := length_paddedHead 65518
  have judged : Judged (maxHeadBytes + terminatorBytes) (paddedPieces 63 last)
      (ofStream (paddedScript 63 last)) := by
    have found : splitHead ((ofStream (paddedScript 63 last)).buffer ++
        (paddedPieces 63 last).flatten) = some (paddedHead 65518, []) := by
      rw [ofStream, List.nil_append, bytes, splitHead_paddedHead]
    rw [← size]
    exact judged_of_delivers (delivers_paddedScript 63 sized) found
  have cut : CutBehindLimit (maxHeadBytes + terminatorBytes) 0 (paddedPieces 63 last) ↔
      CutBehindLimit (maxHeadBytes + terminatorBytes) maxHeadBytes last := by
    have full : 0 + (paddedPieces 63 []).flatten.length = maxHeadBytes := by
      rw [flatten_paddedPieces, List.flatten_nil, List.append_nil, Nat.zero_add]
      exact size
    have pieces : paddedPieces 63 last = paddedPieces 63 [] ++ last := by simp [paddedPieces]
    rw [pieces, cutBehindLimit_append last (Nat.le_of_eq full), full]
  refine ⟨fun early => judged.cut (cut.mpr early), fun uncut => ?_⟩
  refine (judged.uncut (uncut ∘ cut.mp)).trans ?_
  rw [ofStream, List.nil_append, bytes]
  exact returnedFor_paddedHead 65518

/-- Whether a head four bytes above the limit is returned depends on the delivery. If its end
arrives in one piece it is returned; if the first byte of its end arrives alone it is refused. -/
theorem exists_overlong_head_returned :
    let bytes := paddedHead 65518 ++ headEnd
    let whole := [headEnd]
    let cut := [headEnd.take 1, headEnd.drop 1]
    headLength? bytes = some maxHeadBytes ∧
      ((paddedPieces 63 whole).flatten = bytes ∧
        Delivers (paddedPieces 63 whole) (paddedScript 63 whole) ∧
        (ofStream (paddedScript 63 whole)).readRequest.value = .ok paddedRequest) ∧
      (paddedPieces 63 cut).flatten = bytes ∧
        Delivers (paddedPieces 63 cut) (paddedScript 63 cut) ∧
        (ofStream (paddedScript 63 cut)).readRequest.value =
          .error (.badRequest .invalidHeader) := by
  intro bytes whole cut
  have length : headLength? bytes = some maxHeadBytes := by
    rw [headLength?, splitHead_paddedHead, Option.map_some, length_paddedHead]
    rfl
  have wholeSized : ∀ piece ∈ whole, piece ≠ [] ∧ piece.length ≤ readRoom := by decide
  have cutSized : ∀ piece ∈ cut, piece ≠ [] ∧ piece.length ≤ readRoom := by decide
  refine ⟨length, ⟨flatten_paddedPieces 63 whole, delivers_paddedScript 63 wholeSized, ?_⟩,
    flatten_paddedPieces 63 cut, delivers_paddedScript 63 cutSized, ?_⟩
  · refine (readRequest_paddedScript rfl wholeSized).2 fun early => ?_
    rw [cutBehindLimit_cons, cutBehindLimit_nil] at early
    simp [headEnd, terminatorBytes] at early
  · refine (readRequest_paddedScript rfl cutSized).1 ⟨1, ?_⟩
    decide

end padded

end OriginServer.Connection
