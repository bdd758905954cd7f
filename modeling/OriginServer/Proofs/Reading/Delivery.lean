import Mathlib.Control.Monad.Basic
import OriginServer.Proofs.Reading.Loop
import OriginServer.Transport.Script

/-!
# Reading does not depend on the delivery

A stream delivers its bytes in pieces of any size up to the room of a read, and then ends. Whatever
the pieces are, a call of `Connection.readRequest` returns what stands at the front of the bytes
ahead, that is of the buffered bytes followed by the unread ones (`returnedFor`), as long as the
head of the next request is not much longer than the limit. A head just above the limit may be
refused or not, depending on where the pieces end; a longer one is always refused.

The invariant that carries this is `Settled`: a buffer never holds a whole read more than the
request at its front, nor a head that ends far behind the limit.
-/
namespace OriginServer.Connection

variable {σ : Type} [Transport σ]

/-- A stream after a number of reads. -/
def afterReads : Nat → σ → σ
  | 0, stream => stream
  | count + 1, stream => afterReads count (Transport.read readRoom stream).2

/-- The stream gives no more bytes, however often it is read. -/
def Ended (stream : σ) : Prop :=
  ∀ count, (Transport.read readRoom (afterReads count stream)).1 = .ok []

/-- Each read gives the next of some pieces, and after the last one the stream has ended. -/
def Delivers : List Bytes → σ → Prop
  | [], stream => Ended stream
  | piece :: later, stream =>
    piece ≠ [] ∧ piece.length ≤ readRoom ∧ (Transport.read readRoom stream).1 = .ok piece ∧
      Delivers later (Transport.read readRoom stream).2

/-- A stream that has ended gives nothing and has still ended. -/
theorem Ended.read {stream : σ} (ended : Ended stream) :
    (Transport.read readRoom stream).1 = .ok [] ∧ Ended (Transport.read readRoom stream).2 :=
  ⟨ended 0, fun count => ended (count + 1)⟩

/-- A script of pieces delivers them. -/
theorem delivers_script (writes : List WriteStep) (flushes : List (Option FaultKind))
    (shutdown : Option FaultKind) {pieces : List Bytes}
    (sized : ∀ piece ∈ pieces, piece ≠ [] ∧ piece.length ≤ readRoom) :
    Delivers pieces (⟨pieces.map .bytes, writes, flushes, shutdown⟩ : Script) := by
  induction pieces with
  | nil =>
    intro count
    have still : afterReads count (⟨[], writes, flushes, shutdown⟩ : Script) =
        ⟨[], writes, flushes, shutdown⟩ := by
      induction count with
      | zero => rfl
      | succ count ih => exact ih
    rw [List.map_nil, still]
    rfl
  | cons piece later ih =>
    obtain ⟨nonempty, short⟩ := sized piece (by simp)
    have given : Transport.read readRoom
        (⟨(piece :: later).map .bytes, writes, flushes, shutdown⟩ : Script) =
        (.ok piece, ⟨later.map .bytes, writes, flushes, shutdown⟩) := by
      change Script.read readRoom _ = _
      simp [Script.read, List.drop_eq_nil_of_le short, List.take_of_length_le short]
    refine ⟨nonempty, short, by rw [given], ?_⟩
    rw [given]
    exact ih fun other inside => sized other (by simp [inside])

/-- What a call returns when the given bytes are ahead and then the stream ends: the request at
their front, the reason why there is none, or the failure to find the end of it. -/
def returnedFor (ahead : Bytes) : Except Failure Request :=
  match Request.read ahead with
  | .ok (request, _) => .ok request
  | .error .incomplete =>
    if headLength? ahead = none ∧ maxHeadBytes < ahead.length then
      .error (.badRequest .invalidHeader)
    else .error (.transport .hangUp)
  | .error cause => .error (.badRequest cause)

/-- The number of bytes that the request at the front of some bytes takes. -/
def takenBy (ahead : Bytes) : Nat :=
  match Request.read ahead with
  | .ok (_, taken) => taken
  | .error _ => 0

/-- The bytes ahead after some calls: each call that returned a request took it from the front. -/
def remaining : Bytes → List (Except Failure Request) → Bytes
  | ahead, [] => ahead
  | ahead, .ok _ :: later => remaining (ahead.drop (takenBy ahead)) later
  | ahead, .error _ :: later => remaining ahead later

/-- Some calls one after the other: what they return, and the connection afterwards. -/
def readRequests : Nat → Connection σ → List (Except Failure Request) × Connection σ
  | 0, connection => ([], connection)
  | calls + 1, connection =>
    let call := connection.readRequest
    let later := readRequests calls call.state
    (call.value :: later.1, later.2)

/-- A buffer in which little stands behind the request at its front, and in which the end of a head
is not far behind the limit. -/
structure Settled (buffer : Bytes) : Prop where
  /-- Behind a whole request stands less than one read. -/
  tight : ∀ {request taken}, Request.read buffer = .ok (request, taken) →
    buffer.length < taken + readRoom
  /-- A head without an end is at most one read above the limit. -/
  headless : splitHead buffer = none → buffer.length ≤ maxHeadBytes + readRoom
  /-- A head ends at most one read above the limit. -/
  headed : ∀ {head rest}, splitHead buffer = some (head, rest) →
    head.length + terminatorBytes ≤ maxHeadBytes + readRoom

/-- Less than one read is settled. -/
theorem settled_of_short {buffer : Bytes} (short : buffer.length < readRoom) : Settled buffer where
  tight _ := by omega
  headless _ := by omega
  headed found := by
    have whole := length_of_splitHead found
    omega

/-- Less than one read is left behind a request. -/
theorem Settled.length_drop_lt {buffer : Bytes} {request : Request} {taken : Nat}
    (settled : Settled buffer) (done : Request.read buffer = .ok (request, taken)) :
    (buffer.drop taken).length < readRoom := by
  have tight := settled.tight done
  have inside := Request.taken_le_length done
  rw [List.length_drop]
  omega

/-- What is left behind a request is settled. -/
theorem Settled.drop {buffer : Bytes} {request : Request} {taken : Nat} (settled : Settled buffer)
    (done : Request.read buffer = .ok (request, taken)) : Settled (buffer.drop taken) :=
  settled_of_short (settled.length_drop_lt done)

/-- One more read keeps a waiting buffer settled. -/
theorem Settled.append {buffer piece : Bytes} (settled : Settled buffer) (waiting : Waiting buffer)
    (short : piece.length ≤ readRoom) : Settled (buffer ++ piece) where
  tight {request taken} done := by
    -- The request reaches into the new piece, or it would have been there before.
    have reaches : buffer.length < taken := by
      refine Nat.lt_of_not_le fun inside => ?_
      have before := Request.read_of_append done inside
      rw [waiting.incomplete] at before
      contradiction
    rw [List.length_append]
    omega
  headless unfound := by
    cases before : splitHead buffer with
    | none =>
      have bounded := waiting.bounded before
      rw [List.length_append]
      omega
    | some parts =>
      rw [splitHead_append before piece] at unfound
      contradiction
  headed {head rest} found := by
    cases before : splitHead buffer with
    | none =>
      have bounded := waiting.bounded before
      have whole := length_of_splitHead found
      rw [List.length_append] at whole
      omega
    | some parts =>
      have same := splitHead_append before piece
      rw [found] at same
      obtain ⟨rfl, _⟩ := Prod.mk.inj (Option.some.inj same)
      exact settled.headed before

/-- The number of bytes before the end of a head is the length of the head. -/
theorem headLength?_eq_some_iff {bytes : Bytes} {length : Nat} :
    headLength? bytes = some length ↔
      ∃ head rest, splitHead bytes = some (head, rest) ∧ head.length = length := by
  simp [headLength?]

/-- A head has no length when it does not end. -/
theorem headLength?_eq_none_iff {bytes : Bytes} :
    headLength? bytes = none ↔ splitHead bytes = none := by
  simp [headLength?]

/-- What one call does when the given bytes are ahead of it. -/
structure Answered (ahead : Bytes) (call : Activity (Connection σ) (Except Failure Request)) :
    Prop where
  /-- A head that ends within the limit, or just behind it, is judged as it stands. -/
  within : (∀ length, headLength? ahead = some length →
    length + terminatorBytes ≤ maxHeadBytes + 1) → call.value = returnedFor ahead
  /-- A head that ends a whole read behind the limit is refused. -/
  beyond : ∀ length, headLength? ahead = some length →
    maxHeadBytes + readRoom < length + terminatorBytes →
      call.value = .error (.badRequest .invalidHeader)
  /-- There is no third outcome. -/
  either : call.value = returnedFor ahead ∨ call.value = .error (.badRequest .invalidHeader)
  /-- The buffer stays settled. -/
  settled : Settled call.state.buffer
  /-- The buffered bytes and the unread ones are those that were ahead, without the request that
  was returned. -/
  unread : ∃ pieces, Delivers pieces call.state.stream ∧
    call.state.buffer ++ pieces.flatten = remaining ahead [call.value]

/-- What stands at the front of the buffered bytes as a whole request stands at the front of the
bytes ahead. -/
theorem returnedFor_append_of_ok {buffer : Bytes} {request : Request} {taken : Nat}
    (done : Request.read buffer = .ok (request, taken)) (more : Bytes) :
    returnedFor (buffer ++ more) = .ok request := by
  simp [returnedFor, Request.read_append_of_ok done more]

/-- What is refused in the buffered bytes is refused in the bytes ahead. -/
theorem returnedFor_append_of_error {buffer : Bytes} {cause : ReadError}
    (refused : Request.read buffer = .error cause) (complete : cause ≠ .incomplete) (more : Bytes) :
    returnedFor (buffer ++ more) = .error (.badRequest cause) := by
  have front := Request.read_append_of_error refused complete more
  cases cause <;> simp_all [returnedFor]

/-- Behind a whole request in the buffer stand the rest of the buffer and the bytes ahead of it. -/
theorem remaining_of_ok {buffer : Bytes} {request : Request} {taken : Nat}
    (done : Request.read buffer = .ok (request, taken)) (more : Bytes) :
    remaining (buffer ++ more) [.ok request] = buffer.drop taken ++ more := by
  simp only [remaining, takenBy, Request.read_append_of_ok done more]
  exact List.drop_append_of_le_length (Request.taken_le_length done)

/-- When nothing follows a buffer that waits, the peer hung up. -/
theorem returnedFor_of_waiting {buffer : Bytes} (waiting : Waiting buffer) :
    returnedFor buffer = .error (.transport .hangUp) := by
  have short : ¬(headLength? buffer = none ∧ maxHeadBytes < buffer.length) := by
    rintro ⟨unfound, long⟩
    have bounded := waiting.bounded (headLength?_eq_none_iff.mp unfound)
    omega
  simp [returnedFor, waiting.incomplete, short]

section turns

variable {connection : Connection σ} {pieces : List Bytes}

/-- A whole request in the buffer is the one at the front of the bytes ahead. -/
theorem answered_of_ok {request : Request} {taken : Nat}
    (delivery : Delivers pieces connection.stream) (settled : Settled connection.buffer)
    (done : Request.read connection.buffer = .ok (request, taken)) :
    Answered (connection.buffer ++ pieces.flatten) connection.readRequest := by
  have same := returnedFor_append_of_ok done pieces.flatten
  rw [readRequest_of_ok done]
  refine ⟨fun _ => same.symm, ?_, .inl same.symm, settled.drop done, pieces, delivery,
    (remaining_of_ok done pieces.flatten).symm⟩
  intro length found far
  have kept := Request.front_read connection.buffer
  rw [done] at kept
  cases kept with
  | whole found' =>
    rw [headLength?, splitHead_append found'] at found
    obtain rfl := Option.some.inj found
    have near := settled.headed found'
    simp only at far
    omega

/-- A refusal of the buffer is one of the bytes ahead. -/
theorem answered_of_error {cause : ReadError} (delivery : Delivers pieces connection.stream)
    (settled : Settled connection.buffer) (refused : Request.read connection.buffer = .error cause)
    (complete : cause ≠ .incomplete) :
    Answered (connection.buffer ++ pieces.flatten) connection.readRequest := by
  have same := returnedFor_append_of_error refused complete pieces.flatten
  rw [readRequest_of_error refused complete]
  refine ⟨fun _ => same.symm, ?_, .inl same.symm, settled, pieces, delivery, rfl⟩
  intro length found far
  have kept := Request.front_read connection.buffer
  rw [refused] at kept
  cases kept with
  | headless => contradiction
  | refused found' =>
    rw [headLength?, splitHead_append found'] at found
    obtain rfl := Option.some.inj found
    have near := settled.headed found'
    simp only at far
    omega
  | short => contradiction

/-- A buffer that is too long without the end of a head is refused; if the bytes ahead hold one,
it lies behind the limit. -/
theorem answered_of_overlong (delivery : Delivers pieces connection.stream)
    (settled : Settled connection.buffer) (unfound : splitHead connection.buffer = none)
    (overlong : maxHeadBytes < connection.buffer.length) :
    Answered (connection.buffer ++ pieces.flatten) connection.readRequest := by
  rw [readRequest_of_overlong unfound overlong]
  refine ⟨?_, fun _ _ _ => rfl, .inr rfl, settled, pieces, delivery, rfl⟩
  intro near
  cases found : splitHead (connection.buffer ++ pieces.flatten) with
  | none =>
    have long : maxHeadBytes < (connection.buffer ++ pieces.flatten).length := by
      rw [List.length_append]
      omega
    simp only [returnedFor, Request.read_of_no_head found, headLength?_eq_none_iff.mpr found, long,
      and_self, if_true]
  | some parts =>
    have far := length_lt_of_splitHead_eq_none unfound found
    have bound := near parts.1.length (headLength?_eq_some_iff.mpr ⟨_, _, found, rfl⟩)
    omega

/-- When the stream has ended, a call that waits reports that the peer hung up. -/
theorem answered_of_ended (ended : Ended connection.stream) (settled : Settled connection.buffer)
    (waiting : Waiting connection.buffer) : Answered connection.buffer connection.readRequest := by
  obtain ⟨given, still⟩ := ended.read
  have same := returnedFor_of_waiting waiting
  rw [readRequest_of_waiting waiting, receive_of_nil given]
  refine ⟨fun _ => same.symm, ?_, .inl same.symm, settled, [], still, by simp [remaining]⟩
  intro length found far
  obtain ⟨head, rest, found', rfl⟩ := headLength?_eq_some_iff.mp found
  have near := settled.headed found'
  omega

/-- A call answers from what is buffered, or waits for more. -/
theorem answered_or_waiting (delivery : Delivers pieces connection.stream)
    (settled : Settled connection.buffer) :
    Answered (connection.buffer ++ pieces.flatten) connection.readRequest ∨
      Waiting connection.buffer := by
  obtain ⟨request, taken, done⟩ | ⟨cause, refused, complete⟩ | ⟨unfound, overlong⟩ | waiting :=
    turn_cases connection.buffer
  · exact .inl (answered_of_ok delivery settled done)
  · exact .inl (answered_of_error delivery settled refused complete)
  · exact .inl (answered_of_overlong delivery settled unfound overlong)
  · exact .inr waiting

end turns

/-- Every call answers for the bytes ahead of it, however they are delivered. -/
theorem answered_of_delivers {pieces : List Bytes} {connection : Connection σ}
    (delivery : Delivers pieces connection.stream) (settled : Settled connection.buffer) :
    Answered (connection.buffer ++ pieces.flatten) connection.readRequest := by
  -- One piece is read in each turn of the loop, and the bytes ahead stay the same.
  induction pieces generalizing connection with
  | nil =>
    obtain answered | waiting := answered_or_waiting delivery settled
    · exact answered
    · rw [List.flatten_nil, List.append_nil]
      exact answered_of_ended delivery settled waiting
  | cons piece later ih =>
    obtain answered | waiting := answered_or_waiting delivery settled
    · exact answered
    · obtain ⟨nonempty, short, given, rest⟩ := delivery
      let turned : Connection σ :=
        ⟨(Transport.read readRoom connection.stream).2, connection.buffer ++ piece⟩
      have answered : Answered (turned.buffer ++ later.flatten) turned.readRequest :=
        ih rest (settled.append waiting short)
      have same : connection.buffer ++ (piece :: later).flatten =
          turned.buffer ++ later.flatten := by simp [turned]
      rw [same, readRequest_of_waiting waiting, receive_of_piece nonempty given]
      exact ⟨answered.within, answered.beyond, answered.either, answered.settled,
        answered.unread⟩

/-- Two rows of calls one after the other take what the two take together. -/
theorem remaining_append (ahead : Bytes) (earlier later : List (Except Failure Request)) :
    remaining ahead (earlier ++ later) = remaining (remaining ahead earlier) later := by
  fun_induction remaining ahead earlier with
  | case1 => rfl
  | case2 ahead request rest ih => exact ih
  | case3 ahead failure rest ih => exact ih

/-- After any number of calls the bytes ahead are those delivered, without the requests that were
returned. -/
theorem delivers_readRequests {pieces : List Bytes} {connection : Connection σ}
    (delivery : Delivers pieces connection.stream) (settled : Settled connection.buffer)
    (calls : Nat) :
    ∃ unread, Delivers unread (readRequests calls connection).2.stream ∧
      Settled (readRequests calls connection).2.buffer ∧
      (readRequests calls connection).2.buffer ++ unread.flatten =
        remaining (connection.buffer ++ pieces.flatten) (readRequests calls connection).1 := by
  induction calls generalizing connection pieces with
  | zero => exact ⟨pieces, delivery, settled, rfl⟩
  | succ calls ih =>
    have answered := answered_of_delivers delivery settled
    obtain ⟨next, nextDelivery, ahead⟩ := answered.unread
    obtain ⟨unread, lastDelivery, lastSettled, left⟩ := ih nextDelivery answered.settled
    refine ⟨unread, lastDelivery, lastSettled, ?_⟩
    change _ = remaining _ ([connection.readRequest.value] ++
      (readRequests calls connection.readRequest.state).1)
    rw [remaining_append, ← ahead]
    exact left

/-- Reading does not depend on the delivery. Whatever pieces the bytes arrive in and however many
calls came before, the next call returns what stands at the front of the bytes ahead, if their
first head ends at most one byte behind the limit; it refuses a head that ends a whole read behind
the limit; and between the two it does one or the other. What is then buffered and still unread are
the bytes ahead without the request that was returned. -/
theorem readRequest_of_delivery {pieces : List Bytes} {stream : σ}
    (delivery : Delivers pieces stream) (calls : Nat) :
    let earlier := readRequests calls (ofStream stream)
    let ahead := remaining pieces.flatten earlier.1
    let call := earlier.2.readRequest
    ((∀ length, headLength? ahead = some length →
        length + terminatorBytes ≤ maxHeadBytes + 1) → call.value = returnedFor ahead) ∧
      (∀ length, headLength? ahead = some length →
        maxHeadBytes + readRoom < length + terminatorBytes →
          call.value = .error (.badRequest .invalidHeader)) ∧
      (call.value = returnedFor ahead ∨ call.value = .error (.badRequest .invalidHeader)) ∧
      ∃ unread, Delivers unread call.state.stream ∧
        call.state.buffer ++ unread.flatten = remaining ahead [call.value] := by
  have fresh : Settled (ofStream stream).buffer :=
    settled_of_short (show 0 < readRoom by decide)
  have whole : Delivers pieces (ofStream stream).stream := delivery
  obtain ⟨unread, later, settled, ahead⟩ := delivers_readRequests whole fresh calls
  have answered := answered_of_delivers later settled
  rw [ahead] at answered
  exact ⟨answered.within, answered.beyond, answered.either, answered.unread⟩

/-- Two requests in pieces that end inside the empty line of the first one and inside the version
of the second one. -/
def brokenPieces : List Bytes :=
  [Utf8.encode "GET /a HTTP/1.1\r\n\r", Utf8.encode "\nGET /b HT", Utf8.encode "TP/1.1\r\n\r\n"]

/-- The stream that delivers the broken pieces. -/
def brokenScript : Script := ⟨brokenPieces.map .bytes, [], [], none⟩

/-- The second call on the broken pieces returns the second request. -/
theorem readRequest_of_brokenPieces :
    Delivers brokenPieces brokenScript ∧
      (readRequests 1 (ofStream brokenScript)).2.readRequest.value =
        .ok ⟨.get, "/b", none, "HTTP/1.1", .empty, []⟩ := by
  have delivery : Delivers brokenPieces brokenScript := delivers_script [] [] none (by decide)
  have first : (readRequests 1 (ofStream brokenScript)).1 =
      [.ok ⟨.get, "/a", none, "HTTP/1.1", .empty, []⟩] := by decide +kernel
  have second := (readRequest_of_delivery delivery 1).1
  simp only [first] at second
  refine ⟨delivery, (second ?_).trans (by decide +kernel)⟩
  intro length found
  have headed : headLength? (remaining brokenPieces.flatten
      [.ok ⟨.get, "/a", none, "HTTP/1.1", .empty, []⟩]) = some 15 := by decide +kernel
  obtain rfl := Option.some.inj (headed.symm.trans found)
  decide

end OriginServer.Connection
