import OriginServer.Proofs.Reading.Front
import OriginServer.Transport.Connection

/-!
# Reading as one loop

`Connection.readRequest` gathers a head and then a body. Seen from outside it is one loop: each
turn looks at all that is buffered, and ends the call (`readRequest_of_ok`, `readRequest_of_error`,
`readRequest_of_overlong`) or reads once and goes on with the longer buffer
(`readRequest_of_waiting`). Exactly one of the four happens (`turn_cases`).
-/
namespace OriginServer.Connection

/-- The buffer holds the beginning of a request and may grow: it refuses nothing yet, and a head
without an end is not too long. -/
structure Waiting (buffer : Bytes) : Prop where
  /-- A request needs more bytes. -/
  incomplete : Request.read buffer = .error .incomplete
  /-- A head without an end is within the limit. -/
  bounded : splitHead buffer = none → buffer.length ≤ maxHeadBytes

/-- What a turn finds in the buffer. -/
theorem turn_cases (buffer : Bytes) :
    (∃ request taken, Request.read buffer = .ok (request, taken)) ∨
      (∃ cause, Request.read buffer = .error cause ∧ cause ≠ .incomplete) ∨
      (splitHead buffer = none ∧ maxHeadBytes < buffer.length) ∨ Waiting buffer := by
  cases found : Request.read buffer with
  | ok done => exact .inl ⟨done.1, done.2, rfl⟩
  | error cause =>
    by_cases incomplete : cause = .incomplete
    · subst incomplete
      by_cases overlong : splitHead buffer = none ∧ maxHeadBytes < buffer.length
      · exact .inr (.inr (.inl overlong))
      · refine .inr (.inr (.inr ⟨found, fun unfound => ?_⟩))
        exact Nat.le_of_not_lt fun long => overlong ⟨unfound, long⟩
    · exact .inr (.inl ⟨cause, rfl, incomplete⟩)

variable {σ : Type} [Transport σ]

/-- One read, after which the call goes on unless the stream failed or ended. -/
def receive (connection : Connection σ) : Activity (Connection σ) (Except Failure Request) :=
  match Transport.read readRoom connection.stream with
  | (.error fault, stream) =>
    ⟨.error (.transport fault), { connection with stream }, [.read (.error fault)]⟩
  | (.ok [], stream) =>
    ⟨.error (.transport .hangUp), { connection with stream }, [.read (.ok [])]⟩
  | (.ok (first :: more), stream) =>
    let later := readRequest ⟨stream, connection.buffer ++ first :: more⟩
    { later with events := .read (.ok (first :: more)) :: later.events }

/-- When the stream fails, the call ends and the buffer stays. -/
theorem receive_of_error {connection : Connection σ} {fault : Fault}
    (given : (Transport.read readRoom connection.stream).1 = .error fault) :
    connection.receive = ⟨.error (.transport fault),
      { connection with stream := (Transport.read readRoom connection.stream).2 },
      [.read (.error fault)]⟩ := by
  rw [receive]
  revert given
  obtain ⟨outcome, stream⟩ := Transport.read readRoom connection.stream
  rintro rfl
  rfl

/-- When the stream gives nothing, the call ends and the buffer stays. -/
theorem receive_of_nil {connection : Connection σ}
    (given : (Transport.read readRoom connection.stream).1 = .ok []) :
    connection.receive = ⟨.error (.transport .hangUp),
      { connection with stream := (Transport.read readRoom connection.stream).2 },
      [.read (.ok [])]⟩ := by
  rw [receive]
  revert given
  obtain ⟨outcome, stream⟩ := Transport.read readRoom connection.stream
  rintro rfl
  rfl

/-- When the stream gives bytes, the call goes on with the longer buffer. -/
theorem receive_of_piece {connection : Connection σ} {piece : Bytes} (nonempty : piece ≠ [])
    (given : (Transport.read readRoom connection.stream).1 = .ok piece) :
    connection.receive =
      let later := readRequest
        ⟨(Transport.read readRoom connection.stream).2, connection.buffer ++ piece⟩
      { later with events := .read (.ok piece) :: later.events } := by
  obtain ⟨first, more, rfl⟩ := List.exists_cons_of_ne_nil nonempty
  rw [receive]
  revert given
  obtain ⟨outcome, stream⟩ := Transport.read readRoom connection.stream
  rintro rfl
  rfl

/-- A head that is buffered is not read again. -/
theorem gatherHead_of_some {connection : Connection σ} {parts : Bytes × Bytes}
    (found : splitHead connection.buffer = some parts) :
    connection.gatherHead = ⟨.ok parts, connection, []⟩ := by
  rw [gatherHead, found]

/-- Bytes that are buffered are not read again. -/
theorem gatherBytes_zero (stream : σ) : gatherBytes 0 stream = ⟨(.ok (), []), stream, []⟩ := by
  simp [gatherBytes]

/-- A whole request in the buffer is returned without a read. -/
theorem readRequest_of_ok {connection : Connection σ} {request : Request} {taken : Nat}
    (done : Request.read connection.buffer = .ok (request, taken)) :
    connection.readRequest =
      ⟨.ok request, { connection with buffer := connection.buffer.drop taken }, []⟩ := by
  have front := Request.front_read connection.buffer
  rw [done] at front
  cases front with
  | @whole headBytes rest head found readable arrived =>
    have drop : connection.buffer.drop (headBytes.length + terminatorBytes + head.contentLength) =
        rest.drop head.contentLength := by
      rw [(splitHead_eq_some_iff.mp found).1, ← List.drop_drop, List.drop_left' (by
        simp [headEnd, terminatorBytes])]
    simp [readRequest, completeRequest, gatherHead_of_some found, readable,
      Nat.sub_eq_zero_of_le arrived, gatherBytes_zero, drop]

/-- A refusal is returned without a read. -/
theorem readRequest_of_error {connection : Connection σ} {cause : ReadError}
    (refused : Request.read connection.buffer = .error cause) (complete : cause ≠ .incomplete) :
    connection.readRequest = ⟨.error (.badRequest cause), connection, []⟩ := by
  have front := Request.front_read connection.buffer
  rw [refused] at front
  cases front with
  | headless => contradiction
  | refused found unreadable =>
    simp [readRequest, completeRequest, gatherHead_of_some found, unreadable]
  | short => contradiction

/-- A head that is too long is refused without a read. -/
theorem readRequest_of_overlong {connection : Connection σ}
    (unfound : splitHead connection.buffer = none)
    (overlong : maxHeadBytes < connection.buffer.length) :
    connection.readRequest = ⟨.error (.badRequest .invalidHeader), connection, []⟩ := by
  have stopped : connection.gatherHead =
      ⟨.error (.badRequest .invalidHeader), connection, []⟩ := by
    rw [gatherHead, unfound]
    simp [overlong]
  simp [readRequest, completeRequest, stopped]

/-- What happened while the head was gathered comes first. -/
theorem completeRequest_cons (event : StreamEvent)
    (headed : Activity (Connection σ) (Except Failure (Bytes × Bytes))) :
    completeRequest { headed with events := event :: headed.events } =
      { completeRequest headed with events := event :: (completeRequest headed).events } := by
  obtain ⟨value, state, events⟩ := headed
  cases value with
  | error failure => rfl
  | ok parts =>
    simp only [completeRequest]
    cases RequestHead.read parts.1 with
    | error cause => rfl
    | ok head =>
      dsimp only
      obtain ⟨⟨outcome, arrived⟩, stream, later⟩ :=
        gatherBytes (head.contentLength - parts.2.length) state.stream
      cases outcome <;> rfl

/-- A call that waits for the end of a head reads once and goes on. -/
theorem readRequest_of_headless {connection : Connection σ}
    (unfound : splitHead connection.buffer = none)
    (bounded : connection.buffer.length ≤ maxHeadBytes) :
    connection.readRequest = connection.receive := by
  rw [readRequest, receive, gatherHead.eq_def, unfound]
  simp only [Nat.not_lt.mpr bounded, if_false]
  obtain ⟨outcome, stream⟩ := Transport.read readRoom connection.stream
  cases outcome with
  | error fault => rfl
  | ok bytes =>
    cases bytes with
    | nil => rfl
    | cons first more => exact completeRequest_cons _ _

/-- A call that waits for a body reads once and goes on. -/
theorem readRequest_of_short_body {connection : Connection σ} {headBytes rest : Bytes}
    {head : RequestHead} (found : splitHead connection.buffer = some (headBytes, rest))
    (readable : RequestHead.read headBytes = .ok head)
    (missing : rest.length < head.contentLength) :
    connection.readRequest = connection.receive := by
  have short : head.contentLength - rest.length ≠ 0 := by omega
  simp only [readRequest, completeRequest, gatherHead_of_some found, readable, receive]
  rw [gatherBytes, if_neg short]
  obtain ⟨outcome, stream⟩ := Transport.read readRoom connection.stream
  cases outcome with
  | error fault => simp
  | ok bytes =>
    cases bytes with
    | nil => simp
    | cons first more =>
      -- The head stands in the longer buffer too, and fewer bytes are missing there.
      have headed : gatherHead ⟨stream, connection.buffer ++ first :: more⟩ =
          ⟨.ok (headBytes, rest ++ first :: more), ⟨stream, connection.buffer ++ first :: more⟩,
            []⟩ :=
        gatherHead_of_some (splitHead_append found (first :: more))
      have left : head.contentLength - rest.length - (more.length + 1) =
          head.contentLength - (rest ++ first :: more).length := by
        simp only [List.length_append, List.length_cons]
        omega
      simp only [headed, readable, left]
      obtain ⟨⟨filled, arrived⟩, last, events⟩ :=
        gatherBytes (head.contentLength - (rest ++ first :: more).length) stream
      cases filled <;> simp

/-- A call that waits reads once and goes on. -/
theorem readRequest_of_waiting {connection : Connection σ} (waiting : Waiting connection.buffer) :
    connection.readRequest = connection.receive := by
  have front := Request.front_read connection.buffer
  rw [waiting.incomplete] at front
  cases front with
  | headless unfound => exact readRequest_of_headless unfound (waiting.bounded unfound)
  | refused found unreadable =>
    exact absurd unreadable (RequestHead.read_ne_incomplete _)
  | short found readable missing => exact readRequest_of_short_body found readable missing

end OriginServer.Connection
