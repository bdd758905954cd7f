import OriginServer.Proofs.Message.Length
import OriginServer.Proofs.Reading.Delivery

/-!
# How much a connection holds

Nothing in a call of `Connection.readRequest` looks at the size of the whole buffer. Still the
buffer is bounded against every peer, also against one that sends without end: a head that does not
end is given up at the limit, a head that ends declares a body of bounded length, and behind a
whole request stands less than one read. `Bounded` says this of a buffer, every turn of a call keeps
it, and so it holds in all states that a connection can reach (`Reachable.bounded`). Since each turn
makes the buffer longer, every call comes to an end (`readRequest_bounded`).
-/
namespace OriginServer

namespace RequestHead

/-- A length that is read is one that is accepted. -/
theorem bodyLength_le {headers : Headers} {length : Nat}
    (declared : bodyLength headers = .ok length) : length ≤ maxBodyBytes := by
  rw [bodyLength] at declared
  split at declared
  · rw [← Except.ok.inj declared]
    exact Nat.zero_le maxBodyBytes
  · exact (readLength_eq_ok_iff.mp declared).2

/-- A head that is read declares a body that is accepted. -/
theorem contentLength_le {bytes : Bytes} {head : RequestHead} (readable : read bytes = .ok head) :
    head.contentLength ≤ maxBodyBytes := by
  rw [read] at readable
  cases decoded : Utf8.decode? bytes with
  | none =>
    rw [decoded] at readable
    cases readable
  | some text =>
    simp only [decoded, bind, Except.bind, pure, Except.pure] at readable
    split at readable
    · cases readable
    · split at readable
      · cases readable
      · split at readable
        · cases readable
        · rename_i length declared
          rw [← Except.ok.inj readable]
          exact bodyLength_le declared

end RequestHead

/-- The bytes that a read gives. -/
def StreamEvent.received : StreamEvent → Bytes
  | read (.ok bytes) => bytes
  | _ => []

namespace Connection

/-- A connection never holds more bytes than this: a head that ends one read above the limit, the
largest body without its last byte, and one read behind them. -/
def bufferLimit : Nat := maxHeadBytes + maxBodyBytes + 2 * readRoom - 1

/-- A buffer of bounded size: it is settled, and if it is refused its head has just ended. -/
structure Bounded (buffer : Bytes) : Prop extends Settled buffer where
  /-- Bytes that are refused are at most one read above the limit. -/
  refused : ∀ {cause}, Request.read buffer = .error cause → cause ≠ .incomplete →
    buffer.length ≤ maxHeadBytes + readRoom

/-- Less than one read is bounded. -/
theorem bounded_of_short {buffer : Bytes} (short : buffer.length < readRoom) : Bounded buffer where
  toSettled := settled_of_short short
  refused _ _ := by omega

/-- A bounded buffer is within the limit. -/
theorem Bounded.length_le {buffer : Bytes} (bounded : Bounded buffer) :
    buffer.length ≤ bufferLimit := by
  have limit : bufferLimit + 1 = maxHeadBytes + maxBodyBytes + 2 * readRoom := rfl
  have room : 0 < readRoom := by decide
  have front := Request.front_read buffer
  generalize verdict : Request.read buffer = outcome at front
  cases front with
  | headless unfound =>
    have small := bounded.headless unfound
    omega
  | @refused headBytes rest cause found unreadable =>
    have complete : cause ≠ .incomplete := by
      rintro rfl
      exact RequestHead.read_ne_incomplete headBytes unreadable
    have small := bounded.refused verdict complete
    omega
  | short found readable missing =>
    have whole := length_of_splitHead found
    have near := bounded.headed found
    have body := RequestHead.contentLength_le readable
    omega
  | whole found readable arrived =>
    have tight := bounded.tight verdict
    have near := bounded.headed found
    have body := RequestHead.contentLength_le readable
    omega

/-- One more read keeps a waiting buffer bounded. -/
theorem Bounded.append {buffer piece : Bytes} (bounded : Bounded buffer) (waiting : Waiting buffer)
    (short : piece.length ≤ readRoom) : Bounded (buffer ++ piece) where
  toSettled := bounded.toSettled.append waiting short
  refused {cause} refused complete := by
    cases before : splitHead buffer with
    | none =>
      have small := waiting.bounded before
      rw [List.length_append]
      omega
    | some parts =>
      -- A head that had ended already would have been refused before the read.
      have front := Request.front_read (buffer ++ piece)
      rw [refused] at front
      cases front with
      | headless => contradiction
      | refused found unreadable =>
        rw [splitHead_append before piece] at found
        obtain ⟨rfl, -⟩ := Prod.mk.inj (Option.some.inj found)
        have early := Request.read_of_unreadable before unreadable
        rw [waiting.incomplete] at early
        exact absurd (Except.error.inj early).symm complete
      | short => contradiction

/-- What is left behind a request is bounded. -/
theorem Bounded.drop {buffer : Bytes} {request : Request} {taken : Nat} (bounded : Bounded buffer)
    (done : Request.read buffer = .ok (request, taken)) : Bounded (buffer.drop taken) :=
  bounded_of_short (bounded.toSettled.length_drop_lt done)

variable {σ : Type} [Transport σ]

/-- Turns of a call that go on, with the pieces that they read: the buffer waits, a read gives some
bytes, and these are put behind the buffer. -/
inductive Turns : Connection σ → List Bytes → Connection σ → Prop where
  /-- No turn is made. -/
  | none {connection : Connection σ} : Turns connection [] connection
  /-- One turn comes before others. -/
  | more {connection last : Connection σ} {piece : Bytes} {later : List Bytes}
      (waiting : Waiting connection.buffer) (nonempty : piece ≠ [])
      (given : (Transport.read readRoom connection.stream).1 = .ok piece)
      (rest : Turns ⟨(Transport.read readRoom connection.stream).2, connection.buffer ++ piece⟩
        later last) :
      Turns connection (piece :: later) last

/-- The ways in which a turn ends its call. -/
inductive Stops (connection : Connection σ) :
    Activity (Connection σ) (Except Failure Request) → Prop where
  /-- The request at the front of the buffer is returned. -/
  | returned {request : Request} {taken : Nat}
      (done : Request.read connection.buffer = .ok (request, taken)) :
      Stops connection
        ⟨.ok request, { connection with buffer := connection.buffer.drop taken }, []⟩
  /-- The buffer is refused. -/
  | refused {cause : ReadError} (refused : Request.read connection.buffer = .error cause)
      (complete : cause ≠ .incomplete) :
      Stops connection ⟨.error (.badRequest cause), connection, []⟩
  /-- The buffer is too long for a head that does not end. -/
  | overlong (unfound : splitHead connection.buffer = none)
      (overlong : maxHeadBytes < connection.buffer.length) :
      Stops connection ⟨.error (.badRequest .invalidHeader), connection, []⟩
  /-- The stream has ended. -/
  | ended (waiting : Waiting connection.buffer)
      (given : (Transport.read readRoom connection.stream).1 = .ok []) :
      Stops connection ⟨.error (.transport .hangUp),
        { connection with stream := (Transport.read readRoom connection.stream).2 },
        [.read (.ok [])]⟩
  /-- The stream fails. -/
  | faulted {fault : Fault} (waiting : Waiting connection.buffer)
      (given : (Transport.read readRoom connection.stream).1 = .error fault) :
      Stops connection ⟨.error (.transport fault),
        { connection with stream := (Transport.read readRoom connection.stream).2 },
        [.read (.error fault)]⟩

/-- The states of a connection on a stream: before the first call, in the middle of a call, and
after any number of calls, whatever else the stream is used for between them. -/
inductive Reachable (stream : σ) : Connection σ → Prop where
  /-- Nothing was read. -/
  | fresh : Reachable stream (ofStream stream)
  /-- The stream was used for something else, such as a response. -/
  | used {connection : Connection σ} (reachable : Reachable stream connection) (later : σ) :
      Reachable stream { connection with stream := later }
  /-- A call has made some turns. -/
  | turned {connection next : Connection σ} {pieces : List Bytes}
      (reachable : Reachable stream connection) (turns : Turns connection pieces next) :
      Reachable stream next
  /-- A call was made. -/
  | called {connection : Connection σ} (reachable : Reachable stream connection) :
      Reachable stream connection.readRequest.state

variable {connection next : Connection σ} {pieces : List Bytes}
variable {ending : Activity (Connection σ) (Except Failure Request)}

/-- Turns put the pieces behind the buffer, in order. -/
theorem Turns.buffer_eq (turns : Turns connection pieces next) :
    next.buffer = connection.buffer ++ pieces.flatten := by
  induction turns with
  | none => simp
  | more waiting nonempty given rest ih =>
    rw [ih, List.flatten_cons, List.append_assoc]

/-- Every turn reads a byte at least. -/
theorem Turns.length_le (turns : Turns connection pieces next) :
    pieces.length ≤ pieces.flatten.length := by
  induction turns with
  | none => exact Nat.le_refl 0
  | @more _ _ piece later waiting nonempty given rest ih =>
    have some := List.length_pos_iff.mpr nonempty
    rw [List.length_cons, List.flatten_cons, List.length_append]
    omega

/-- Turns keep the buffer bounded. -/
theorem Turns.bounded [Transport.Lawful σ] (turns : Turns connection pieces next)
    (bounded : Bounded connection.buffer) : Bounded next.buffer := by
  induction turns with
  | none => exact bounded
  | more waiting nonempty given rest ih =>
    have short := Transport.Lawful.read_length_le given
    exact ih (bounded.append waiting short)

/-- The end of a call keeps the buffer bounded. -/
theorem Stops.bounded (stops : Stops connection ending) (bounded : Bounded connection.buffer) :
    Bounded ending.state.buffer := by
  cases stops with
  | returned done => exact bounded.drop done
  | refused refused complete => exact bounded
  | overlong unfound overlong => exact bounded
  | ended waiting given => exact bounded
  | faulted waiting given => exact bounded

/-- The turn that ends a call reads at most once, and receives nothing. -/
theorem Stops.events (stops : Stops connection ending) :
    ending.events.length ≤ 1 ∧ ending.events.flatMap StreamEvent.received = [] := by
  cases stops with
  | returned done => exact ⟨Nat.zero_le 1, rfl⟩
  | refused refused complete => exact ⟨Nat.zero_le 1, rfl⟩
  | overlong unfound overlong => exact ⟨Nat.zero_le 1, rfl⟩
  | ended waiting given => exact ⟨Nat.le_refl 1, rfl⟩
  | faulted waiting given => exact ⟨Nat.le_refl 1, rfl⟩

/-- A turn ends its call, or the buffer waits and a read gives some bytes. -/
theorem stops_or_given (connection : Connection σ) :
    Stops connection connection.readRequest ∨ Waiting connection.buffer ∧
      ∃ piece ≠ [], (Transport.read readRoom connection.stream).1 = .ok piece := by
  obtain ⟨request, taken, done⟩ | ⟨cause, refused, complete⟩ | ⟨unfound, overlong⟩ | waiting :=
    turn_cases connection.buffer
  · left
    rw [readRequest_of_ok done]
    exact .returned done
  · left
    rw [readRequest_of_error refused complete]
    exact .refused refused complete
  · left
    rw [readRequest_of_overlong unfound overlong]
    exact .overlong unfound overlong
  · cases given : (Transport.read readRoom connection.stream).1 with
    | error fault =>
      left
      rw [readRequest_of_waiting waiting, receive_of_error given]
      exact .faulted waiting given
    | ok piece =>
      by_cases empty : piece = []
      · subst empty
        left
        rw [readRequest_of_waiting waiting, receive_of_nil given]
        exact .ended waiting given
      · right
        exact ⟨waiting, piece, empty, rfl⟩

/-- A call with a bounded buffer makes some turns and stops. -/
theorem exists_turns [Transport.Lawful σ] (bounded : Bounded connection.buffer) :
    ∃ pieces last ending, Turns connection pieces last ∧ Stops last ending ∧
      connection.readRequest =
        { ending with events := pieces.map (fun piece => .read (.ok piece)) ++ ending.events } := by
  -- Each turn makes the buffer longer, and the limit stays.
  induction room : bufferLimit - connection.buffer.length using Nat.strongRecOn
    generalizing connection with
  | _ room ih =>
    rcases stops_or_given connection with stops | ⟨waiting, piece, nonempty, given⟩
    · exact ⟨[], connection, _, .none, stops, rfl⟩
    · let turned : Connection σ :=
        ⟨(Transport.read readRoom connection.stream).2, connection.buffer ++ piece⟩
      have later : Bounded turned.buffer :=
        bounded.append waiting (Transport.Lawful.read_length_le given)
      have longer : connection.buffer.length < turned.buffer.length := by
        have some := List.length_pos_iff.mpr nonempty
        rw [List.length_append]
        omega
      have limit := later.length_le
      obtain ⟨pieces, last, ending, turns, stops, call⟩ := ih
        (bufferLimit - turned.buffer.length) (by omega) later rfl
      refine ⟨piece :: pieces, last, ending, .more waiting nonempty given turns, stops, ?_⟩
      rw [readRequest_of_waiting waiting, receive_of_piece nonempty given, call]
      rfl

/-- The buffer is bounded in every state that a connection can reach. -/
theorem Reachable.bounded [Transport.Lawful σ] {stream : σ}
    (reachable : Reachable stream connection) : Bounded connection.buffer := by
  induction reachable with
  | fresh => exact bounded_of_short (by decide : 0 < readRoom)
  | used reachable later ih => exact ih
  | turned reachable turns ih => exact turns.bounded ih
  | called reachable ih =>
    obtain ⟨pieces, last, ending, turns, stops, call⟩ := exists_turns ih
    rw [call]
    exact stops.bounded (turns.bounded ih)

/-- **Buffering is bounded against every peer, and every call returns.** Whatever a stream gives,
without end perhaps, and however many calls are made: before, between and in the middle of the calls
a connection holds at most `bufferLimit` bytes. From there a call makes no more turns than that, so
it comes to a turn that stops it; it is what these turns and the stop make of the connection, and
what it reads is within the limit together with what was buffered, in at most one more read than
that. -/
theorem readRequest_bounded [Transport.Lawful σ] {stream : σ}
    (reachable : Reachable stream connection) :
    connection.buffer.length ≤ bufferLimit ∧
      (∀ pieces next, Turns connection pieces next → pieces.length ≤ bufferLimit) ∧
      (∃ pieces last ending, Turns connection pieces last ∧ Stops last ending ∧
        connection.readRequest = { ending with
          events := pieces.map (fun piece => .read (.ok piece)) ++ ending.events }) ∧
      connection.buffer.length +
        (connection.readRequest.events.flatMap StreamEvent.received).length ≤ bufferLimit ∧
      connection.readRequest.events.length ≤ bufferLimit + 1 := by
  have bounded := reachable.bounded
  have turnsBounded : ∀ pieces next, Turns connection pieces next →
      connection.buffer.length + pieces.flatten.length ≤ bufferLimit := by
    intro pieces next turns
    have limit := (turns.bounded bounded).length_le
    rwa [turns.buffer_eq, List.length_append] at limit
  obtain ⟨pieces, last, ending, turns, stops, call⟩ := exists_turns bounded
  obtain ⟨single, silent⟩ := stops.events
  have bytes : connection.readRequest.events.flatMap StreamEvent.received = pieces.flatten := by
    rw [call, List.flatMap_append, silent, List.append_nil, List.flatMap_map]
    exact List.flatMap_id'
  have events : connection.readRequest.events.length = pieces.length + ending.events.length := by
    rw [call, List.length_append, List.length_map]
  have within := turnsBounded pieces last turns
  have some := turns.length_le
  refine ⟨bounded.length_le, ?_, ⟨pieces, last, ending, turns, stops, call⟩, ?_, ?_⟩
  · intro others next otherTurns
    have otherWithin := turnsBounded others next otherTurns
    have otherSome := otherTurns.length_le
    omega
  · rw [bytes]
    exact within
  · rw [events]
    omega

/-- A peer that fills every read with blanks, without end. -/
inductive EndlessPeer where
  /-- The only state. -/
  | sending

instance : Transport EndlessPeer where
  read room peer := (.ok (List.replicate room 32), peer)
  write bytes peer := (.ok bytes.length, peer)
  flush peer := (.ok (), peer)
  shutdown peer := (.ok (), peer)

instance : Transport.Lawful EndlessPeer where
  read_length_le given := by
    obtain rfl := Except.ok.inj given
    exact Nat.le_of_eq List.length_replicate
  write_le_length given := by
    obtain rfl := Except.ok.inj given
    exact Nat.le_refl _

/-- A second call on the blanks that do not end returns as well, and no more is held after it. -/
theorem readRequest_bounded_endless :
    let connection := (ofStream EndlessPeer.sending).readRequest.state
    Reachable .sending connection ∧ connection.buffer.length ≤ bufferLimit ∧
      (connection.readRequest.events.flatMap StreamEvent.received).length ≤ bufferLimit ∧
      connection.readRequest.state.buffer.length ≤ bufferLimit := by
  intro connection
  have reachable : Reachable .sending connection := .called .fresh
  obtain ⟨held, -, -, received, -⟩ := readRequest_bounded reachable
  obtain ⟨heldAfter, -⟩ := readRequest_bounded (.called reachable)
  exact ⟨reachable, held, by omega, heldAfter⟩

end Connection

end OriginServer
