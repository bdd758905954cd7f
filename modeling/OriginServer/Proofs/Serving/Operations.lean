import OriginServer.Transport.Connection

/-!
# The order of operations on a stream

Reading a request only reads (`isRead_of_mem_readRequest`). Sending a response is a row of writes,
each of which offers what the ones before it left over, and a flush once nothing is left over; the
row breaks off at the first operation that goes wrong. The relation `Sending` says this once, and
every fact about the order and the outcome of sending follows by induction on it.
-/
namespace OriginServer

namespace StreamEvent

/-- Whether an operation reads. -/
def isRead : StreamEvent → Bool
  | read _ => true
  | _ => false

/-- Whether an operation writes. -/
def isWrite : StreamEvent → Bool
  | write _ _ => true
  | _ => false

/-- Whether an operation flushes. -/
def isFlush : StreamEvent → Bool
  | flush _ => true
  | _ => false

/-- Whether an operation ends the stream. -/
def isShutdown : StreamEvent → Bool
  | shutdown _ => true
  | _ => false

/-- Whether a read, a write or a flush went wrong: it failed, or nothing of what a write offered
was accepted. -/
def isFaulty : StreamEvent → Bool
  | read (.error _) | write _ (.error _) | write _ (.ok 0) | flush (.error _) => true
  | _ => false

/-- A read is nothing else. -/
theorem kinds_of_isRead {event : StreamEvent} (reads : event.isRead = true) :
    event.isWrite = false ∧ event.isFlush = false ∧ event.isShutdown = false ∧
      event.accepted = [] := by
  cases event with
  | read outcome => exact ⟨rfl, rfl, rfl, rfl⟩
  | write offered outcome => simp [isRead] at reads
  | flush outcome => simp [isRead] at reads
  | shutdown outcome => simp [isRead] at reads

end StreamEvent

/-- The ways in which some bytes are sent: what happens on the stream, and the outcome. -/
inductive Sending : Bytes → List StreamEvent → Except Fault Unit → Prop where
  /-- When no bytes are left over the stream is flushed. -/
  | flushed (outcome : Except Fault Unit) : Sending [] [.flush outcome] outcome
  /-- A write that fails ends the sending. -/
  | failed {first : UInt8} {rest : Bytes} (fault : Fault) :
      Sending (first :: rest) [.write (first :: rest) (.error fault)] (.error fault)
  /-- A write of which nothing is accepted ends the sending. -/
  | stalled {first : UInt8} {rest : Bytes} :
      Sending (first :: rest) [.write (first :: rest) (.ok 0)] (.error .writeRefused)
  /-- A write of which some is accepted is followed by the sending of what is left over. -/
  | accepted {first : UInt8} {rest : Bytes} {count : Nat} {later : List StreamEvent}
      {outcome : Except Fault Unit} (more : Sending (rest.drop count) later outcome) :
      Sending (first :: rest) (.write (first :: rest) (.ok (count + 1)) :: later) outcome

namespace Sending

variable {pending : Bytes} {events : List StreamEvent} {outcome : Except Fault Unit}

/-- Sending writes and flushes. -/
theorem kinds (sending : Sending pending events outcome) :
    ∀ event ∈ events, event.isRead = false ∧ event.isShutdown = false := by
  induction sending with
  | flushed outcome => simp [StreamEvent.isRead, StreamEvent.isShutdown]
  | failed fault => simp [StreamEvent.isRead, StreamEvent.isShutdown]
  | stalled => simp [StreamEvent.isRead, StreamEvent.isShutdown]
  | accepted more ih => exact List.forall_mem_cons.mpr ⟨⟨rfl, rfl⟩, ih⟩

/-- Nothing follows an operation that went wrong. -/
theorem sound_before (sending : Sending pending events outcome) :
    events.Pairwise fun earlier _ => earlier.isFaulty = false := by
  induction sending with
  | flushed outcome => exact List.pairwise_singleton _ _
  | failed fault => exact List.pairwise_singleton _ _
  | stalled => exact List.pairwise_singleton _ _
  | accepted more ih => exact List.pairwise_cons.mpr ⟨fun _ _ => rfl, ih⟩

/-- The stream is flushed at most once. -/
theorem flushes_le_one (sending : Sending pending events outcome) :
    (events.filter StreamEvent.isFlush).length ≤ 1 := by
  induction sending with
  | flushed outcome => exact Nat.le_refl 1
  | failed fault => exact Nat.zero_le 1
  | stalled => exact Nat.zero_le 1
  | accepted more ih => exact ih

/-- Sending succeeds exactly if it comes to a flush that succeeds. -/
theorem ok_iff_flushed (sending : Sending pending events outcome) :
    outcome = .ok () ↔ .flush (.ok ()) ∈ events := by
  induction sending with
  | flushed outcome => simp [eq_comm]
  | failed fault => simp
  | stalled => simp
  | accepted more ih => simp [ih]

/-- Sending succeeds exactly if no operation goes wrong. -/
theorem ok_iff_sound (sending : Sending pending events outcome) :
    outcome = .ok () ↔ ∀ event ∈ events, event.isFaulty = false := by
  induction sending with
  | flushed outcome => cases outcome <;> simp [StreamEvent.isFaulty]
  | failed fault => simp [StreamEvent.isFaulty]
  | stalled => simp [StreamEvent.isFaulty]
  | accepted more ih => simp [ih, StreamEvent.isFaulty]

/-- Bytes that are to be sent are offered, all of them at first. -/
theorem offered (sending : Sending pending events outcome) (nonempty : pending ≠ []) :
    ∃ result later, events = .write pending result :: later := by
  cases sending with
  | flushed outcome => contradiction
  | failed fault => exact ⟨_, _, rfl⟩
  | stalled => exact ⟨_, _, rfl⟩
  | accepted more => exact ⟨_, _, rfl⟩

/-- When nothing is to be sent the stream is flushed, and that is all. -/
theorem events_of_nil (sending : Sending [] events outcome) : events = [.flush outcome] := by
  cases sending with
  | flushed outcome => rfl

/-- A sending is at most one operation longer than the bytes that are sent. -/
theorem length_le (sending : Sending pending events outcome) :
    events.length ≤ pending.length + 1 := by
  induction sending with
  | flushed outcome => exact Nat.le_refl 1
  | failed fault => simp
  | stalled => simp
  | @accepted first rest count later outcome more ih =>
    rw [List.length_drop] at ih
    simp only [List.length_cons]
    omega

end Sending

variable {σ : Type} [Transport σ]

namespace Writer

/-- A draining that breaks off is a sending that fails. -/
theorem sending_of_drain_error {pending : Bytes} {stream : σ} {fault : Fault}
    (broken : (drain pending stream).value.1 = .error fault) :
    Sending pending (drain pending stream).events (.error fault) := by
  fun_induction drain pending stream with
  | case1 stream => simp at broken
  | case2 stream first rest other next given =>
    obtain rfl := Except.error.inj broken
    exact .failed other
  | case3 stream first rest next given =>
    obtain rfl := Except.error.inj broken
    exact .stalled
  | case4 stream first rest accepted next given later ih => exact .accepted (ih broken)

/-- A draining that succeeds is a sending up to its flush. -/
theorem sending_of_drain_ok {pending : Bytes} {stream : σ}
    (drained : (drain pending stream).value.1 = .ok ()) (outcome : Except Fault Unit) :
    Sending pending ((drain pending stream).events ++ [.flush outcome]) outcome := by
  -- The flush stands where the draining finds nothing left over, at the end of the induction.
  fun_induction drain pending stream with
  | case1 stream => exact .flushed outcome
  | case2 stream first rest fault next given => simp at drained
  | case3 stream first rest next given => simp at drained
  | case4 stream first rest accepted next given later ih => exact .accepted (ih drained)

/-- A run of a writer sends what the writer holds. -/
theorem sending_run (writer : Writer) (stream : σ) :
    Sending writer.pending (writer.run stream).events (writer.run stream).value.1 := by
  rw [run]
  cases outcome : (drain writer.pending stream).value with
  | mk result left =>
    cases result with
    | error fault =>
      exact sending_of_drain_error (by rw [outcome])
    | ok value =>
      exact sending_of_drain_ok (by rw [outcome]) _

end Writer

namespace Connection

/-- Sending commits a response and leaves it as it is. -/
theorem value_send (connection : Connection σ) (response : Response) :
    (connection.send (.ofResponse response)).value =
      ((connection.send (.ofResponse response)).value.1, ⟨response, true⟩) := rfl

/-- Sending a response sends its bytes. -/
theorem sending_send (connection : Connection σ) (response : Response) :
    Sending response.wire (connection.send (.ofResponse response)).events
      (connection.send (.ofResponse response)).value.1 :=
  Writer.sending_run (.ofResponse response) connection.stream

/-- Gathering a head only reads. -/
theorem isRead_of_mem_gatherHead (connection : Connection σ) :
    ∀ event ∈ connection.gatherHead.events, event.isRead = true := by
  fun_induction gatherHead connection with
  | case1 connection parts found => simp
  | case2 connection unfound long => simp
  | case3 connection unfound short fault stream given => simp [StreamEvent.isRead]
  | case4 connection unfound short stream given => simp [StreamEvent.isRead]
  | case5 connection unfound short first more stream given later ih =>
    exact List.forall_mem_cons.mpr ⟨rfl, ih⟩

/-- Gathering a body only reads. -/
theorem isRead_of_mem_gatherBytes (missing : Nat) (stream : σ) :
    ∀ event ∈ (gatherBytes missing stream).events, event.isRead = true := by
  fun_induction gatherBytes missing stream with
  | case1 stream => simp
  | case2 missing stream more fault next given => simp [StreamEvent.isRead]
  | case3 missing stream more next given => simp [StreamEvent.isRead]
  | case4 missing stream more first rest next given later ih =>
    exact List.forall_mem_cons.mpr ⟨rfl, ih⟩

/-- Reading a request only reads. -/
theorem isRead_of_mem_readRequest (connection : Connection σ) :
    ∀ event ∈ connection.readRequest.events, event.isRead = true := by
  have head := isRead_of_mem_gatherHead connection
  rw [readRequest, completeRequest]
  cases connection.gatherHead.value with
  | error failure => exact head
  | ok parts =>
    cases readable : RequestHead.read parts.1 with
    | error cause => simpa [readable] using head
    | ok declared =>
      have body := isRead_of_mem_gatherBytes (declared.contentLength - parts.2.length)
        connection.gatherHead.state.stream
      have both := List.forall_mem_append.mpr ⟨head, body⟩
      simp only [readable]
      split
      · exact both
      · exact both

end Connection

end OriginServer
