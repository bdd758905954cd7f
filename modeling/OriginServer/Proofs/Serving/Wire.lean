import OriginServer.Proofs.Serving.Operations
import OriginServer.Transport.Script

/-!
# What reaches the peer

However a stream cuts the bytes that are offered to it, those it accepted and those left over are
what was to be sent (`wire_drain`). So the peer sees the beginning of a response, and all of it when
the sending succeeded (`wire_send_prefix`, `wire_send_of_ok`). Reading sends nothing.
-/
namespace OriginServer

namespace StreamEvent

/-- What was accepted in an event stands before what was accepted later. -/
@[simp]
theorem wire_cons (event : StreamEvent) (rest : List StreamEvent) :
    wire (event :: rest) = event.accepted ++ wire rest := rfl

/-- The bytes of two stretches of events follow each other. -/
@[simp]
theorem wire_append (earlier later : List StreamEvent) :
    wire (earlier ++ later) = wire earlier ++ wire later :=
  List.flatMap_append

/-- Without events nothing is accepted. -/
@[simp]
theorem wire_nil : wire [] = [] := rfl

/-- Nothing is accepted in reads. -/
theorem wire_of_reads {events : List StreamEvent} (reads : ∀ event ∈ events, event.isRead = true) :
    wire events = [] :=
  List.flatMap_eq_nil_iff.mpr fun event inside => (kinds_of_isRead (reads event inside)).2.2.2

/-- What was accepted of a write and what is left over are together what was offered. -/
theorem accepted_append_drop (first : UInt8) (rest : Bytes) (count : Nat) :
    (write (first :: rest) (.ok (count + 1))).accepted ++ rest.drop count = first :: rest :=
  List.take_append_drop (count + 1) (first :: rest)

end StreamEvent

/-- When no write goes wrong everything that is sent is accepted, whatever the flush does. -/
theorem Sending.wire_of_accepting {pending : Bytes} {events : List StreamEvent}
    {outcome : Except Fault Unit} (sending : Sending pending events outcome)
    (accepting : ∀ event ∈ events, event.isWrite = true → event.isFaulty = false) :
    StreamEvent.wire events = pending := by
  induction sending with
  | flushed outcome => rfl
  | failed fault => cases accepting _ List.mem_cons_self rfl
  | stalled => cases accepting _ List.mem_cons_self rfl
  | @accepted first rest count later outcome more ih =>
    have others := ih fun event inside => accepting event (List.mem_cons_of_mem _ inside)
    rw [StreamEvent.wire_cons, others, StreamEvent.accepted_append_drop]

variable {σ : Type} [Transport σ]

namespace Writer

/-- What was accepted and what is left over are together what was to be sent. -/
theorem wire_drain (pending : Bytes) (stream : σ) :
    StreamEvent.wire (drain pending stream).events ++ (drain pending stream).value.2 = pending := by
  fun_induction drain pending stream with
  | case1 stream => rfl
  | case2 stream first rest fault next given => rfl
  | case3 stream first rest next given => rfl
  | case4 stream first rest accepted next given later ih =>
    rw [StreamEvent.wire_cons, List.append_assoc, ih, StreamEvent.accepted_append_drop]

/-- When the draining succeeds nothing is left over. -/
theorem drain_of_ok {pending : Bytes} {stream : σ}
    (delivered : (drain pending stream).value.1 = .ok ()) :
    (drain pending stream).value.2 = [] := by
  fun_induction drain pending stream with
  | case1 stream => rfl
  | case2 stream first rest fault next given => simp at delivered
  | case3 stream first rest next given => simp at delivered
  | case4 stream first rest accepted next given later ih => exact ih delivered

/-- What was accepted in a run and what the writer holds after it are together what it held. -/
theorem wire_run (writer : Writer) (stream : σ) :
    StreamEvent.wire (writer.run stream).events ++ (writer.run stream).value.2.pending =
      writer.pending := by
  have drained := wire_drain writer.pending stream
  rw [run]
  cases outcome : (drain writer.pending stream).value with
  | mk result left =>
    rw [outcome] at drained
    cases result with
    | error fault => simpa [outcome] using drained
    | ok value => simpa [outcome, StreamEvent.accepted] using drained

/-- When a run succeeds the writer holds nothing afterwards. -/
theorem pending_run_of_ok {writer : Writer} {stream : σ}
    (delivered : (writer.run stream).value.1 = .ok ()) :
    (writer.run stream).value.2.pending = [] := by
  rw [run] at delivered ⊢
  cases outcome : (drain writer.pending stream).value with
  | mk result left =>
    cases result with
    | error fault => simp [outcome] at delivered
    | ok value =>
      have empty : (drain writer.pending stream).value.2 = [] := by
        refine drain_of_ok ?_
        simp [outcome]
      simpa [outcome] using empty

end Writer

namespace Connection

/-- The peer sees at most the beginning of a response that is sent. -/
theorem wire_send_prefix (connection : Connection σ) (response : Response) :
    StreamEvent.wire (connection.send (.ofResponse response)).events <+: response.wire :=
  ⟨_, Writer.wire_run (.ofResponse response) connection.stream⟩

/-- The peer sees a whole response when it was sent successfully. -/
theorem wire_send_of_ok {connection : Connection σ} {response : Response}
    (delivered : (connection.send (.ofResponse response)).value.1 = .ok ()) :
    StreamEvent.wire (connection.send (.ofResponse response)).events = response.wire := by
  have whole := Writer.wire_run (.ofResponse response) connection.stream
  have empty : ((Writer.ofResponse response).run connection.stream).value.2.pending = [] :=
    Writer.pending_run_of_ok delivered
  rw [empty, List.append_nil] at whole
  exact whole

/-- Reading a request sends nothing. -/
theorem wire_readRequest (connection : Connection σ) :
    StreamEvent.wire connection.readRequest.events = [] :=
  StreamEvent.wire_of_reads connection.isRead_of_mem_readRequest

end Connection

namespace Script

/-- A script without planned writes accepts everything and stays as it is. -/
theorem drain_of_willing {script : Script} (willing : script.writes = []) (pending : Bytes) :
    ∃ events, Writer.drain pending script = ⟨(.ok (), []), script, events⟩ := by
  cases pending with
  | nil => exact ⟨[], by rw [Writer.drain]⟩
  | cons first rest =>
    have accepted : Transport.write (first :: rest) script = (.ok (rest.length + 1), script) := by
      simp [Transport.write, write, willing]
    refine ⟨[.write (first :: rest) (.ok (rest.length + 1))], ?_⟩
    rw [Writer.drain, accepted]
    simp [Writer.drain]

/-- A response is sent successfully to a script without planned writes and flushes. -/
theorem send_of_willing {connection : Connection Script}
    (willing : connection.stream.writes = [] ∧ connection.stream.flushes = [])
    (response : Response) : (connection.send (.ofResponse response)).value.1 = .ok () := by
  obtain ⟨events, drained⟩ := drain_of_willing willing.1 response.wire
  have pushed : Transport.flush connection.stream = (.ok (), connection.stream) := by
    simp [Transport.flush, flush, willing.2]
  simp [Connection.send, Outgoing.ofResponse, Writer.run, Writer.ofResponse, drained, pushed]

end Script

end OriginServer
