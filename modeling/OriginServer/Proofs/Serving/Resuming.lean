import Mathlib.Control.Monad.Basic
import OriginServer.Proofs.Serving.Wire

/-!
# Writing goes on where it broke off

A run of a writer may break off at any byte: the peer accepts a part of what it is offered, or none
of it, or the stream fails. A sending offers in each write what the peer has not accepted yet
(`Sending.rest_of_write`), so what was accepted in all runs together and what the writer holds after
them are the bytes of the response (`Writer.wire_runs`), and the next run goes on with the first
byte that is missing (`Writer.run_resumes`).
-/
namespace OriginServer

namespace Sending

variable {pending : Bytes} {events : List StreamEvent} {outcome : Except Fault Unit}

/-- Each write offers what was not accepted before it, and something at least. -/
theorem rest_of_write (sending : Sending pending events outcome)
    {before after : List StreamEvent} {offered : Bytes} {result : Except Fault Nat}
    (here : events = before ++ .write offered result :: after) :
    StreamEvent.wire before ++ offered = pending ∧ offered ≠ [] := by
  -- What stands before the write are writes of which some was accepted.
  induction before generalizing pending events with
  | nil =>
    by_cases empty : pending = []
    · subst empty
      rw [sending.events_of_nil] at here
      simp at here
    · obtain ⟨own, later, begun⟩ := sending.offered empty
      rw [begun] at here
      obtain ⟨rfl, -⟩ := StreamEvent.write.inj (List.cons.inj here).1
      exact ⟨rfl, empty⟩
  | cons earlier before ih =>
    cases sending with
    | flushed outcome => simp at here
    | failed fault => simp at here
    | stalled => simp at here
    | @accepted first rest count later outcome more =>
      obtain ⟨rfl, others⟩ := List.cons.inj here
      obtain ⟨left, nonempty⟩ := ih more others
      refine ⟨?_, nonempty⟩
      rw [StreamEvent.wire_cons, List.append_assoc, left, StreamEvent.accepted_append_drop]

end Sending

namespace Writer

variable {σ : Type} [Transport σ]

/-- Some runs of a writer one after the other, whatever becomes of each: the writer after them, and
all that happened on the stream. -/
def runs : Nat → Writer → σ → Activity σ Writer
  | 0, writer, stream => ⟨writer, stream, []⟩
  | calls + 1, writer, stream =>
    let call := writer.run stream
    let later := runs calls call.value.2 call.state
    { later with events := call.events ++ later.events }

/-- What was accepted in some runs and what the writer holds after them are together what it
held. -/
theorem wire_runs (calls : Nat) (writer : Writer) (stream : σ) :
    StreamEvent.wire (runs calls writer stream).events ++
      (runs calls writer stream).value.pending = writer.pending := by
  induction calls generalizing writer stream with
  | zero => rfl
  | succ calls ih =>
    have call := wire_run writer stream
    have later := ih (writer.run stream).value.2 (writer.run stream).state
    rw [runs, StreamEvent.wire_append, List.append_assoc, later, call]

/-- A run succeeds exactly if the peer has then accepted all that the writer held and the flush
succeeds. -/
theorem run_eq_ok_iff (writer : Writer) (stream : σ) :
    (writer.run stream).value.1 = .ok () ↔
      StreamEvent.wire (writer.run stream).events = writer.pending ∧
        .flush (.ok ()) ∈ (writer.run stream).events := by
  have sending := sending_run writer stream
  rw [sending.ok_iff_flushed]
  refine ⟨fun flushed => ⟨?_, flushed⟩, And.right⟩
  have whole := wire_run writer stream
  have empty : (writer.run stream).value.2.pending = [] :=
    pending_run_of_ok (sending.ok_iff_flushed.mpr flushed)
  rwa [empty, List.append_nil] at whole

/-- **Writing a response can be taken up again after every fault.** Let a writer of a response have
made some runs on a stream, which may have failed anywhere. What the peer accepted so far and what
the writer still holds are then the bytes of the response. In the next run every write offers
exactly what the peer has not accepted before it. The run succeeds if and only if after it the peer
has accepted all bytes, each of them once, and the flush of this run succeeds. It begins with a
write as long as a byte is missing; after the last byte it flushes and does nothing else. It ends
after one operation more than bytes are missing, at the latest. -/
theorem run_resumes (response : Response) (stream : σ) (calls : Nat) :
    let earlier := runs calls (ofResponse response) stream
    let missing := earlier.value.pending
    let accepted := StreamEvent.wire earlier.events
    let call := earlier.value.run earlier.state
    accepted ++ missing = response.wire ∧
      (∀ before offered result after, call.events = before ++ .write offered result :: after →
        accepted ++ StreamEvent.wire before ++ offered = response.wire ∧ offered ≠ []) ∧
      (call.value.1 = .ok () ↔
        accepted ++ StreamEvent.wire call.events = response.wire ∧
          .flush (.ok ()) ∈ call.events) ∧
      (accepted ≠ response.wire → ∃ result later, call.events = .write missing result :: later) ∧
      (accepted = response.wire → call.events = [.flush call.value.1]) ∧
      call.events.length ≤ missing.length + 1 := by
  intro earlier missing accepted call
  have whole : accepted ++ missing = response.wire := wire_runs calls (ofResponse response) stream
  have sending : Sending missing call.events call.value.1 :=
    sending_run earlier.value earlier.state
  have complete : accepted = response.wire ↔ missing = [] := by
    rw [← whole]
    exact List.self_eq_append_right
  refine ⟨whole, ?_, ?_, ?_, ?_, sending.length_le⟩
  · intro before offered result after here
    obtain ⟨left, nonempty⟩ := sending.rest_of_write here
    rw [List.append_assoc, left]
    exact ⟨whole, nonempty⟩
  · have own := run_eq_ok_iff earlier.value earlier.state
    rw [← whole, List.append_cancel_left_eq]
    exact own
  · intro short
    exact sending.offered fun empty => short (complete.mpr empty)
  · intro all
    have empty := complete.mp all
    rw [empty] at sending
    exact sending.events_of_nil

/-- A stream that accepts nine bytes and then none, fails, accepts the rest and fails to flush. -/
def haltingScript : Script :=
  ⟨[], [.accept 9, .accept 0, .fault .timedOut, .accept 20], [some .brokenPipe, none], none⟩

/-- On the halting stream the first run delivers nine bytes and the second one goes on behind them;
the third run delivers the rest and fails at the flush, and the fourth one only flushes. -/
theorem run_resumes_halting :
    let response := Response.initial
    let first := runs 1 (ofResponse response) haltingScript
    let third := runs 3 (ofResponse response) haltingScript
    StreamEvent.wire first.events = response.wire.take 9 ∧
      (∃ result later, (first.value.run first.state).events =
        .write (response.wire.drop 9) result :: later) ∧
      StreamEvent.wire third.events = response.wire ∧
      (third.value.run third.state).events = [.flush (.ok ())] := by
  intro response first third
  have some : StreamEvent.wire first.events = response.wire.take 9 := by decide +kernel
  have left : first.value.pending = response.wire.drop 9 := by decide +kernel
  have all : StreamEvent.wire third.events = response.wire := by decide +kernel
  have delivered : (third.value.run third.state).value.1 = .ok () := by decide +kernel
  obtain ⟨-, -, -, again, -, -⟩ := run_resumes response haltingScript 1
  obtain ⟨-, -, -, -, last, -⟩ := run_resumes response haltingScript 3
  refine ⟨some, ?_, all, ?_⟩
  · rw [← left]
    refine again ?_
    rw [some]
    decide +kernel
  · rw [← delivered]
    exact last all

end Writer

end OriginServer
