import Mathlib.Data.List.Pairwise
import OriginServer.Proofs.Serving.Outcome

/-!
# The life of a connection

Whatever the stream and the providers do, handling a connection goes one of two ways
(`lifecycle_handle`). Mostly it reads, then sends at most one response, then reports, then ends the
stream; a provider works on a response and cannot hand it to a connection, so nothing goes out
before the reply does. But where a provider breaks off, the handling breaks off with it, and the
stream is left as reading the request left it.
-/
namespace OriginServer

/-- What sending does with a stream at most. -/
structure Emission (sent : List StreamEvent) : Prop where
  /-- Sending writes and flushes. -/
  kinds : ∀ operation ∈ sent, operation.isRead = false ∧ operation.isShutdown = false
  /-- Nothing follows an operation that went wrong. -/
  sound : sent.Pairwise fun earlier _ => earlier.isFaulty = false
  /-- The stream is flushed at most once. -/
  flushes : (sent.filter StreamEvent.isFlush).length ≤ 1

namespace Emission

variable {reads sent : List StreamEvent}

/-- It is possible that nothing is sent. -/
theorem nil : Emission [] := ⟨by simp, .nil, Nat.zero_le 1⟩

/-- Sending bytes is an emission. -/
theorem of_sending {pending : Bytes} {outcome : Except Fault Unit}
    (sending : Sending pending sent outcome) : Emission sent :=
  ⟨sending.kinds, sending.sound_before, sending.flushes_le_one⟩

/-- When reads come first and the stream is ended last, nothing is read after a write. -/
theorem readFirst (emission : Emission sent)
    (reading : ∀ operation ∈ reads, operation.isRead = true) (ended : Except Fault Unit) :
    (reads ++ (sent ++ [StreamEvent.shutdown ended])).Pairwise fun earlier later =>
      earlier.isWrite = true → later.isRead = false := by
  -- No read is a write, and behind the reads nothing is read.
  have unwritten : ∀ operation ∈ reads, operation.isWrite = true → False :=
    fun operation inside writes => by
      simp [(StreamEvent.kinds_of_isRead (reading operation inside)).1] at writes
  have unread : ∀ operation ∈ sent ++ [.shutdown ended], operation.isRead = false :=
    List.forall_mem_append.mpr ⟨fun operation inside => (emission.kinds operation inside).1,
      List.forall_mem_singleton.mpr rfl⟩
  refine List.pairwise_append.mpr ⟨?_, ?_, ?_⟩
  · exact List.pairwise_of_forall_mem_list fun earlier inside later _ writes =>
      (unwritten earlier inside writes).elim
  · exact List.pairwise_of_forall_mem_list fun earlier _ later inside _ => unread later inside
  · exact fun earlier inside later _ writes => (unwritten earlier inside writes).elim

/-- When reads come first and the stream is ended last, only the end of the stream comes after a
write or a flush that went wrong. -/
theorem stopped (emission : Emission sent)
    (reading : ∀ operation ∈ reads, operation.isRead = true) (ended : Except Fault Unit) :
    (reads ++ (sent ++ [StreamEvent.shutdown ended])).Pairwise fun earlier later =>
      earlier.isRead = false → earlier.isFaulty = true → later.isShutdown = true := by
  have read : ∀ operation ∈ reads, operation.isRead = false → False :=
    fun operation inside other => by simp [reading operation inside] at other
  refine List.pairwise_append.mpr ⟨?_, List.pairwise_append.mpr ⟨?_, ?_, ?_⟩, ?_⟩
  · exact List.pairwise_of_forall_mem_list fun earlier inside later _ other =>
      (read earlier inside other).elim
  · exact emission.sound.imp fun sound _ faulty => by simp [sound] at faulty
  · exact List.pairwise_singleton _ _
  · exact fun earlier _ later inside _ _ => by
      rw [List.mem_singleton.mp inside, StreamEvent.isShutdown]
  · exact fun earlier inside later _ other => (read earlier inside other).elim

/-- When reads come first and the stream is ended last, the stream is flushed at most once. -/
theorem flushedOnce (emission : Emission sent)
    (reading : ∀ operation ∈ reads, operation.isRead = true) (ended : Except Fault Unit) :
    ((reads ++ (sent ++ [StreamEvent.shutdown ended])).filter StreamEvent.isFlush).length ≤ 1 := by
  have unflushed : reads.filter StreamEvent.isFlush = [] :=
    List.filter_eq_nil_iff.mpr fun operation inside => by
      simp [(StreamEvent.kinds_of_isRead (reading operation inside)).2.1]
  have last : [StreamEvent.shutdown ended].filter StreamEvent.isFlush = [] := rfl
  rw [List.filter_append, List.filter_append, unflushed, last, List.nil_append, List.append_nil]
  exact emission.flushes

end Emission

/-- What holds of the events of a handling that may send one reply. -/
structure Lifecycle (reply : Option Response) (events : List Event) : Prop where
  /-- There is one report. The end of the stream comes after it and is the last operation; no
  operation before it ends the stream. -/
  concluded : ∃ before report later ended, events = before ++ .reported report :: later ∧
    Event.reports before = [] ∧ Event.reports later = [] ∧
    (∀ operation ∈ Event.operations before, operation.isShutdown = false) ∧
    Event.operations later = [.shutdown ended]
  /-- Nothing is read after a write. -/
  readFirst : (Event.operations events).Pairwise fun earlier later =>
    earlier.isWrite = true → later.isRead = false
  /-- Only the end of the stream comes after a write or a flush that went wrong. -/
  stopped : (Event.operations events).Pairwise fun earlier later =>
    earlier.isRead = false → earlier.isFaulty = true → later.isShutdown = true
  /-- The stream is flushed at most once. -/
  flushedOnce : ((Event.operations events).filter StreamEvent.isFlush).length ≤ 1
  /-- The peer accepts the beginning of the reply, or nothing if there is none. -/
  oneResponse : Event.wire events <+: reply.elim [] Response.wire

namespace Server

variable {σ : Type} [Transport σ] {server : Server}

/-- A handling that reads, then sends, and then reports and ends its connection is orderly. -/
theorem Ends.lifecycle {handling : Handling σ} {reads sent : List StreamEvent} {report : Report}
    {result : HandlingResult} (ends : server.Ends handling (reads ++ sent) report result)
    (reading : ∀ operation ∈ reads, operation.isRead = true) (emission : Emission sent)
    {reply : Option Response} (part : StreamEvent.wire sent <+: reply.elim [] Response.wire) :
    Lifecycle reply handling.events := by
  obtain ⟨before, later, last, events, silent, nothing, started, closing⟩ := ends.split
  obtain ⟨ended, operations⟩ := ends.operations_eq
  rw [List.append_assoc] at operations
  have unended : ∀ operation ∈ reads ++ sent, operation.isShutdown = false :=
    List.forall_mem_append.mpr
      ⟨fun operation inside => (StreamEvent.kinds_of_isRead (reading operation inside)).2.2.1,
        fun operation inside => (emission.kinds operation inside).2⟩
  refine ⟨⟨before, report, later, last, events, silent, nothing, started ▸ unended, closing⟩,
    ?_, ?_, ?_, ?_⟩
  · exact operations ▸ emission.readFirst reading ended
  · exact operations ▸ emission.stopped reading ended
  · exact operations ▸ emission.flushedOnce reading ended
  · exact (ends.wire_of_reads reading).symm ▸ part

/-- Unless a provider breaks off, a handling sends at most its reply, reports once and then ends the
stream. -/
theorem lifecycle_of_returned (server : Server) (now : HeaderDate) (connection : Connection σ)
    (peer : Option String) (returned : (server.handle now connection peer).result ≠ .aborted) :
    Lifecycle (server.reply? (server.serve now connection peer))
      (server.handle now connection peer).events := by
  obtain ⟨sent, report, result, concluded, ends⟩ :=
    server.exists_concluded now connection peer returned
  have reading := connection.isRead_of_mem_readRequest
  have same := concluded.sent_eq
  cases reply : server.reply? (server.serve now connection peer) with
  | none =>
    rw [reply] at same
    exact ends.lifecycle reading (same ▸ .nil) (same ▸ List.nil_prefix)
  | some response =>
    rw [reply] at same
    exact ends.lifecycle reading
      (same ▸ .of_sending (connection.readRequest.state.sending_send response))
      (same ▸ connection.readRequest.state.wire_send_prefix response)

/-- **A connection lives an orderly life or is left alone.** Whatever the stream and the providers
do, a handling sends at most its reply, reports once and then ends the stream; or the provider in
charge breaks off, and then the handling has read its request and does nothing else: nothing is
written, nothing is reported and the stream is not ended. -/
theorem lifecycle_handle (server : Server) (now : HeaderDate) (connection : Connection σ)
    (peer : Option String) :
    let handling := server.handle now connection peer
    (handling.result ≠ .aborted ∧
        Lifecycle (server.reply? (server.serve now connection peer)) handling.events) ∨
      (handling.result = .aborted ∧ server.BrokenOff now connection handling) := by
  intro handling
  by_cases broken : handling.result = .aborted
  · exact .inr ⟨broken, brokenOff_of_aborted broken⟩
  · exact .inl ⟨broken, server.lifecycle_of_returned now connection peer broken⟩

/-- A notice of which the peer accepts five bytes and then no more, on a stream that cannot be
ended, is no exception. -/
theorem lifecycle_of_stalled :
    let server := noticeServer .done
    let connection := noticeConnection [.accept 5, .accept 0] [] (some .notConnected)
    let handling := server.handle ⟨0, by decide⟩ connection none
    handling.result ≠ .aborted ∧ Event.wire handling.events = Utf8.encode "HTTP/" ∧
      Lifecycle (server.reply? (server.serve ⟨0, by decide⟩ connection none)) handling.events := by
  intro server connection handling
  have returned : handling.result ≠ .aborted := by decide +kernel
  have wire : Event.wire handling.events = Utf8.encode "HTTP/" := by decide +kernel
  obtain ⟨-, lifecycle⟩ | ⟨broken, -⟩ := server.lifecycle_handle ⟨0, by decide⟩ connection none
  · exact ⟨returned, wire, lifecycle⟩
  · exact absurd broken returned

/-- Not every connection is reported on and ended: the page that was changed a second before 1970
leaves its connection open and without a report. -/
theorem exists_unended_connection :
    ¬∀ (server : Server) (now : HeaderDate) (connection : Connection Script)
      (peer : Option String),
      (∃ report, Event.reports (server.handle now connection peer).events = [report]) ∧
        ∃ before ended, Event.operations (server.handle now connection peer).events =
          before ++ [.shutdown ended] := by
  intro always
  obtain ⟨-, before, ended, operations⟩ := always agedServer ⟨0, by decide⟩ agedConnection none
  have last : StreamEvent.shutdown ended ∈ Event.operations
      (agedServer.handle ⟨0, by decide⟩ agedConnection none).events := by
    rw [operations]
    exact List.mem_append_right _ List.mem_cons_self
  have reads := brokenOff_aged.reading _ last
  cases reads

end Server

end OriginServer
