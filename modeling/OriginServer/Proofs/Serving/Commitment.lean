import Mathlib.Control.Monad.Basic
import OriginServer.Proofs.Serving.Wire

/-!
# A response goes out once

A response belongs to a connection over which it is sent, while it is changed and requests are read
from the connection in any order (`Exchange`, `Act`). The first sending commits the response, before
anything is written, and nothing takes that back: what is done before the first sending only reads,
and so does what is done after it (`Exchange.play_of_quiet`). So what the peer accepts are bytes of
the response as it was at its first sending (`Exchange.send_once`).
-/
namespace OriginServer

/-- What can be done with a connection and a response. -/
inductive Act where
  /-- The response is sent. -/
  | send
  /-- A request is read. -/
  | read
  /-- The response is changed, in any way: its methods set parts of it or forget them. -/
  | change (change : Response → Response)

/-- A connection and the response that is to be sent over it. -/
structure Exchange (σ : Type) where
  /-- The connection. -/
  connection : Connection σ
  /-- The response. -/
  outgoing : Outgoing

namespace Exchange

variable {σ : Type} [Transport σ]

/-- One act: what it leaves behind and what happens on the stream. -/
def perform (exchange : Exchange σ) : Act → Activity (Exchange σ) Unit
  | .send =>
    let sent := exchange.connection.send exchange.outgoing
    ⟨(), ⟨sent.state, sent.value.2⟩, sent.events⟩
  | .read =>
    let call := exchange.connection.readRequest
    ⟨(), ⟨call.state, exchange.outgoing⟩, call.events⟩
  | .change change => ⟨(), ⟨exchange.connection, exchange.outgoing.update change⟩, []⟩

/-- Some acts one after the other. -/
def play : List Act → Exchange σ → Activity (Exchange σ) Unit
  | [], exchange => ⟨(), exchange, []⟩
  | act :: rest, exchange =>
    let done := exchange.perform act
    let later := play rest done.state
    { later with events := done.events ++ later.events }

/-- Acts one after the other are performed from where the earlier ones lead. -/
theorem play_append (early late : List Act) (exchange : Exchange σ) :
    let before := play early exchange
    let after := play late before.state
    play (early ++ late) exchange = { after with events := before.events ++ after.events } := by
  induction early generalizing exchange with
  | nil => rfl
  | cons act rest ih =>
    simp only [List.cons_append, play, ih, List.append_assoc]

/-- A committed response is not sent: nothing happens, and no failure is reported. -/
theorem send_of_committed {exchange : Exchange σ} (committed : exchange.outgoing.committed = true) :
    exchange.connection.send exchange.outgoing =
      ⟨(.ok (), exchange.outgoing), exchange.connection, []⟩ := by
  rw [Connection.send, if_pos committed]

/-- An act that sends nothing, since it is no sending or the response is committed, only reads and
does not touch the commitment. -/
theorem perform_of_quiet {exchange : Exchange σ} {act : Act}
    (quiet : act ≠ .send ∨ exchange.outgoing.committed = true) :
    (exchange.perform act).state.outgoing.committed = exchange.outgoing.committed ∧
      ∀ event ∈ (exchange.perform act).events, event.isRead = true := by
  cases act with
  | send =>
    have committed : exchange.outgoing.committed = true :=
      quiet.resolve_left (not_not_intro rfl)
    rw [perform, send_of_committed committed]
    exact ⟨rfl, by simp⟩
  | read => exact ⟨rfl, exchange.connection.isRead_of_mem_readRequest⟩
  | change change => exact ⟨rfl, by simp [perform]⟩

/-- Acts that send nothing, since no sending is among them or the response is committed, only read
and do not touch the commitment. -/
theorem play_of_quiet {acts : List Act} {exchange : Exchange σ}
    (quiet : .send ∉ acts ∨ exchange.outgoing.committed = true) :
    (play acts exchange).state.outgoing.committed = exchange.outgoing.committed ∧
      ∀ event ∈ (play acts exchange).events, event.isRead = true := by
  induction acts generalizing exchange with
  | nil => exact ⟨rfl, by simp [play]⟩
  | cons act rest ih =>
    have first : act ≠ .send ∨ exchange.outgoing.committed = true :=
      quiet.imp_left fun unsent same => unsent (List.mem_cons.mpr (.inl same.symm))
    obtain ⟨flag, here⟩ := perform_of_quiet first
    have others : .send ∉ rest ∨ (exchange.perform act).state.outgoing.committed = true := by
      rw [flag]
      exact quiet.imp_left fun unsent inside => unsent (List.mem_cons_of_mem act inside)
    obtain ⟨last, later⟩ := ih others
    exact ⟨last.trans flag, List.forall_mem_append.mpr ⟨here, later⟩⟩

/-- Reads are all that is left out when reads are left out. -/
theorem filter_of_reads {events : List StreamEvent}
    (reads : ∀ event ∈ events, event.isRead = true) :
    events.filter (fun event => !event.isRead) = [] := by
  simpa using reads

/-- The first sending of a response is all that happens besides reads, whatever is done later. -/
theorem play_send {exchange : Exchange σ} (fresh : exchange.outgoing.committed = false)
    (late : List Act) :
    let first := exchange.connection.send exchange.outgoing
    let whole := play (.send :: late) exchange
    whole.state.outgoing.committed = true ∧
      whole.events.filter (fun event => !event.isRead) = first.events ∧
      StreamEvent.wire whole.events = StreamEvent.wire first.events := by
  intro first whole
  obtain ⟨connection, response, committed⟩ := exchange
  obtain rfl : committed = false := fresh
  have marked : (Exchange.mk first.state first.value.2).outgoing.committed = true :=
    congrArg (·.2.committed) (connection.value_send response)
  let after := play late ⟨first.state, first.value.2⟩
  obtain ⟨still, later⟩ : after.state.outgoing.committed = first.value.2.committed ∧
      ∀ event ∈ after.events, event.isRead = true := play_of_quiet (.inr marked)
  have unread : ∀ event ∈ first.events, (!event.isRead) = true := by
    intro event inside
    have kinds := (connection.sending_send response).kinds event inside
    simpa using kinds.1
  have events : whole.events = first.events ++ after.events := rfl
  refine ⟨still.trans marked, ?_, ?_⟩
  · rw [events, List.filter_append, filter_of_reads later, List.append_nil,
      List.filter_eq_self.mpr unread]
  · rw [events, StreamEvent.wire_append, StreamEvent.wire_of_reads later, List.append_nil]

/-- **A response goes out at most once.** Let a response that was not sent yet be sent, after it
was changed and requests were read in any order; and let it then be sent again, be changed and let
requests be read in any order. Reads apart, nothing happens on the stream but what the first sending
does. The peer accepts a beginning of the bytes that the response had at the first sending, and all
of them if that sending succeeded. However it ended, at every later point the response is committed,
and to send it once more succeeds without an operation on the stream. -/
theorem send_once (connection : Connection σ) (response : Response) {early : List Act}
    (unsent : .send ∉ early) (late : List Act) :
    let start : Exchange σ := ⟨connection, .ofResponse response⟩
    let before := (play early start).state
    let first := before.connection.send before.outgoing
    let whole := play (early ++ .send :: late) start
    before.outgoing.committed = false ∧
      whole.events.filter (fun event => !event.isRead) = first.events ∧
      StreamEvent.wire whole.events <+: before.outgoing.response.wire ∧
      (first.value.1 = .ok () → StreamEvent.wire whole.events = before.outgoing.response.wire) ∧
      whole.state.outgoing.committed = true ∧
      whole.state.connection.send whole.state.outgoing =
        ⟨(.ok (), whole.state.outgoing), whole.state.connection, []⟩ := by
  intro start before first whole
  obtain ⟨fresh, earlier⟩ : before.outgoing.committed = false ∧
      ∀ event ∈ (play early start).events, event.isRead = true := play_of_quiet (.inl unsent)
  obtain ⟨committed, others, wire⟩ := play_send fresh late
  have parts : whole = { play (.send :: late) before with
      events := (play early start).events ++ (play (.send :: late) before).events } :=
    play_append early (.send :: late) start
  have accepted : StreamEvent.wire whole.events = StreamEvent.wire first.events := by
    rw [parts, StreamEvent.wire_append, StreamEvent.wire_of_reads earlier, wire, List.nil_append]
  have same : before.outgoing = .ofResponse before.outgoing.response :=
    congrArg (Outgoing.mk before.outgoing.response) fresh
  have sent : first = before.connection.send (.ofResponse before.outgoing.response) := by
    rw [← same]
  have still : whole.state.outgoing.committed = true := by
    rw [parts]
    exact committed
  refine ⟨fresh, ?_, ?_, ?_, still, send_of_committed still⟩
  · rw [parts, List.filter_append, filter_of_reads earlier, others, List.nil_append]
  · rw [accepted, sent]
    exact before.connection.wire_send_prefix before.outgoing.response
  · intro delivered
    rw [sent] at delivered
    rw [accepted, sent]
    exact Connection.wire_send_of_ok delivered

/-- A stream that accepts five bytes, then fails, and accepts everything after that. -/
def relentingScript : Script :=
  ⟨[.bytes (Utf8.encode "GET / HTTP/1.1\r\n\r\n")], [.accept 5, .fault .brokenPipe], [], none⟩

/-- A response that was cut off after five bytes is not taken up again, neither reset nor sent once
more on a stream that would now accept it. -/
theorem send_once_relenting :
    let early : List Act := [.change (·.setStatus .notFound), .read]
    let late : List Act := [.change Response.reset, .send, .read]
    let start : Exchange Script := ⟨.ofStream relentingScript, .ofResponse .initial⟩
    let whole := play (early ++ .send :: late) start
    .send ∉ early ∧
      StreamEvent.wire whole.events = (Response.initial.setStatus .notFound).wire.take 5 ∧
      whole.state.connection.stream.writes = [] ∧
      (whole.state.connection.send whole.state.outgoing).value.1 = .ok () ∧
      (whole.state.connection.send whole.state.outgoing).events = [] := by
  intro early late start whole
  have unsent : .send ∉ early := by simp [early]
  have torn : StreamEvent.wire whole.events =
      (Response.initial.setStatus .notFound).wire.take 5 := by decide +kernel
  have willing : whole.state.connection.stream.writes = [] := by decide +kernel
  obtain ⟨-, -, -, -, -, again⟩ := send_once (.ofStream relentingScript) .initial unsent late
  refine ⟨unsent, torn, willing, ?_, ?_⟩
  · exact congrArg (·.value.1) again
  · exact congrArg (·.events) again

end Exchange

end OriginServer
