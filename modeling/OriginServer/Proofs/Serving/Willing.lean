import OriginServer.Proofs.Serving.Outcome

/-!
# The reply and what becomes of it

The peer gets the beginning of the reply to what was served, and all of it if no write goes wrong
(`Server.wire_handle`). A stream is willing in a handling if no write and no flush goes wrong there.
Then the bytes that the peer gets, the report and the result are settled by what was served: how the
stream cuts the bytes into reads and writes has no part in them (`Server.handle_of_willing`).
-/
namespace OriginServer

/-- In some events no write and no flush goes wrong; nothing is said of reads. -/
def Event.Willing (events : List Event) : Prop :=
  ∀ operation ∈ operations events, operation.isRead = false → operation.isFaulty = false

/-- In some events no write goes wrong. -/
def Event.Accepting (events : List Event) : Prop :=
  ∀ operation ∈ operations events, operation.isWrite = true → operation.isFaulty = false

/-- If no write and no flush goes wrong then no write does. -/
theorem Event.Willing.accepting {events : List Event} (willing : Willing events) :
    Accepting events := by
  intro operation inside writes
  apply willing operation inside
  cases operation with
  | write offered outcome => rfl
  | read outcome => cases writes
  | flush outcome => cases writes
  | shutdown outcome => cases writes

/-- Whether a write or a flush went wrong is decided by the operations. -/
instance (events : List Event) : Decidable (Event.Willing events) :=
  inferInstanceAs (Decidable (∀ operation ∈ Event.operations events,
    operation.isRead = false → operation.isFaulty = false))

/-- The result that an ending leads to if everything that is sent arrives. -/
def Ending.result : Ending → HandlingResult
  | done => .ok
  | failed failure => .failed failure
  | aborted => .aborted

namespace Server

variable {σ : Type} [Transport σ] {server : Server} {connection : Connection σ}
variable {handling : Handling σ} {served : Served} {reads sent : List StreamEvent}
variable {report : Report} {result : HandlingResult}

/-- The report on what was served if everything that is sent arrives; there is none if a provider
broke off. -/
def report? (server : Server) (served : Served) : Option Report :=
  match served.ending with
  | .done => some (.handled served.summary served.response.status)
  | .failed failure =>
    some (.failed served.summary failure ((server.reply? served).map Response.status))
  | .aborted => none

/-- When no write and no flush goes wrong the reply is sent successfully, if there is one. -/
theorem Concluded.sent_of_willing
    (concluded : Concluded server connection served sent report result)
    (ends : server.Ends handling (reads ++ sent) report result)
    (willing : Event.Willing handling.events) {response : Response}
    (reply : server.reply? served = some response) :
    sent = (connection.send (.ofResponse response)).events ∧
      (connection.send (.ofResponse response)).value.1 = .ok () := by
  have same := concluded.sent_eq
  rw [reply] at same
  have sending := connection.sending_send response
  refine ⟨same, sending.ok_iff_sound.mpr ?_⟩
  intro operation inside
  exact willing operation (ends.mem_operations (same ▸ inside)) (sending.kinds operation inside).1

/-- The peer gets the beginning of the reply, if there is one, and all of it if no write goes
wrong. -/
theorem Concluded.wire_reply
    (concluded : Concluded server connection served sent report result)
    (ends : server.Ends handling (reads ++ sent) report result)
    (reading : ∀ operation ∈ reads, operation.isRead = true) :
    Event.wire handling.events <+: (server.reply? served).elim [] Response.wire ∧
      (Event.Accepting handling.events →
        Event.wire handling.events = (server.reply? served).elim [] Response.wire) := by
  rw [ends.wire_of_reads reading]
  have same := concluded.sent_eq
  cases reply : server.reply? served with
  | none =>
    rw [reply] at same
    rw [same]
    exact ⟨List.nil_prefix, fun _ => rfl⟩
  | some response =>
    rw [reply] at same
    rw [same]
    refine ⟨connection.wire_send_prefix response, fun accepting => ?_⟩
    apply (connection.sending_send response).wire_of_accepting
    intro operation inside
    exact accepting operation (ends.mem_operations (same ▸ inside))

/-- When no write and no flush goes wrong the report and the result are those of what was
served. -/
theorem Concluded.report_of_willing
    (concluded : Concluded server connection served sent report result)
    (ends : server.Ends handling (reads ++ sent) report result)
    (willing : Event.Willing handling.events) :
    server.report? served = some report ∧ result = served.ending.result := by
  have arrived : ∀ response, server.reply? served = some response →
      (connection.send (.ofResponse response)).value.1 = .ok () :=
    fun response reply => (concluded.sent_of_willing ends willing reply).2
  cases concluded with
  | delivered done sent => simp [report?, done, Ending.result]
  | cut done sent =>
    have reply : server.reply? served = some served.response := by simp [reply?, done]
    rw [arrived _ reply] at sent
    cases sent
  | unreachable failed transport =>
    simp [report?, reply?, failed, transport, Ending.result]
  | refused failed logical sent =>
    simp [report?, reply?_of_logical failed logical, failed, Ending.result]
  | undelivered failed logical sent =>
    rw [arrived _ (reply?_of_logical failed logical)] at sent
    cases sent

/-- The peer gets the beginning of the reply to what was served, if there is one, and all of it if
no write goes wrong. -/
theorem wire_handle (server : Server) (now : HeaderDate) (connection : Connection σ)
    (peer : Option String) :
    let replied := (server.reply? (server.serve now connection peer)).elim [] Response.wire
    let events := (server.handle now connection peer).events
    Event.wire events <+: replied ∧ (Event.Accepting events → Event.wire events = replied) := by
  intro replied events
  by_cases broken : (server.handle now connection peer).result = .aborted
  · have ending := result_handle_eq_aborted_iff.mp broken
    have none : replied = [] := by simp [replied, reply?, ending]
    have silent : Event.wire events = [] := (brokenOff_of_aborted broken).silent
    rw [none, silent]
    exact ⟨List.nil_prefix, fun _ => rfl⟩
  · obtain ⟨sent, report, result, concluded, ends⟩ :=
      server.exists_concluded now connection peer broken
    exact concluded.wire_reply ends connection.isRead_of_mem_readRequest

/-- What was served settles a handling in which no write and no flush goes wrong: the peer gets the
reply, if there is one, and the report and the result are those of the ending. -/
theorem handle_of_willing {now : HeaderDate} {peer : Option String}
    (willing : Event.Willing (server.handle now connection peer).events) :
    let served := server.serve now connection peer
    let handling := server.handle now connection peer
    Event.wire handling.events = (server.reply? served).elim [] Response.wire ∧
      Event.reports handling.events = (server.report? served).toList ∧
      handling.result = served.ending.result := by
  intro served handling
  refine ⟨(server.wire_handle now connection peer).2 willing.accepting, ?_⟩
  by_cases broken : handling.result = .aborted
  · have ending : served.ending = .aborted := result_handle_eq_aborted_iff.mp broken
    constructor
    · rw [(brokenOff_of_aborted broken).unreported, report?, ending]
      rfl
    · rw [broken, ending]
      rfl
  · obtain ⟨sent, report, result, concluded, ends⟩ :=
      server.exists_concluded now connection peer broken
    obtain ⟨reported, resulted⟩ := concluded.report_of_willing ends willing
    constructor
    · rw [ends.reports_eq, reported]
      rfl
    · rw [ends.result_eq, resulted]

end Server

end OriginServer
