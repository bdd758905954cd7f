import Mathlib.Control.Monad.Basic
import OriginServer.Proofs.Message.StatusLine
import OriginServer.Proofs.Serving.Outcome

/-!
# When a request is answered

A request that was received on a stream on which nothing goes wrong is answered, unless a provider
blames the stream: a provider may end its work with the failure that stands for a broken stream, and
then nothing is sent although the peer can be reached (`replied_iff_unblamed`).
-/
namespace OriginServer

/-- The peer gets the whole reply and nothing else, and no report blames the stream. -/
structure Replied (reply : Option Response) (events : List Event) : Prop where
  /-- The bytes that the peer accepted are those of the reply. -/
  whole : ∃ response, reply = some response ∧ Event.wire events = response.wire
  /-- No transport fault is reported. -/
  unblamed : ∀ summary fault status,
    Report.failed summary (.transport fault) status ∉ Event.reports events

/-- What arrives on a connection is a request, or bytes that are refused because they hold none. -/
def Connection.Received {σ : Type} [Transport σ] (connection : Connection σ) : Prop :=
  (∃ request, connection.readRequest.value = .ok request) ∨
    ∃ cause, connection.readRequest.value = .error (.badRequest cause)

namespace Server

variable {σ : Type} [Transport σ] {server : Server} {connection : Connection σ}
variable {handling : Handling σ} {report : Report} {result : HandlingResult} {served : Served}

/-- When nothing goes wrong on the stream the sending of a response succeeds. -/
theorem Ends.sent_of_working {reads : List StreamEvent} {response : Response}
    (ends : server.Ends handling (reads ++ (connection.send (.ofResponse response)).events) report
      result)
    (working : ∀ operation ∈ Event.operations handling.events, operation.isFaulty = false) :
    (connection.send (.ofResponse response)).value.1 = .ok () := by
  refine (connection.sending_send response).ok_iff_sound.mpr fun operation inside => ?_
  exact working operation (ends.mem_operations inside)

/-- On a stream on which nothing goes wrong what was served is answered, unless it ended in a
failure that blames the stream. -/
theorem Concluded.replied {reads sent : List StreamEvent}
    (concluded : Concluded server connection served sent report result)
    (ends : server.Ends handling (reads ++ sent) report result)
    (reading : ∀ operation ∈ reads, operation.isRead = true)
    (working : ∀ operation ∈ Event.operations handling.events, operation.isFaulty = false)
    (unblamed : ∀ fault, served.ending ≠ .failed (.transport fault)) :
    Replied (server.reply? served) handling.events := by
  have reports := ends.reports_eq
  have wire := ends.wire_of_reads reading
  cases concluded with
  | delivered done sent =>
    refine ⟨⟨served.response, by simp [reply?, done], ?_⟩, by simp [reports]⟩
    rw [wire, Connection.wire_send_of_ok sent]
  | cut done sent =>
    rw [ends.sent_of_working working] at sent
    cases sent
  | unreachable failed transport =>
    obtain ⟨fault, rfl⟩ := Failure.exists_of_isTransport transport
    exact absurd failed (unblamed fault)
  | @refused failure failed logical sent =>
    refine ⟨⟨server.errorResponse failure served.response, ?_, ?_⟩, ?_⟩
    · exact reply?_of_logical failed logical
    · rw [wire, Connection.wire_send_of_ok sent]
    · simp [reports, (Failure.ne_transport logical _).symm]
  | undelivered failed logical sent =>
    rw [ends.sent_of_working working] at sent
    cases sent

/-- What ended in a failure that blames the stream is not answered: nothing is sent. -/
theorem Concluded.silent {sent : List StreamEvent} {fault : Fault}
    (concluded : Concluded server connection served sent report result)
    (blamed : served.ending = .failed (.transport fault)) :
    sent = [] ∧ report = .failed served.summary (.transport fault) none ∧
      result = .failed (.transport fault) := by
  cases concluded with
  | delivered done sent => cases done.symm.trans blamed
  | cut done sent => cases done.symm.trans blamed
  | unreachable failed transport =>
    obtain rfl := Ending.failed.inj (failed.symm.trans blamed)
    exact ⟨rfl, rfl, rfl⟩
  | refused failed logical sent =>
    obtain rfl := Ending.failed.inj (failed.symm.trans blamed)
    cases logical
  | undelivered failed logical sent =>
    obtain rfl := Ending.failed.inj (failed.symm.trans blamed)
    cases logical

/-- When a request or its refusal was read, only a provider can make what is served blame the
stream. -/
theorem exists_load_of_blamed {now : HeaderDate} {peer : Option String} {fault : Fault}
    (received : connection.Received)
    (blamed : (server.serve now connection peer).ending = .failed (.transport fault)) :
    ∃ provider ∈ server.config.providers, ∃ path request response,
      (provider.load path request response).ending = .failed (.transport fault) := by
  obtain ⟨request, read⟩ | ⟨cause, read⟩ := received
  · rw [serve_of_ok read] at blamed
    obtain ⟨slot, provider, path, loads⟩ :=
      ServerConfig.exists_load_of_ending blamed (by simp) (by simp [Failure.isTransport])
    exact ⟨provider, loads.listed, path, request, _, loads.ends⟩
  · rw [serve_of_error read] at blamed
    cases blamed

/-- **A request is answered unless a provider blames the stream.** On a stream on which no read,
write or flush goes wrong, what was received is answered exactly if what was served did not end in a
failure that blames the stream. Otherwise a provider ended its work with that failure; then nothing
reaches the peer, and a transport fault is reported and returned. -/
theorem replied_iff_unblamed (server : Server) (now : HeaderDate) (connection : Connection σ)
    (peer : Option String) (received : connection.Received)
    (working : ∀ operation ∈ Event.operations (server.handle now connection peer).events,
      operation.isFaulty = false)
    (returned : (server.handle now connection peer).result ≠ .aborted) :
    let served := server.serve now connection peer
    let handling := server.handle now connection peer
    (Replied (server.reply? served) handling.events ↔
        ∀ fault, served.ending ≠ .failed (.transport fault)) ∧
      ∀ fault, served.ending = .failed (.transport fault) →
        (∃ provider ∈ server.config.providers, ∃ path request response,
          (provider.load path request response).ending = .failed (.transport fault)) ∧
        Event.wire handling.events = [] ∧
        Event.reports handling.events = [.failed served.summary (.transport fault) none] ∧
        handling.result = .failed (.transport fault) := by
  intro served handling
  obtain ⟨sent, report, result, concluded, ends⟩ :=
    server.exists_concluded now connection peer returned
  have reading := connection.isRead_of_mem_readRequest
  have silent : ∀ fault, served.ending = .failed (.transport fault) →
      Event.wire handling.events = [] ∧
      Event.reports handling.events = [.failed served.summary (.transport fault) none] ∧
      handling.result = .failed (.transport fault) := by
    intro fault blamed
    obtain ⟨rfl, rfl, rfl⟩ := concluded.silent blamed
    exact ⟨ends.wire_of_reads reading, ends.reports_eq, ends.result_eq⟩
  refine ⟨⟨fun replied fault blamed => ?_, concluded.replied ends reading working⟩,
    fun fault blamed => ⟨exists_load_of_blamed received blamed, silent fault blamed⟩⟩
  refine replied.unblamed served.summary fault none ?_
  rw [(silent fault blamed).2.1]
  exact List.mem_singleton_self _

/-- The notice that cannot be made for a reason of its own is answered with the page of a failure
inside the server. -/
theorem replied_of_unclassified :
    let server := noticeServer (.failed (.unclassified "no ink"))
    let connection := noticeConnection [.accept 7] [] none
    let handling := server.handle ⟨0, by decide⟩ connection none
    connection.Received ∧
      (∀ operation ∈ Event.operations handling.events, operation.isFaulty = false) ∧
      handling.result ≠ .aborted ∧
      Replied (server.reply? (server.serve ⟨0, by decide⟩ connection none)) handling.events := by
  intro server connection handling
  have read : connection.readRequest.value = .ok noticeRequest := by decide +kernel
  have working : ∀ operation ∈ Event.operations handling.events, operation.isFaulty = false := by
    decide +kernel
  have returned : handling.result ≠ .aborted := by decide +kernel
  have ending : (server.serve ⟨0, by decide⟩ connection none).ending =
      .failed (.unclassified "no ink") := by
    decide +kernel
  refine ⟨.inl ⟨_, read⟩, working, returned, ?_⟩
  refine (replied_iff_unblamed server _ connection none (.inl ⟨_, read⟩) working returned).1.mpr
    fun fault blamed => ?_
  rw [ending] at blamed
  cases blamed

/-- Not every request that was received on a stream on which nothing goes wrong is answered: when
the provider of the notice blames the stream, no response reaches the peer. -/
theorem exists_unanswered_request :
    ¬∀ (server : Server) (now : HeaderDate) (connection : Connection Script)
      (peer : Option String), connection.Received →
      (∀ operation ∈ Event.operations (server.handle now connection peer).events,
        operation.isFaulty = false) →
      (server.handle now connection peer).result ≠ .aborted →
      ∃ response : Response,
        Event.wire (server.handle now connection peer).events = response.wire := by
  intro always
  let server := noticeServer (.failed (.transport (.ofKind .notFound)))
  let connection := noticeConnection [] [] none
  have read : connection.readRequest.value = .ok noticeRequest := by decide +kernel
  obtain ⟨response, wire⟩ := always server ⟨0, by decide⟩ connection none (.inl ⟨_, read⟩)
    (by decide +kernel) (by decide +kernel)
  have silent : Event.wire (server.handle ⟨0, by decide⟩ connection none).events = [] := by
    decide +kernel
  exact response.wire_ne_nil (wire.symm.trans silent)

end Server

end OriginServer
