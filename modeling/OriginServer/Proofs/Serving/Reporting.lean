import OriginServer.Proofs.Message.StatusLine
import OriginServer.Proofs.Serving.Outcome

/-!
# What is reported

The one report of a handling says what the peer accepted (`exists_truthful_report`): a handled
request and a failure with a status stand for a response that was accepted whole and flushed, with
that status in its first line; a logical failure without a status stands for an error page that was
offered and not delivered; a transport fault stands for everything else. The failure that is
reported is the result. Only a handling that a provider breaks off makes no report, and it sends
nothing either.
-/
namespace OriginServer

namespace Event

/-- The peer accepted a response, all of it, and the stream was flushed successfully. -/
def Delivered (response : Response) (events : List Event) : Prop :=
  wire events = response.wire ∧ .flush (.ok ()) ∈ operations events

/-- A response was offered to the peer. -/
def Attempted (response : Response) (events : List Event) : Prop :=
  ∃ outcome, .write response.wire outcome ∈ operations events

end Event

open Event (Delivered Attempted)

/-- A report of a handling says what the peer accepted. -/
structure Truthful {σ : Type} (server : Server) (served : Served) (handling : Handling σ)
    (report : Report) : Prop where
  /-- A request is reported as handled, with the result of success, exactly if its response was made
  ready and delivered; the status is the one that the peer can read. -/
  handled : ∀ summary status, report = .handled summary status ∧ handling.result = .ok ↔
    served.summary = summary ∧ served.ending = .done ∧
      Delivered served.response handling.events ∧ status.Announces (Event.wire handling.events)
  /-- A failure is reported with a status exactly if it is logical and its page was delivered; the
  status is the one that the peer can read. -/
  refused : ∀ summary failure status, report = .failed summary failure (some status) ↔
    served.summary = summary ∧ served.ending = .failed failure ∧ failure.isTransport = false ∧
      Delivered (server.errorResponse failure served.response) handling.events ∧
      status.Announces (Event.wire handling.events)
  /-- A logical failure is reported without a status exactly if its page was offered to the peer and
  not delivered. -/
  undelivered : ∀ summary failure, failure.isTransport = false →
    (report = .failed summary failure none ↔
      served.summary = summary ∧ served.ending = .failed failure ∧
        Attempted (server.errorResponse failure served.response) handling.events ∧
        ¬Delivered (server.errorResponse failure served.response) handling.events)
  /-- In all other cases, and only in those, a transport fault is reported without a status. -/
  faulted : ∀ summary, (∃ fault, report = .failed summary (.transport fault) none) ↔
    served.summary = summary ∧
      ¬(served.ending = .done ∧ Delivered served.response handling.events) ∧
      ¬∃ failure, served.ending = .failed failure ∧ failure.isTransport = false
  /-- When a transport fault is reported the work ended in it and nothing was offered to the peer,
  or the response was ready, the peer accepted the beginning of it, and a write or a flush of it
  went wrong. -/
  withheld : ∀ summary fault status, report = .failed summary (.transport fault) status →
    (served.ending = .failed (.transport fault) ∧
      ∀ operation ∈ Event.operations handling.events, operation.isWrite = false) ∨
    (served.ending = .done ∧ Event.wire handling.events <+: served.response.wire ∧
      ∃ operation ∈ Event.operations handling.events,
        operation.isRead = false ∧ operation.isFaulty = true)
  /-- The page of every logical failure is offered to the peer. -/
  attempted : ∀ failure, served.ending = .failed failure → failure.isTransport = false →
    Attempted (server.errorResponse failure served.response) handling.events
  /-- The result is a failure exactly if that failure is reported. -/
  returned : ∀ failure, handling.result = .failed failure ↔
    ∃ summary status, report = .failed summary failure status

namespace Server

section cases

variable {σ : Type} {server : Server} {handling : Handling σ} {served : Served}
variable {response : Response} {failure : Failure} {fault : Fault}

/-- The peer can read the status of a response that it accepted, and no other one. -/
theorem announces_iff_of_delivered {events : List Event} (whole : Delivered response events)
    (status : Status) : status.Announces (Event.wire events) ↔ response.status = status := by
  rw [whole.1, Response.announces_wire_iff, eq_comm]

/-- The report of a response that was delivered is truthful. -/
theorem truthful_of_delivered (done : served.ending = .done)
    (whole : Delivered served.response handling.events) (returned : handling.result = .ok) :
    Truthful server served handling (.handled served.summary served.response.status) where
  handled := by simp [returned, done, whole, announces_iff_of_delivered whole]
  refused := by simp [done]
  undelivered := by simp [done]
  faulted := by simp [done, whole]
  withheld := by simp
  attempted := by simp [done]
  returned := by simp [returned]

/-- The report of a response that was ready and not delivered is truthful. -/
theorem truthful_of_cut (done : served.ending = .done)
    (broken : ¬Delivered served.response handling.events)
    (part : Event.wire handling.events <+: served.response.wire)
    (faulty : ∃ operation ∈ Event.operations handling.events,
      operation.isRead = false ∧ operation.isFaulty = true)
    (returned : handling.result = .failed (.transport fault)) :
    Truthful server served handling (.failed served.summary (.transport fault) none) where
  handled := by simp [broken]
  refused := by simp [done]
  undelivered := by
    intro summary failure logical
    simp [done, (Failure.ne_transport logical fault).symm]
  faulted := by simp [done, broken]
  withheld := fun _ _ _ _ => .inr ⟨done, part, faulty⟩
  attempted := by simp [done]
  returned := by simp [returned]

/-- The report that nothing can reach the peer is truthful if nothing was offered to it. -/
theorem truthful_of_unreachable (failed : served.ending = .failed (.transport fault))
    (unwritten : ∀ operation ∈ Event.operations handling.events, operation.isWrite = false)
    (returned : handling.result = .failed (.transport fault)) :
    Truthful server served handling (.failed served.summary (.transport fault) none) where
  handled := by simp [failed]
  refused := by
    intro summary failure status
    simp only [failed, Report.failed.injEq, reduceCtorEq, and_false, Ending.failed.injEq, false_iff]
    rintro ⟨-, rfl, logical, -⟩
    cases logical
  undelivered := by
    intro summary failure logical
    simp [failed, (Failure.ne_transport logical fault).symm]
  faulted := by simp [failed, Failure.isTransport]
  withheld := by
    intro summary blamed status same
    obtain ⟨-, cause, -⟩ := Report.failed.inj same
    exact .inl ⟨cause ▸ failed, unwritten⟩
  attempted := by
    intro failure same logical
    obtain rfl := Ending.failed.inj (failed.symm.trans same)
    cases logical
  returned := by simp [returned]

/-- The report of an error page that was delivered is truthful. -/
theorem truthful_of_refused (failed : served.ending = .failed failure)
    (logical : failure.isTransport = false)
    (whole : Delivered (server.errorResponse failure served.response) handling.events)
    (attempted : Attempted (server.errorResponse failure served.response) handling.events)
    (returned : handling.result = .failed failure) :
    Truthful server served handling (.failed served.summary failure
      (some (server.errorResponse failure served.response).status)) where
  handled := by simp [failed]
  refused := by
    intro summary other status
    simp only [failed, Report.failed.injEq, Option.some.injEq, Ending.failed.injEq]
    refine and_congr_right fun _ => and_congr_right fun same => ?_
    subst same
    simp [logical, whole, announces_iff_of_delivered whole]
  undelivered := by
    intro summary other _
    simp only [failed, Report.failed.injEq, reduceCtorEq, and_false, Ending.failed.injEq, false_iff]
    rintro ⟨-, rfl, -, broken⟩
    exact broken whole
  faulted := by simp [failed, logical]
  withheld := by simp [Failure.ne_transport logical]
  attempted := by
    intro other same _
    obtain rfl := Ending.failed.inj (failed.symm.trans same)
    exact attempted
  returned := by simp [returned]

/-- The report of an error page that was not delivered is truthful. -/
theorem truthful_of_undelivered (failed : served.ending = .failed failure)
    (logical : failure.isTransport = false)
    (broken : ¬Delivered (server.errorResponse failure served.response) handling.events)
    (attempted : Attempted (server.errorResponse failure served.response) handling.events)
    (returned : handling.result = .failed failure) :
    Truthful server served handling (.failed served.summary failure none) where
  handled := by simp [failed]
  refused := by
    intro summary other status
    simp only [failed, Report.failed.injEq, reduceCtorEq, and_false, Ending.failed.injEq, false_iff]
    rintro ⟨-, rfl, -, whole, -⟩
    exact broken whole
  undelivered := by
    intro summary other _
    simp only [failed, Report.failed.injEq, and_true, Ending.failed.injEq]
    refine and_congr_right fun _ => ⟨?_, And.left⟩
    rintro rfl
    exact ⟨rfl, attempted, broken⟩
  faulted := by
    simp [failed, logical, Failure.ne_transport logical]
  withheld := by simp [Failure.ne_transport logical]
  attempted := by
    intro other same _
    obtain rfl := Ending.failed.inj (failed.symm.trans same)
    exact attempted
  returned := by simp [returned]

end cases

section sending

variable {σ : Type} [Transport σ] {server : Server} {handling : Handling σ}
variable {reads : List StreamEvent} {connection : Connection σ} {response : Response}
variable {report : Report} {result : HandlingResult}

/-- A response that is sent after some reads is delivered exactly if the sending succeeds. -/
theorem Ends.delivered_iff
    (ends : server.Ends handling (reads ++ (connection.send (.ofResponse response)).events) report
      result)
    (reading : ∀ operation ∈ reads, operation.isRead = true) :
    Delivered response handling.events ↔
      (connection.send (.ofResponse response)).value.1 = .ok () := by
  obtain ⟨ended, operations⟩ := ends.operations_eq
  have flushed := (connection.sending_send response).ok_iff_flushed
  constructor
  · rintro ⟨-, inside⟩
    -- A flush is neither a read nor the end of the stream, so it belongs to the sending.
    rw [operations, List.append_assoc, List.mem_append, List.mem_append] at inside
    obtain read | sent | last := inside
    · exact absurd (reading _ read) Bool.false_ne_true
    · exact flushed.mpr sent
    · cases List.mem_singleton.mp last
  · intro sent
    refine ⟨?_, ?_⟩
    · rw [ends.wire_of_reads reading]
      exact Connection.wire_send_of_ok sent
    · exact ends.mem_operations (flushed.mp sent)

/-- A response that is sent is offered. -/
theorem Ends.attempted
    (ends : server.Ends handling (reads ++ (connection.send (.ofResponse response)).events) report
      result) : Attempted response handling.events := by
  obtain ⟨outcome, later, offered⟩ :=
    (connection.sending_send response).offered response.wire_ne_nil
  refine ⟨outcome, ends.mem_operations ?_⟩
  rw [offered]
  exact List.mem_cons_self

/-- When sending a response fails a write or a flush of it went wrong. -/
theorem Ends.exists_faulty
    (ends : server.Ends handling (reads ++ (connection.send (.ofResponse response)).events) report
      result)
    (broken : (connection.send (.ofResponse response)).value.1 ≠ .ok ()) :
    ∃ operation ∈ Event.operations handling.events,
      operation.isRead = false ∧ operation.isFaulty = true := by
  have sending := connection.sending_send response
  simp only [ne_eq, sending.ok_iff_sound, Classical.not_forall, Bool.not_eq_false] at broken
  obtain ⟨operation, inside, faulty⟩ := broken
  exact ⟨operation, ends.mem_operations inside, (sending.kinds operation inside).1, faulty⟩

/-- When nothing is sent after some reads no operation writes. -/
theorem Ends.unwritten (ends : server.Ends handling (reads ++ []) report result)
    (reading : ∀ operation ∈ reads, operation.isRead = true) :
    ∀ operation ∈ Event.operations handling.events, operation.isWrite = false := by
  obtain ⟨ended, operations⟩ := ends.operations_eq
  rw [operations, List.append_nil]
  exact List.forall_mem_append.mpr
    ⟨fun operation inside => (StreamEvent.kinds_of_isRead (reading operation inside)).1,
      List.forall_mem_singleton.mpr rfl⟩

/-- The report of a handling that concludes after some reads is truthful. -/
theorem Concluded.truthful {served : Served} {sent : List StreamEvent}
    (concluded : Concluded server connection served sent report result)
    (ends : server.Ends handling (reads ++ sent) report result)
    (reading : ∀ operation ∈ reads, operation.isRead = true) :
    Truthful server served handling report := by
  cases concluded with
  | delivered done sent =>
    exact truthful_of_delivered done ((ends.delivered_iff reading).mpr sent) ends.result_eq
  | cut done sent =>
    have broken : (connection.send (.ofResponse served.response)).value.1 ≠ .ok () := by simp [sent]
    refine truthful_of_cut done (mt (ends.delivered_iff reading).mp broken) ?_
      (ends.exists_faulty broken) ends.result_eq
    rw [ends.wire_of_reads reading]
    exact connection.wire_send_prefix served.response
  | @unreachable failure failed transport =>
    obtain ⟨fault, rfl⟩ := Failure.exists_of_isTransport transport
    exact truthful_of_unreachable failed (ends.unwritten reading) ends.result_eq
  | refused failed logical sent =>
    exact truthful_of_refused failed logical ((ends.delivered_iff reading).mpr sent) ends.attempted
      ends.result_eq
  | @undelivered failure fault failed logical sent =>
    have broken : (connection.send
        (.ofResponse (server.errorResponse failure served.response))).value.1 ≠ .ok () := by
      simp [sent]
    exact truthful_of_undelivered failed logical (mt (ends.delivered_iff reading).mp broken)
      ends.attempted ends.result_eq

/-- Unless a provider breaks off, a handling makes one report, and that report is truthful. -/
theorem truthful_of_returned (server : Server) (now : HeaderDate) (connection : Connection σ)
    (peer : Option String) (returned : (server.handle now connection peer).result ≠ .aborted) :
    ∃ report, Event.reports (server.handle now connection peer).events = [report] ∧
      Truthful server (server.serve now connection peer) (server.handle now connection peer)
        report := by
  obtain ⟨sent, report, result, concluded, ends⟩ :=
    server.exists_concluded now connection peer returned
  exact ⟨report, ends.reports_eq, concluded.truthful ends connection.isRead_of_mem_readRequest⟩

/-- **What is reported is what was delivered.** Whatever the stream and the providers do, a handling
makes one report, and that report is truthful; or the provider in charge breaks off, and then
nothing is reported and nothing was delivered. -/
theorem exists_truthful_report (server : Server) (now : HeaderDate) (connection : Connection σ)
    (peer : Option String) :
    let handling := server.handle now connection peer
    (handling.result ≠ .aborted ∧ ∃ report, Event.reports handling.events = [report] ∧
        Truthful server (server.serve now connection peer) handling report) ∨
      (handling.result = .aborted ∧ server.BrokenOff now connection handling) := by
  intro handling
  by_cases broken : handling.result = .aborted
  · exact .inr ⟨broken, brokenOff_of_aborted broken⟩
  · exact .inl ⟨broken, server.truthful_of_returned now connection peer broken⟩

end sending

/-- A notice that the peer accepts whole while the flush after it fails is not reported as handled:
the report blames the stream. -/
theorem truthful_report_of_unflushed :
    let server := noticeServer .done
    let connection := noticeConnection [] [some .brokenPipe] none
    let handling := server.handle ⟨0, by decide⟩ connection none
    let report := .failed ⟨none, some .get, some "/notice"⟩ (.transport (.ofKind .brokenPipe)) none
    handling.result ≠ .aborted ∧ Event.reports handling.events = [report] ∧
      Truthful server (server.serve ⟨0, by decide⟩ connection none) handling report := by
  intro server connection handling report
  have returned : handling.result ≠ .aborted := by decide +kernel
  have reports : Event.reports handling.events = [report] := by decide +kernel
  obtain ⟨-, other, only, truthful⟩ | ⟨broken, -⟩ :=
    server.exists_truthful_report ⟨0, by decide⟩ connection none
  · obtain rfl : other = report := by
      rw [reports] at only
      exact (List.singleton_inj.mp only).symm
    exact ⟨returned, reports, truthful⟩
  · exact absurd broken returned

/-- Not every handling makes a truthful report: none is made for the page that was changed a second
before 1970. -/
theorem exists_unreported_request :
    ¬∀ (server : Server) (now : HeaderDate) (connection : Connection Script)
      (peer : Option String),
      ∃ report, Event.reports (server.handle now connection peer).events = [report] ∧
        Truthful server (server.serve now connection peer) (server.handle now connection peer)
          report := by
  intro always
  obtain ⟨report, reported, -⟩ := always agedServer ⟨0, by decide⟩ agedConnection none
  rw [brokenOff_aged.unreported] at reported
  cases reported

end Server

end OriginServer
