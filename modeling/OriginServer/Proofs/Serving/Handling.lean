import OriginServer.Proofs.Routing.Trace
import OriginServer.Proofs.Serving.Wire
import OriginServer.Routing.Server

/-!
# What handling a connection adds to dispatching

Handling a connection calls providers only while the request is dispatched
(`callEvents_handle`), and sends nothing before that. A request that is refused is answered
with its error page and nothing else (`handle_of_failed`).
-/
namespace OriginServer

namespace Event

/-- The operation on the stream that an event is. -/
def stream? : Event → Option StreamEvent
  | stream event => some event
  | _ => none

/-- The operations on the stream among some events, in order. -/
def operations (events : List Event) : List StreamEvent := events.filterMap stream?

/-- The report that an event is. -/
def report? : Event → Option Report
  | reported report => some report
  | _ => none

/-- The reports among some events, in order. -/
def reports (events : List Event) : List Report := events.filterMap report?

/-- The bytes that the peer accepted in some events, in order. -/
def wire (events : List Event) : Bytes := StreamEvent.wire (events.filterMap stream?)

/-- The bytes of some events are those of the operations among them. -/
theorem wire_eq (events : List Event) : wire events = StreamEvent.wire (operations events) := rfl

/-- The events that are calls of providers. -/
def callEvents (events : List Event) : List Event := events.filter fun event => event.call?.isSome

/-- The operations of two stretches of events follow each other. -/
@[simp]
theorem operations_append (earlier later : List Event) :
    operations (earlier ++ later) = operations earlier ++ operations later :=
  List.filterMap_append

/-- Operations on the stream are operations. -/
@[simp]
theorem operations_stream (events : List StreamEvent) :
    operations (events.map .stream) = events := by
  simp [operations, stream?, Function.comp_def]

/-- Records of a log are no operations. -/
@[simp]
theorem operations_logged (records : List LogRecord) : operations (records.map .logged) = [] := by
  simp [operations, stream?]

/-- A report is no operation. -/
@[simp]
theorem operations_cons_reported (report : Report) (rest : List Event) :
    operations (.reported report :: rest) = operations rest := rfl

/-- The reports of two stretches of events follow each other. -/
@[simp]
theorem reports_append (earlier later : List Event) :
    reports (earlier ++ later) = reports earlier ++ reports later :=
  List.filterMap_append

/-- Operations on the stream are no reports. -/
@[simp]
theorem reports_stream (events : List StreamEvent) : reports (events.map .stream) = [] := by
  simp [reports, report?]

/-- Records of a log are no reports. -/
@[simp]
theorem reports_logged (records : List LogRecord) : reports (records.map .logged) = [] := by
  simp [reports, report?]

/-- A report is the first report of what begins with it. -/
@[simp]
theorem reports_cons_reported (report : Report) (rest : List Event) :
    reports (.reported report :: rest) = report :: reports rest := rfl

/-- Without events no bytes are accepted. -/
@[simp]
theorem wire_nil : wire [] = [] := rfl

/-- The bytes of two stretches of events follow each other. -/
@[simp]
theorem wire_append (earlier later : List Event) :
    wire (earlier ++ later) = wire earlier ++ wire later := by
  simp [wire]

/-- The bytes of operations on the stream are those that they move. -/
@[simp]
theorem wire_stream (events : List StreamEvent) :
    wire (events.map .stream) = StreamEvent.wire events := by
  rw [wire_eq, operations_stream]

/-- A record of a log moves no bytes. -/
@[simp]
theorem wire_cons_logged (record : LogRecord) (rest : List Event) :
    wire (.logged record :: rest) = wire rest := rfl

/-- Without events there are no call events. -/
@[simp]
theorem callEvents_nil : callEvents [] = [] := rfl

/-- The call events of two stretches of events follow each other. -/
@[simp]
theorem callEvents_append (earlier later : List Event) :
    callEvents (earlier ++ later) = callEvents earlier ++ callEvents later :=
  List.filter_append earlier later

/-- Operations on the stream are no calls. -/
@[simp]
theorem callEvents_stream (events : List StreamEvent) : callEvents (events.map .stream) = [] := by
  simp [callEvents, call?]

/-- Records of a log are no calls. -/
@[simp]
theorem callEvents_logged (records : List LogRecord) :
    callEvents (records.map .logged) = [] := by
  simp [callEvents, call?]

/-- A record of a log is no call. -/
@[simp]
theorem callEvents_cons_logged (record : LogRecord) (rest : List Event) :
    callEvents (.logged record :: rest) = callEvents rest := rfl

/-- A report is no call. -/
@[simp]
theorem callEvents_cons_reported (report : Report) (rest : List Event) :
    callEvents (.reported report :: rest) = callEvents rest := rfl

/-- The calls are those of the call events. -/
theorem calls_eq (events : List Event) : calls events = (callEvents events).filterMap call? := by
  rw [calls, callEvents, List.filterMap_filter]
  congr
  funext event
  cases event.call? <;> rfl

/-- There are no calls exactly if there are no call events. -/
theorem calls_eq_nil_iff (events : List Event) : calls events = [] ↔ callEvents events = [] := by
  simp [calls, callEvents, List.filterMap_eq_nil_iff, List.filter_eq_nil_iff]

end Event

namespace Server

variable {σ : Type}

/-- Events put before a handling put their call events before its call events. -/
@[simp]
theorem callEvents_after (events : List Event) (handling : Handling σ) :
    Event.callEvents (after events handling).events =
      Event.callEvents events ++ Event.callEvents handling.events :=
  Event.callEvents_append events handling.events

/-- Events put before a handling put their bytes before its bytes. -/
@[simp]
theorem wire_after (events : List Event) (handling : Handling σ) :
    Event.wire (after events handling).events = Event.wire events ++ Event.wire handling.events :=
  Event.wire_append events handling.events

/-- Events put before a handling do not change its result. -/
@[simp]
theorem result_after (events : List Event) (handling : Handling σ) :
    (after events handling).result = handling.result := rfl

variable [Transport σ] {server : Server}

/-- Ending a connection keeps the result. -/
@[simp]
theorem result_conclude (connection : Connection σ) (report : Report) (result : HandlingResult) :
    (server.conclude connection report result).result = result := rfl

/-- Ending a connection calls no provider. -/
@[simp]
theorem callEvents_conclude (connection : Connection σ) (report : Report)
    (result : HandlingResult) :
    Event.callEvents (server.conclude connection report result).events = [] := by
  simp only [conclude, closingEvents, List.cons_append, Event.callEvents_cons_reported,
    Event.callEvents_append, Event.callEvents_logged, Event.callEvents_stream, List.nil_append]
  cases connection.close.value with
  | ok value => rfl
  | error fault => rfl

/-- Ending a connection ends its stream and does nothing else with it. -/
theorem operations_conclude (connection : Connection σ) (report : Report)
    (result : HandlingResult) :
    Event.operations (server.conclude connection report result).events =
      [.shutdown connection.close.value] := by
  have closing : connection.close.events = [.shutdown connection.close.value] := rfl
  simp only [conclude, closingEvents, List.cons_append, Event.operations_cons_reported,
    Event.operations_append, Event.operations_logged, Event.operations_stream, List.nil_append,
    closing]
  cases connection.close.value with
  | ok value => rfl
  | error fault => rfl

/-- Ending a connection starts with the one report. -/
theorem reports_conclude (connection : Connection σ) (report : Report) (result : HandlingResult) :
    ∃ later, (server.conclude connection report result).events = .reported report :: later ∧
      Event.reports later = [] := by
  refine ⟨(server.observer report).map .logged ++ closingEvents connection.close, rfl, ?_⟩
  simp only [closingEvents, Event.reports_append, Event.reports_logged, Event.reports_stream,
    List.nil_append]
  cases connection.close.value with
  | ok value => rfl
  | error fault => rfl

/-- Ending a connection sends nothing. -/
@[simp]
theorem wire_conclude (connection : Connection σ) (report : Report) (result : HandlingResult) :
    Event.wire (server.conclude connection report result).events = [] := by
  rw [Event.wire_eq, operations_conclude]
  rfl

/-- Answering a failure calls no provider. -/
@[simp]
theorem callEvents_fail (connection : Connection σ) (summary : RequestSummary)
    (failure : Failure) (outgoing : Outgoing) :
    Event.callEvents (server.fail connection summary failure outgoing).events = [] := by
  rw [fail, refuse]
  split
  · simp
  · split
    · simp
    · simp only [callEvents_after, Event.callEvents_stream, List.nil_append]
      split
      · simp
      · simp

/-- Delivering a response calls no provider. -/
@[simp]
theorem callEvents_deliver (connection : Connection σ) (summary : RequestSummary)
    (outgoing : Outgoing) :
    Event.callEvents (server.deliver connection summary outgoing).events = [] := by
  simp only [deliver, callEvents_after, Event.callEvents_stream, List.nil_append]
  split
  · simp
  · simp

/-- Answering a request calls the providers that dispatching it calls. -/
theorem callEvents_answer (now : HeaderDate) (connection : Connection σ) (peer : Option String)
    (request : Request) :
    Event.callEvents (server.answer now connection peer request).events =
      Event.callEvents
        (server.config.dispatch now request (initialResponse request)).events := by
  simp only [answer, callEvents_after, Event.callEvents_cons_logged]
  split
  · simp
  · simp
  · simp

/-- Providers are called only while a request that was read is dispatched. -/
theorem callEvents_handle (now : HeaderDate) (connection : Connection σ) (peer : Option String) :
    Event.callEvents (server.handle now connection peer).events =
      match connection.readRequest.value with
      | .ok request => Event.callEvents
          (server.config.dispatch now request (initialResponse request)).events
      | .error _ => [] := by
  simp only [handle, callEvents_after, Event.callEvents_stream, List.nil_append]
  cases connection.readRequest.value with
  | ok request => exact callEvents_answer now _ peer request
  | error failure => simp

/-- A request that was read causes the calls that dispatching it causes. -/
theorem calls_handle {connection : Connection σ} {request : Request}
    (received : connection.readRequest.value = .ok request) (now : HeaderDate)
    (peer : Option String) :
    calls (server.handle now connection peer).events =
      calls (server.config.dispatch now request (initialResponse request)).events := by
  rw [Event.calls_eq, callEvents_handle, received, ← Event.calls_eq]

/-- A call of a provider happens while a request that was read is dispatched. -/
theorem exists_dispatched_of_mem_handle {now : HeaderDate} {connection : Connection σ}
    {peer : Option String} {event : Event}
    (inside : event ∈ (server.handle now connection peer).events)
    (called : event.call?.isSome = true) :
    ∃ request, connection.readRequest.value = .ok request ∧
      event ∈ (server.config.dispatch now request (initialResponse request)).events := by
  have listed : event ∈ Event.callEvents (server.handle now connection peer).events :=
    List.mem_filter.mpr ⟨inside, called⟩
  rw [callEvents_handle] at listed
  cases read : connection.readRequest.value with
  | error failure => simp [read] at listed
  | ok request =>
    rw [read] at listed
    exact ⟨request, rfl, (List.mem_filter.mp listed).1⟩

/-- Dispatching a request does nothing with the stream and reports nothing. -/
theorem quiet_dispatch (config : ServerConfig) (now : HeaderDate) (request : Request)
    (response : Response) :
    Event.operations (config.dispatch now request response).events = [] ∧
      Event.reports (config.dispatch now request response).events = [] := by
  have quiet : ∀ event ∈ (config.dispatch now request response).events,
      event.stream? = none ∧ event.report? = none := by
    intro event inside
    have genuine := config.genuine_dispatch now request response event inside
    cases event with
    | stream event => exact genuine.elim
    | asked question => exact ⟨rfl, rfl⟩
    | loaded slot path looked => exact ⟨rfl, rfl⟩
    | logged record => exact ⟨rfl, rfl⟩
    | reported report => exact genuine.elim
  constructor
  · exact List.filterMap_eq_nil_iff.mpr fun event inside => (quiet event inside).1
  · exact List.filterMap_eq_nil_iff.mpr fun event inside => (quiet event inside).2

/-- Dispatching a request sends nothing. -/
theorem wire_dispatch (config : ServerConfig) (now : HeaderDate) (request : Request)
    (response : Response) : Event.wire (config.dispatch now request response).events = [] := by
  rw [Event.wire_eq, (quiet_dispatch config now request response).1, StreamEvent.wire_nil]

/-- A logical failure of a response that was not sent is answered: its page is sent, and the report
has the status of the page if that went well. -/
theorem fail_eq_of_logical {connection : Connection σ} {summary : RequestSummary}
    {failure : Failure} {response : Response} (logical : failure.isTransport = false) :
    server.fail connection summary failure (.ofResponse response) =
      let page := server.errorResponse failure response
      let sent := connection.send (.ofResponse page)
      after (sent.events.map .stream) <|
        match sent.value.1 with
        | .ok () =>
          server.conclude sent.state (.failed summary failure (some page.status)) (.failed failure)
        | .error fault =>
          after [.logged (undeliveredRecord fault)]
            (server.conclude sent.state (.failed summary failure none) (.failed failure)) := by
  have page : (Outgoing.ofResponse response).update (server.errorResponse failure) =
      .ofResponse (server.errorResponse failure response) := rfl
  -- Nothing was handed to the connection before, so the page is not skipped.
  have uncommitted : ¬(Outgoing.ofResponse response).committed = true := Bool.false_ne_true
  rw [fail, if_neg (by simp [logical]), refuse, if_neg uncommitted, page]
  dsimp only
  rw [Connection.value_send]
  cases (connection.send (.ofResponse (server.errorResponse failure response))).value.1 with
  | ok value => rfl
  | error fault => rfl

/-- A logical failure of a response that was not sent is answered with its page: what the peer
sees is what it accepts of the page. -/
theorem fail_of_logical {connection : Connection σ} {summary : RequestSummary}
    {failure : Failure} {response : Response} (logical : failure.isTransport = false) :
    (server.fail connection summary failure (.ofResponse response)).result = .failed failure ∧
      Event.wire (server.fail connection summary failure (.ofResponse response)).events =
        StreamEvent.wire
          (connection.send (.ofResponse (server.errorResponse failure response))).events := by
  rw [fail_eq_of_logical logical]
  simp only [result_after, wire_after, Event.wire_stream]
  split
  · simp
  · simp

/-- A request whose dispatch fails logically is answered with the page of the failure: what the
peer sees is what it accepts of the page. -/
theorem handle_of_failed {now : HeaderDate} {connection : Connection σ} {request : Request}
    {failure : Failure} (read : connection.readRequest.value = .ok request)
    (failed : (server.config.dispatch now request (initialResponse request)).ending =
      .failed failure)
    (logical : failure.isTransport = false) (peer : Option String) :
    (server.handle now connection peer).result = .failed failure ∧
      Event.wire (server.handle now connection peer).events =
        StreamEvent.wire (connection.readRequest.state.send (.ofResponse
          (server.errorResponse failure (server.config.dispatch now request
            (initialResponse request)).response))).events := by
  simp only [handle, read, answer, failed, result_after, wire_after, Event.wire_stream,
    Connection.wire_readRequest, Event.wire_cons_logged, wire_dispatch, List.nil_append]
  exact fail_of_logical logical

end Server

end OriginServer
