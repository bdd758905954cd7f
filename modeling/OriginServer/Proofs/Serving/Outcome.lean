import OriginServer.Files.Provider
import OriginServer.Proofs.Serving.Handling

/-!
# The outcome of handling a connection

Handling a connection has two halves. The first reads a request and dispatches it (`Server.serve`);
it sends nothing and reports nothing. The second sends the reply, if there is one, reports and ends
the connection. `Concluded` lists the five ways in which the second half can go, and
`exists_concluded` finds the one that a handling took, with all operations on the stream and the
report. A handling that does not get that far was broken off by a provider, and has only read
(`brokenOff_of_aborted`).
-/
namespace OriginServer

/-- What a request came to before anything is sent. -/
structure Served where
  /-- What is known of the request. -/
  summary : RequestSummary
  /-- The response as it was left. -/
  response : Response
  /-- How the work on it ended. -/
  ending : Ending

/-- A logical failure does not blame the stream. -/
theorem Failure.ne_transport {failure : Failure} (logical : failure.isTransport = false)
    (fault : Fault) : failure ≠ .transport fault := by
  rintro rfl
  cases logical

/-- A failure that blames the stream names a fault. -/
theorem Failure.exists_of_isTransport {failure : Failure} (transport : failure.isTransport = true) :
    ∃ fault, failure = .transport fault := by
  cases failure with
  | transport fault => exact ⟨fault, rfl⟩
  | accessDenied path => cases transport
  | methodNotAllowed method => cases transport
  | notFound path => cases transport
  | badRequest cause => cases transport
  | unclassified message => cases transport

namespace ServerConfig

variable {config : ServerConfig} {now : HeaderDate} {request : Request} {given : Response}

/-- While a request is dispatched, the provider in a slot loads a path and ends in some way. -/
structure LoadsTo (config : ServerConfig) (now : HeaderDate) (request : Request) (given : Response)
    (slot : Nat) (provider : Provider) (path : String) (ending : Ending) : Prop where
  /-- The provider stands in the slot. -/
  placed : config.providers[slot]? = some provider
  /-- The provider in the slot is called to load the path. -/
  called : .load slot path ∈ calls (config.dispatch now request given).events
  /-- The provider ends in this way. -/
  ends : (provider.load path request (config.prepare now request given)).ending = ending

/-- A provider that loads is one of those listed. -/
theorem LoadsTo.listed {slot : Nat} {provider : Provider} {path : String} {ending : Ending}
    (loads : config.LoadsTo now request given slot provider path ending) :
    provider ∈ config.providers :=
  List.mem_of_getElem? loads.placed

/-- Dispatching a request ends in a redirection, in a failure of its own, or in the way in which the
provider in charge ended. -/
theorem ending_dispatch (config : ServerConfig) (now : HeaderDate) (request : Request)
    (given : Response) :
    (config.dispatch now request given).ending = .done ∨
      (∃ failure, failure.isTransport = false ∧
        (config.dispatch now request given).ending = .failed failure) ∨
      ∃ slot provider path, config.LoadsTo now request given slot provider path
        (config.dispatch now request given).ending := by
  obtain ⟨trace, response, ending, routed⟩ :=
    exists_routed config request given (config.prepare now request given)
  obtain ⟨traced, -, ended⟩ := dispatch_of_routed routed
  rw [ended]
  cases routed with
  | denied illegal => exact .inr (.inl ⟨_, rfl, rfl⟩)
  | unsupported legal unsupported => exact .inr (.inl ⟨_, rfl, rfl⟩)
  | direct legal supported claim =>
    refine .inr (.inr ⟨_, _, request.path, claim.placed, ?_, rfl⟩)
    rw [traced]
    exact List.mem_append_right _ List.mem_cons_self
  | missing legal supported unclaimed noIndex => exact .inr (.inl ⟨_, rfl, rfl⟩)
  | @index earlier name slot provider legal supported unclaimed found directory =>
    refine .inr (.inr ⟨_, _, request.path ++ name, found.claim.placed, ?_, rfl⟩)
    rw [traced]
    exact List.mem_append_right _ List.mem_cons_self
  | redirected legal supported unclaimed found noDirectory => exact .inl rfl

/-- Only a provider breaks off or blames the stream while a request is dispatched. -/
theorem exists_load_of_ending {ending : Ending}
    (ended : (config.dispatch now request given).ending = ending) (unready : ending ≠ .done)
    (illogical : ∀ failure, ending = .failed failure → failure.isTransport = true) :
    ∃ slot provider path, config.LoadsTo now request given slot provider path ending := by
  obtain done | ⟨failure, logical, failed⟩ | ⟨slot, provider, path, loads⟩ :=
    config.ending_dispatch now request given
  · exact absurd (ended.symm.trans done) unready
  · rw [illogical failure (ended.symm.trans failed)] at logical
    cases logical
  · exact ⟨slot, provider, path, ended ▸ loads⟩

end ServerConfig

namespace Server

variable {σ : Type} [Transport σ]

/-- Read a request and dispatch it. -/
def serve (server : Server) (now : HeaderDate) (connection : Connection σ) (peer : Option String) :
    Served :=
  match connection.readRequest.value with
  | .ok request =>
    let dispatched := server.config.dispatch now request (initialResponse request)
    ⟨⟨peer, some request.method, some request.path⟩, dispatched.response, dispatched.ending⟩
  | .error failure => ⟨⟨peer, none, none⟩, .initial, .failed failure⟩

/-- What a request that was read comes to is what dispatching it comes to. -/
theorem serve_of_ok {connection : Connection σ} {request : Request}
    (received : connection.readRequest.value = .ok request) (server : Server) (now : HeaderDate)
    (peer : Option String) :
    server.serve now connection peer =
      ⟨⟨peer, some request.method, some request.path⟩,
        (server.config.dispatch now request (initialResponse request)).response,
        (server.config.dispatch now request (initialResponse request)).ending⟩ := by
  simp only [serve, received]

/-- What cannot be read comes to the failure of reading. -/
theorem serve_of_error {connection : Connection σ} {failure : Failure}
    (received : connection.readRequest.value = .error failure) (server : Server) (now : HeaderDate)
    (peer : Option String) :
    server.serve now connection peer = ⟨⟨peer, none, none⟩, .initial, .failed failure⟩ := by
  simp only [serve, received]

/-- The response that is sent in the end, if one is: the response that was made ready, or the page
of a logical failure. -/
def reply? (server : Server) (served : Served) : Option Response :=
  match served.ending with
  | .done => some served.response
  | .failed failure =>
    if failure.isTransport then none else some (server.errorResponse failure served.response)
  | .aborted => none

/-- The reply to what ended in a logical failure is the page of the failure. -/
theorem reply?_of_logical {server : Server} {served : Served} {failure : Failure}
    (failed : served.ending = .failed failure) (logical : failure.isTransport = false) :
    server.reply? served = some (server.errorResponse failure served.response) := by
  simp [reply?, failed, logical]

/-- A reply is the response of work that ended well, or the page of a logical failure. -/
theorem reply?_eq_some_iff {server : Server} {served : Served} {response : Response} :
    server.reply? served = some response ↔
      (served.ending = .done ∧ served.response = response) ∨
        ∃ failure, served.ending = .failed failure ∧ failure.isTransport = false ∧
          server.errorResponse failure served.response = response := by
  rw [reply?]
  cases served.ending with
  | done => simp
  | failed failure => simp
  | aborted => simp

/-- There is no reply to work that was broken off or that blames the stream. -/
theorem reply?_eq_none_iff {server : Server} {served : Served} :
    server.reply? served = none ↔
      served.ending = .aborted ∨ ∃ fault, served.ending = .failed (.transport fault) := by
  rw [reply?]
  cases served.ending with
  | done => simp
  | failed failure =>
    cases failure with
    | transport fault => simp [Failure.isTransport]
    | _ => simp [Failure.isTransport]
  | aborted => simp

/-- The ways in which the second half of a handling goes: what is done with the stream before it is
ended, the report and the result. -/
inductive Concluded (server : Server) (connection : Connection σ) (served : Served) :
    List StreamEvent → Report → HandlingResult → Prop where
  /-- The response is delivered. -/
  | delivered (done : served.ending = .done)
      (sent : (connection.send (.ofResponse served.response)).value.1 = .ok ()) :
      Concluded server connection served (connection.send (.ofResponse served.response)).events
        (.handled served.summary served.response.status) .ok
  /-- The stream fails while the response is sent. -/
  | cut {fault : Fault} (done : served.ending = .done)
      (sent : (connection.send (.ofResponse served.response)).value.1 = .error fault) :
      Concluded server connection served (connection.send (.ofResponse served.response)).events
        (.failed served.summary (.transport fault) none) (.failed (.transport fault))
  /-- The failure says that nothing can reach the peer: nothing is sent. -/
  | unreachable {failure : Failure} (failed : served.ending = .failed failure)
      (transport : failure.isTransport = true) :
      Concluded server connection served [] (.failed served.summary failure none) (.failed failure)
  /-- The page of a logical failure is delivered. -/
  | refused {failure : Failure} (failed : served.ending = .failed failure)
      (logical : failure.isTransport = false)
      (sent : (connection.send
        (.ofResponse (server.errorResponse failure served.response))).value.1 = .ok ()) :
      Concluded server connection served
        (connection.send (.ofResponse (server.errorResponse failure served.response))).events
        (.failed served.summary failure
          (some (server.errorResponse failure served.response).status))
        (.failed failure)
  /-- The stream fails while the page of a logical failure is sent. -/
  | undelivered {failure : Failure} {fault : Fault} (failed : served.ending = .failed failure)
      (logical : failure.isTransport = false)
      (sent : (connection.send
        (.ofResponse (server.errorResponse failure served.response))).value.1 = .error fault) :
      Concluded server connection served
        (connection.send (.ofResponse (server.errorResponse failure served.response))).events
        (.failed served.summary failure none) (.failed failure)

/-- What is sent is the reply, if there is one. -/
theorem Concluded.sent_eq {server : Server} {connection : Connection σ} {served : Served}
    {sent : List StreamEvent} {report : Report} {result : HandlingResult}
    (concluded : Concluded server connection served sent report result) :
    sent = (server.reply? served).elim [] fun response =>
      (connection.send (.ofResponse response)).events := by
  cases concluded with
  | delivered done sent => simp only [reply?, done, Option.elim]
  | cut done sent => simp only [reply?, done, Option.elim]
  | unreachable failed transport => simp only [reply?, failed, if_pos transport, Option.elim]
  | refused failed logical sent => rw [reply?_of_logical failed logical, Option.elim]
  | undelivered failed logical sent => rw [reply?_of_logical failed logical, Option.elim]

/-- When the result is a logical failure, what was served ended in that failure. -/
theorem Concluded.ending_of_logical {server : Server} {connection : Connection σ} {served : Served}
    {sent : List StreamEvent} {report : Report} {failure : Failure}
    (concluded : Concluded server connection served sent report (.failed failure))
    (logical : failure.isTransport = false) : served.ending = .failed failure := by
  cases concluded with
  | cut done sent => cases logical
  | unreachable failed transport => exact failed
  | refused failed logical sent => exact failed
  | undelivered failed logical sent => exact failed

/-- A handling does some operations, reports nothing while it does them, and then reports and ends
its connection. -/
def Ends (server : Server) (handling : Handling σ) (operations : List StreamEvent) (report : Report)
    (result : HandlingResult) : Prop :=
  ∃ before last, handling = after before (server.conclude last report result) ∧
    Event.operations before = operations ∧ Event.reports before = []

variable {server : Server} {handling : Handling σ} {operations reads sent : List StreamEvent}
variable {report : Report} {result : HandlingResult}

/-- Ending a connection needs no operation before. -/
theorem ends_conclude (server : Server) (connection : Connection σ) (report : Report)
    (result : HandlingResult) :
    server.Ends (server.conclude connection report result) [] report result :=
  ⟨[], connection, rfl, rfl, rfl⟩

/-- Events without a report put their operations before those of a handling. -/
theorem Ends.after (ends : server.Ends handling operations report result)
    {events : List Event} (unreported : Event.reports events = []) :
    server.Ends (Server.after events handling) (Event.operations events ++ operations) report
      result := by
  obtain ⟨before, last, rfl, rfl, silent⟩ := ends
  refine ⟨events ++ before, last, ?_, Event.operations_append events before, ?_⟩
  · simp [Server.after, List.append_assoc]
  · rw [Event.reports_append, unreported, silent, List.append_nil]

/-- Operations on the stream come before those of a handling. -/
theorem Ends.after_stream (ends : server.Ends handling operations report result)
    (events : List StreamEvent) :
    server.Ends (Server.after (events.map .stream) handling) (events ++ operations) report
      result := by
  have put := ends.after (Event.reports_stream events)
  rwa [Event.operations_stream] at put

/-- When nothing else is done with the stream the operations are those put first. -/
theorem Ends.after_only (ends : server.Ends handling [] report result)
    (events : List StreamEvent) :
    server.Ends (Server.after (events.map .stream) handling) events report result := by
  have put := ends.after_stream events
  rwa [List.append_nil] at put

/-- Events that do nothing with the stream and report nothing may come before. -/
theorem Ends.after_quiet (ends : server.Ends handling operations report result)
    {events : List Event} (inactive : Event.operations events = [])
    (unreported : Event.reports events = []) :
    server.Ends (Server.after events handling) operations report result := by
  have put := ends.after unreported
  rwa [inactive, List.nil_append] at put

/-- The report of a handling is its only one, and only the end of the stream comes after it. -/
theorem Ends.split (ends : server.Ends handling operations report result) :
    ∃ before later ended, handling.events = before ++ .reported report :: later ∧
      Event.reports before = [] ∧ Event.reports later = [] ∧
      Event.operations before = operations ∧ Event.operations later = [.shutdown ended] := by
  obtain ⟨before, last, rfl, rfl, silent⟩ := ends
  obtain ⟨later, conclusion, nothing⟩ := server.reports_conclude last report result
  have closing := server.operations_conclude last report result
  rw [conclusion, Event.operations_cons_reported] at closing
  refine ⟨before, later, last.close.value, ?_, silent, nothing, rfl, closing⟩
  rw [Server.after, conclusion]

/-- The operations of a handling are those before its end, then the end of the stream. -/
theorem Ends.operations_eq (ends : server.Ends handling operations report result) :
    ∃ ended, Event.operations handling.events = operations ++ [.shutdown ended] := by
  obtain ⟨before, later, ended, events, -, -, started, closing⟩ := ends.split
  refine ⟨ended, ?_⟩
  rw [events, Event.operations_append, Event.operations_cons_reported, started, closing]

/-- What is done before the end of a handling is done in it. -/
theorem Ends.mem_operations (ends : server.Ends handling (reads ++ sent) report result)
    {operation : StreamEvent} (inside : operation ∈ sent) :
    operation ∈ Event.operations handling.events := by
  obtain ⟨ended, operations⟩ := ends.operations_eq
  rw [operations, List.mem_append, List.mem_append]
  exact .inl (.inr inside)

/-- The result of a handling is the one it ends with. -/
theorem Ends.result_eq (ends : server.Ends handling operations report result) :
    handling.result = result := by
  obtain ⟨before, last, rfl, -⟩ := ends
  rfl

/-- A handling makes one report. -/
theorem Ends.reports_eq (ends : server.Ends handling operations report result) :
    Event.reports handling.events = [report] := by
  obtain ⟨before, later, ended, events, silent, nothing, -⟩ := ends.split
  rw [events, Event.reports_append, Event.reports_cons_reported, silent, nothing, List.nil_append]

/-- What the peer accepts in a handling that starts with reads it accepts after them. -/
theorem Ends.wire_of_reads (ends : server.Ends handling (reads ++ sent) report result)
    (reading : ∀ operation ∈ reads, operation.isRead = true) :
    Event.wire handling.events = StreamEvent.wire sent := by
  obtain ⟨before, last, rfl, operations, -⟩ := ends
  rw [wire_after, wire_conclude, List.append_nil, Event.wire_eq, operations,
    StreamEvent.wire_append, StreamEvent.wire_of_reads reading, List.nil_append]

/-- The delivery of a response concludes. -/
theorem exists_concluded_deliver (server : Server) (connection : Connection σ)
    (summary : RequestSummary) (response : Response) :
    ∃ sent report result,
      Concluded server connection ⟨summary, response, .done⟩ sent report result ∧
      server.Ends (server.deliver connection summary (.ofResponse response)) sent report
        result := by
  rw [deliver, Connection.value_send]
  cases sent : (connection.send (.ofResponse response)).value.1 with
  | ok value => exact ⟨_, _, _, .delivered rfl sent, (ends_conclude _ _ _ _).after_only _⟩
  | error fault => exact ⟨_, _, _, .cut rfl sent, (ends_conclude _ _ _ _).after_only _⟩

/-- The answer to a failure concludes. -/
theorem exists_concluded_fail (server : Server) (connection : Connection σ)
    (summary : RequestSummary) (failure : Failure) (response : Response) :
    ∃ sent report result,
      Concluded server connection ⟨summary, response, .failed failure⟩ sent report result ∧
      server.Ends (server.fail connection summary failure (.ofResponse response)) sent report
        result := by
  cases transport : failure.isTransport with
  | true =>
    rw [fail, if_pos transport]
    exact ⟨_, _, _, .unreachable rfl transport, ends_conclude _ _ _ _⟩
  | false =>
    rw [fail_eq_of_logical transport]
    dsimp only
    cases sent : (connection.send
      (.ofResponse (server.errorResponse failure response))).value.1 with
    | ok value =>
      exact ⟨_, _, _, .refused rfl transport sent, (ends_conclude _ _ _ _).after_only _⟩
    | error fault =>
      exact ⟨_, _, _, .undelivered rfl transport sent,
        ((ends_conclude _ _ _ _).after_quiet rfl rfl).after_only _⟩

/-- Unless a provider breaks off, the answer to a request that was read concludes. -/
theorem exists_concluded_answer (server : Server) (now : HeaderDate) (connection : Connection σ)
    (peer : Option String) (request : Request) {dispatched : Dispatched}
    (dispatching : server.config.dispatch now request (initialResponse request) = dispatched)
    (returned : dispatched.ending ≠ .aborted) :
    ∃ sent report result,
      Concluded server connection
        ⟨⟨peer, some request.method, some request.path⟩, dispatched.response, dispatched.ending⟩
        sent report result ∧
      server.Ends (server.answer now connection peer request) sent report result := by
  obtain ⟨inactive, unreported⟩ :=
    quiet_dispatch server.config now request (initialResponse request)
  rw [dispatching] at inactive unreported
  simp only [answer, dispatching]
  cases ending : dispatched.ending with
  | done =>
    obtain ⟨sent, report, result, concluded, ends⟩ := server.exists_concluded_deliver connection
      ⟨peer, some request.method, some request.path⟩ dispatched.response
    exact ⟨sent, report, result, concluded, ends.after_quiet inactive unreported⟩
  | failed failure =>
    obtain ⟨sent, report, result, concluded, ends⟩ := server.exists_concluded_fail connection
      ⟨peer, some request.method, some request.path⟩ failure dispatched.response
    exact ⟨sent, report, result, concluded, ends.after_quiet inactive unreported⟩
  | aborted => exact absurd ending returned

/-- Unless a provider breaks off, a handling reads and then concludes what reading and dispatching
came to. -/
theorem exists_concluded_of_served (server : Server) (now : HeaderDate) (connection : Connection σ)
    (peer : Option String) (returned : (server.serve now connection peer).ending ≠ .aborted) :
    ∃ sent report result,
      Concluded server connection.readRequest.state (server.serve now connection peer) sent report
        result ∧
      server.Ends (server.handle now connection peer) (connection.readRequest.events ++ sent) report
        result := by
  rw [handle]
  cases received : connection.readRequest.value with
  | error failure =>
    rw [serve_of_error received]
    obtain ⟨sent, report, result, concluded, ends⟩ :=
      server.exists_concluded_fail connection.readRequest.state ⟨peer, none, none⟩ failure .initial
    exact ⟨sent, report, result, concluded, ends.after_stream _⟩
  | ok request =>
    rw [serve_of_ok received] at returned ⊢
    obtain ⟨sent, report, result, concluded, ends⟩ :=
      server.exists_concluded_answer now connection.readRequest.state peer request rfl returned
    exact ⟨sent, report, result, concluded, ends.after_stream _⟩

/-- A handling is broken off exactly if a provider broke off while its request was dispatched. -/
theorem result_handle_eq_aborted_iff {now : HeaderDate} {connection : Connection σ}
    {peer : Option String} :
    (server.handle now connection peer).result = .aborted ↔
      (server.serve now connection peer).ending = .aborted := by
  refine ⟨fun broken => ?_, fun broken => ?_⟩
  · refine Decidable.byContradiction fun returned => ?_
    obtain ⟨sent, report, result, concluded, before, last, handling, -⟩ :=
      server.exists_concluded_of_served now connection peer returned
    rw [handling] at broken
    cases concluded <;> cases broken
  · cases received : connection.readRequest.value with
    | error failure =>
      rw [serve_of_error received] at broken
      cases broken
    | ok request =>
      rw [serve_of_ok received] at broken
      have broken : (server.config.dispatch now request (initialResponse request)).ending =
        .aborted := broken
      simp only [handle, received, answer, broken, result_after]

/-- What holds of a handling that a provider breaks off: it has read a request and dispatched it,
and that is all. -/
structure BrokenOff (server : Server) (now : HeaderDate) (connection : Connection σ)
    (handling : Handling σ) : Prop where
  /-- A request was read, and the provider in charge of it broke off. -/
  cause : ∃ request slot provider path, connection.readRequest.value = .ok request ∧
    server.config.LoadsTo now request (initialResponse request) slot provider path .aborted
  /-- On the stream there is only what reading the request does. -/
  operations : Event.operations handling.events = connection.readRequest.events
  /-- That is nothing but reads: nothing is written, and the stream is not ended. -/
  reading : ∀ operation ∈ Event.operations handling.events, operation.isRead = true
  /-- Nothing goes out to the peer. -/
  silent : Event.wire handling.events = []
  /-- Nothing is reported. -/
  unreported : Event.reports handling.events = []

/-- A handling whose result says so is broken off. -/
theorem brokenOff_of_aborted {now : HeaderDate} {connection : Connection σ} {peer : Option String}
    (broken : (server.handle now connection peer).result = .aborted) :
    server.BrokenOff now connection (server.handle now connection peer) := by
  have served := result_handle_eq_aborted_iff.mp broken
  cases received : connection.readRequest.value with
  | error failure =>
    rw [serve_of_error received] at served
    cases served
  | ok request =>
    rw [serve_of_ok received] at served
    have ending : (server.config.dispatch now request (initialResponse request)).ending =
      .aborted := served
    obtain ⟨slot, provider, path, loads⟩ :=
      ServerConfig.exists_load_of_ending ending (by simp) (by simp)
    obtain ⟨inactive, unreported⟩ :=
      quiet_dispatch server.config now request (initialResponse request)
    have events : (server.handle now connection peer).events =
        connection.readRequest.events.map .stream ++ .logged (handlingRecord request) ::
          (server.config.dispatch now request (initialResponse request)).events := by
      simp only [handle, received, answer, ending, after, List.append_nil]
    have operations : Event.operations (server.handle now connection peer).events =
        connection.readRequest.events := by
      rw [events, Event.operations_append, Event.operations_stream]
      exact (congrArg _ inactive).trans (List.append_nil _)
    refine ⟨⟨request, slot, provider, path, received, loads⟩, operations, ?_, ?_, ?_⟩
    · rw [operations]
      exact connection.isRead_of_mem_readRequest
    · rw [Event.wire_eq, operations]
      exact StreamEvent.wire_of_reads connection.isRead_of_mem_readRequest
    · rw [events, Event.reports_append, Event.reports_stream, List.nil_append]
      exact unreported

/-- A handling that is not broken off reads and then concludes what reading and dispatching came
to. -/
theorem exists_concluded (server : Server) (now : HeaderDate) (connection : Connection σ)
    (peer : Option String) (returned : (server.handle now connection peer).result ≠ .aborted) :
    ∃ sent report result,
      Concluded server connection.readRequest.state (server.serve now connection peer) sent report
        result ∧
      server.Ends (server.handle now connection peer) (connection.readRequest.events ++ sent)
        report result :=
  server.exists_concluded_of_served now connection peer
    (mt result_handle_eq_aborted_iff.mpr returned)

/-- The reply in a handling that ends in a logical failure is the page of the failure. -/
theorem reply?_of_failed {now : HeaderDate} {connection : Connection σ} {peer : Option String}
    {failure : Failure} (failed : (server.handle now connection peer).result = .failed failure)
    (logical : failure.isTransport = false) :
    server.reply? (server.serve now connection peer) =
      some (server.errorResponse failure (server.serve now connection peer).response) := by
  have returned : (server.handle now connection peer).result ≠ .aborted := by simp [failed]
  obtain ⟨sent, report, result, concluded, ends⟩ :=
    server.exists_concluded now connection peer returned
  obtain rfl := ends.result_eq.symm.trans failed
  exact reply?_of_logical (concluded.ending_of_logical logical) logical

/-- The server of one notice, the work on which ends in a given way. -/
def noticeServer (ending : Ending) : Server :=
  let notice : Provider :=
    { name := "notice"
      claims := fun path => ⟨path = "/notice", []⟩
      load := fun _ _ response => ⟨response.setBody (Utf8.encode "closed"), ending, [], []⟩ }
  { config := ServerConfig.initial.addProvider notice
    pages := default
    observer := .silent }

/-- The request for the notice. -/
def noticeRequest : Request := ⟨.get, "/notice", none, "HTTP/1.1", .empty, []⟩

/-- A connection whose peer asks for the notice, in two pieces, on a stream that treats writes,
flushes and its end as told. -/
def noticeConnection (writes : List WriteStep) (flushes : List (Option FaultKind))
    (shutdown : Option FaultKind) : Connection Script :=
  .ofStream ⟨[.bytes (Utf8.encode "GET /notice HTTP/1.1\r\n"), .bytes (Utf8.encode "\r\n")], writes,
    flushes, shutdown⟩

/-- Files below a root: one page, which was changed a second before 1970. -/
def agedFiles : FileProvider :=
  ⟨Utf8.encode "www", .directory [(Utf8.encode "www", .directory
    [(Utf8.encode "old.txt", .file (Utf8.encode "x") (-1))])]⟩

/-- The server of the aged page. -/
def agedServer : Server :=
  { config := ServerConfig.initial.addProvider agedFiles.toProvider
    pages := default
    observer := .silent }

/-- A connection whose peer asks for the aged page. -/
def agedConnection : Connection Script :=
  .ofStream (.ofBytes (Utf8.encode "GET /old.txt HTTP/1.1\r\n\r\n"))

/-- The aged page breaks the handling off. -/
theorem brokenOff_aged :
    agedServer.BrokenOff ⟨0, by decide⟩ agedConnection
      (agedServer.handle ⟨0, by decide⟩ agedConnection none) := by
  apply brokenOff_of_aborted
  decide +kernel

end Server

end OriginServer
