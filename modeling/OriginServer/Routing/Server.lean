import OriginServer.Routing.Dispatch
import OriginServer.Routing.ErrorPages
import OriginServer.Transport.Connection

/-!
# The life of a connection

`Server.handle` serves one request of a connection: it reads the request, dispatches it, sends the
response or an error page, reports the outcome once, and ends the stream. A transport fault is
only reported, since nothing can reach the peer.
-/
namespace OriginServer

/-- Everything that the handling of connections shares. -/
structure Server where
  /-- The configuration. -/
  config : ServerConfig
  /-- The error pages. -/
  pages : ErrorPages
  /-- What is logged for reports. -/
  observer : Observer
  deriving Inhabited

/-- The text that shows a server to a developer. -/
def Server.debugText (_ : Server) : String := "Dispatcher \x7b .. \x7d"

/-- How the handling of a connection ended. -/
inductive HandlingResult where
  /-- A response was delivered. -/
  | ok
  /-- The request failed. -/
  | failed (failure : Failure)
  /-- A provider broke off, and the handling with it. -/
  | aborted
  deriving DecidableEq, Inhabited

/-- The outcome of handling a connection. -/
structure Handling (σ : Type) where
  /-- How it ended. -/
  result : HandlingResult
  /-- The connection afterwards. -/
  connection : Connection σ
  /-- What happened, in order. -/
  events : List Event

namespace Server

variable {σ : Type} [Transport σ]

/-- The record of a request that was read. -/
def handlingRecord (request : Request) : LogRecord :=
  ⟨.debug, "Handling request",
    [("method", .text request.method.text), ("path", .text request.path)]⟩

/-- The record of an error page that could not be sent. -/
def undeliveredRecord (fault : Fault) : LogRecord :=
  ⟨.debug, "Could not deliver error response", [("error", .text fault.message)]⟩

/-- The record of a stream that could not be ended. -/
def closingRecord (fault : Fault) : LogRecord :=
  ⟨.debug, "Error while closing connection", [("error", .text fault.message)]⟩

/-- The events of ending a connection: the shutdown, and a record if it failed. -/
def closingEvents (closed : Activity (Connection σ) (Except Fault Unit)) : List Event :=
  closed.events.map .stream ++ match closed.value with
    | .ok () => []
    | .error fault => [.logged (closingRecord fault)]

/-- Report how a request ended, then end the connection. -/
def conclude (server : Server) (connection : Connection σ) (report : Report)
    (result : HandlingResult) : Handling σ :=
  let closed := connection.close
  ⟨result, closed.state,
    .reported report :: (server.observer report).map .logged ++ closingEvents closed⟩

/-- Put events before those of a handling. -/
def after (events : List Event) (handling : Handling σ) : Handling σ :=
  { handling with events := events ++ handling.events }

/-- The error page for a failure, as it is sent. -/
def errorResponse (server : Server) (failure : Failure) (response : Response) : Response :=
  ((server.pages.render failure response).setHeader "Server"
    server.config.signature).setKeepAlive false

/-- Answer a logical failure with its page, unless a response went out already. -/
def refuse (server : Server) (connection : Connection σ) (summary : RequestSummary)
    (failure : Failure) (outgoing : Outgoing) : Handling σ :=
  if outgoing.committed then
    server.conclude connection (.failed summary failure none) (.failed failure)
  else
    let sent := connection.send (outgoing.update (server.errorResponse failure))
    after (sent.events.map .stream) <|
      match sent.value with
      | (.ok (), page) =>
        server.conclude sent.state (.failed summary failure (some page.response.status))
          (.failed failure)
      | (.error fault, _) =>
        after [.logged (undeliveredRecord fault)]
          (server.conclude sent.state (.failed summary failure none) (.failed failure))

/-- Conclude a failed request: a transport fault is only reported, any other failure answered. -/
def fail (server : Server) (connection : Connection σ) (summary : RequestSummary)
    (failure : Failure) (outgoing : Outgoing) : Handling σ :=
  if failure.isTransport then
    server.conclude connection (.failed summary failure none) (.failed failure)
  else server.refuse connection summary failure outgoing

/-- Deliver a response that is ready. -/
def deliver (server : Server) (connection : Connection σ) (summary : RequestSummary)
    (outgoing : Outgoing) : Handling σ :=
  let sent := connection.send outgoing
  after (sent.events.map .stream) <|
    match sent.value with
    | (.ok (), outgoing) =>
      server.conclude sent.state (.handled summary outgoing.response.status) .ok
    | (.error fault, _) =>
      server.conclude sent.state (.failed summary (.transport fault) none)
        (.failed (.transport fault))

/-- The response that a request starts from: the answer to a `HEAD` request leaves out its body. -/
def initialResponse (request : Request) : Response :=
  if request.method = .head then Response.initial.setIncludeBody false else .initial

/-- Answer a request that was read from a connection. -/
def answer (server : Server) (now : HeaderDate) (connection : Connection σ) (peer : Option String)
    (request : Request) : Handling σ :=
  let summary : RequestSummary := ⟨peer, some request.method, some request.path⟩
  let dispatched := server.config.dispatch now request (initialResponse request)
  let outgoing := Outgoing.ofResponse dispatched.response
  after (.logged (handlingRecord request) :: dispatched.events) <|
    match dispatched.ending with
    | .done => server.deliver connection summary outgoing
    | .failed failure => server.fail connection summary failure outgoing
    | .aborted => ⟨.aborted, connection, []⟩

/-- Handle a connection from its first byte to its end. -/
def handle (server : Server) (now : HeaderDate) (connection : Connection σ) (peer : Option String) :
    Handling σ :=
  let received := connection.readRequest
  after (received.events.map .stream) <|
    match received.value with
    | .ok request => server.answer now received.state peer request
    | .error failure =>
      server.fail received.state ⟨peer, none, none⟩ failure (.ofResponse .initial)

end Server

end OriginServer
