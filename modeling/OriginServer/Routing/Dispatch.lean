import OriginServer.Message.HeaderDate
import OriginServer.Routing.Index
import OriginServer.Routing.Report
import OriginServer.Routing.ServerConfig
import OriginServer.Transport.Basic

/-!
# Dispatching requests

`ServerConfig.dispatch` answers a request that was read: it refuses illegal paths and unsupported
methods, hands the request to the provider in charge of its path, falls back to a directory index,
and redirects to the directory form where only that is served. What happens on the way is recorded
as a list of `Event`s, which the life of a connection extends.
-/
namespace OriginServer

/-- What happens while a connection is served. -/
inductive Event where
  /-- An operation on the stream. -/
  | stream (event : StreamEvent)
  /-- A provider was asked whether it claims a path. -/
  | asked (question : Question)
  /-- The provider at a place was told to load a path, looking at paths of the file system. -/
  | loaded (slot : Nat) (path : String) (looked : List Bytes)
  /-- Something was logged. -/
  | logged (record : LogRecord)
  /-- The observer was told how the request ended. -/
  | reported (report : Report)

/-- The outcome of dispatching a request. -/
structure Dispatched where
  /-- The response as it was left. -/
  response : Response
  /-- How the work ended. -/
  ending : Ending
  /-- What happened, in order. -/
  events : List Event

namespace ServerConfig

/-- The response with the headers and the flag that every routed request starts from. -/
def prepare (config : ServerConfig) (now : HeaderDate) (request : Request) (response : Response) :
    Response :=
  ((response.setKeepAlive (config.keepAlive && request.wantsKeepAlive)).setHeader "Server"
    config.signature).setHeader "Date" now.format

/-- Let the provider at a place load a path. -/
def loadFrom (slot : Nat) (provider : Provider) (path : String) (request : Request)
    (response : Response) : Dispatched :=
  let rendering := provider.load path request response
  ⟨rendering.response, rendering.ending,
    .loaded slot path rendering.looked :: rendering.log.map .logged⟩

/-- The record of a provider found for a path. -/
def resolvedRecord (provider : Provider) (path : String) : LogRecord :=
  ⟨.trace, "Resolved provider", [("provider", .text provider.name), ("path", .text path)]⟩

/-- The record of an index that is served. -/
def indexRecord (found : IndexMatch) : LogRecord :=
  ⟨.trace, "Serving directory index",
    [("provider", .text found.provider.name), ("index", .text found.path)]⟩

/-- Put events before those of a dispatch. -/
def after (events : List Event) (dispatched : Dispatched) : Dispatched :=
  { dispatched with events := events ++ dispatched.events }

/-- Answer a request whose path no provider claims. -/
def dispatchIndex (config : ServerConfig) (request : Request) (response : Response) : Dispatched :=
  let resolution := resolveIndex config.providers config.directoryIndex request.path
  after (resolution.questions.map .asked) <|
    match resolution.found with
    | none => ⟨response, .failed (.notFound request.path), []⟩
    | some found =>
      if Path.isDirectory request.path then
        after [.logged (indexRecord found)]
          (loadFrom found.slot found.provider found.path request response)
      else ⟨response.redirectPermanent (request.path ++ "/"), .done, []⟩

/-- Answer a request with a legal path and a supported method. -/
def route (config : ServerConfig) (request : Request) (response : Response) : Dispatched :=
  let resolution := resolve config.providers request.path
  after (resolution.questions.map .asked) <|
    match resolution.found with
    | some (slot, provider) =>
      after [.logged (resolvedRecord provider request.path)]
        (loadFrom slot provider request.path request response)
    | none => config.dispatchIndex request response

/-- Answer a request, starting from a response. -/
def dispatch (config : ServerConfig) (now : HeaderDate) (request : Request) (response : Response) :
    Dispatched :=
  if Path.isIllegal request.path then ⟨response, .failed (.accessDenied request.path), []⟩
  else if !config.supports request.method then
    ⟨response, .failed (.methodNotAllowed request.method), []⟩
  else config.route request (config.prepare now request response)

end ServerConfig

end OriginServer
