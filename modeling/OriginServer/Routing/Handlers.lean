import OriginServer.Routing.Filter
import OriginServer.Routing.Provider
import OriginServer.Settings.Error

/-!
# Handlers

A handler answers the requests for exactly one path. Before it, the filters run whose mappings apply
to the path, in the order of the mappings; a filter that stops or fails ends the chain. Registering
a handler or a filter again replaces the one before.
-/
namespace OriginServer

/-- A handler: it changes a response, or fails. -/
abbrev Handler := Request → Response → Response × Except Failure Unit

/-- Handlers by path, filters by name, and the mappings of filters to paths. -/
structure HandlerProvider where
  /-- The handlers, the one registered last first. -/
  handlers : List (String × Handler)
  /-- The filters, the one registered last first. -/
  filters : List (String × Filter)
  /-- The mappings, in the order in which they apply. -/
  mappings : List FilterMapping
  deriving Inhabited

namespace HandlerProvider

/-- The provider without handlers. -/
def empty : HandlerProvider := ⟨[], [], []⟩

/-- Register a handler for a path. -/
def route (provider : HandlerProvider) (path : String) (handler : Handler) : HandlerProvider :=
  { provider with handlers := (path, handler) :: provider.handlers }

/-- Register a filter under a name. -/
def addFilter (provider : HandlerProvider) (name : String) (filter : Filter) : HandlerProvider :=
  { provider with filters := (name, filter) :: provider.filters }

/-- The handler for a path. -/
def handler? (provider : HandlerProvider) (path : String) : Option Handler :=
  provider.handlers.lookup path

/-- The filter with a name. -/
def filter? (provider : HandlerProvider) (name : String) : Option Filter :=
  provider.filters.lookup name

/-- Attach mappings. The filter of each has to be registered; the error is about the first one that
is not. -/
def attach (provider : HandlerProvider) (mappings : List FilterMapping) :
    Except SettingsError HandlerProvider :=
  match mappings.find? fun mapping => (provider.filter? mapping.filter).isNone with
  | some mapping => .error (.unknownFilter mapping.filter)
  | none => .ok { provider with mappings := provider.mappings ++ mappings }

/-- The mappings that apply to a path, in order. -/
def mappingsFor (provider : HandlerProvider) (path : String) : List FilterMapping :=
  provider.mappings.filter (·.applies path)

/-- The record of a filter that stopped a request. -/
def stoppedRecord (mapping : FilterMapping) (path : String) : LogRecord :=
  ⟨.debug, "Filter stopped the chain",
    [("filter", .text mapping.filter), ("path", .text path)]⟩

/-- Run the filters of some mappings, then a handler. -/
def runChain (provider : HandlerProvider) (path : String) (request : Request)
    (handler : Handler) : List FilterMapping → Response → Rendering
  | [], response =>
    match handler request response with
    | (response, .ok ()) => ⟨response, .done, [], []⟩
    | (response, .error failure) => ⟨response, .failed failure, [], []⟩
  | mapping :: rest, response =>
    match provider.filter? mapping.filter with
    | none => provider.runChain path request handler rest response
    | some filter =>
      match filter request response with
      | (response, .ok .proceed) => provider.runChain path request handler rest response
      | (response, .ok .stop) => ⟨response, .done, [stoppedRecord mapping path], []⟩
      | (response, .error failure) => ⟨response, .failed failure, [], []⟩

/-- Answer a request for a path. -/
def load (provider : HandlerProvider) (path : String) (request : Request) (response : Response) :
    Rendering :=
  match provider.handler? path with
  | none => ⟨response, .failed (.notFound path), [], []⟩
  | some handler =>
    provider.runChain path request handler (provider.mappingsFor path) response

/-- The handlers as one of the providers of a server. -/
def toProvider (provider : HandlerProvider) : Provider :=
  { name := "handlers", claims := fun path => ⟨(provider.handler? path).isSome, []⟩
    load := provider.load }

end HandlerProvider

end OriginServer
