import OriginServer.Routing.Filter
import OriginServer.Routing.ServerConfig
import OriginServer.Settings.Error

/-!
# Settings

What an operator can set, each part with a value that holds unless it is set. Methods and patterns
are kept as texts here; `methods` and `filterMappings` check them.
-/
namespace OriginServer

/-- The documents that replace error pages, by their paths. -/
structure ErrorDocuments where
  /-- The document for a missing resource. -/
  notFound : Option String
  /-- The document for a refused path. -/
  forbidden : Option String
  deriving DecidableEq, Repr, Inhabited

/-- For which paths a filter is to run. -/
structure FilterSettings where
  /-- The pattern of the paths. -/
  included : String
  /-- The pattern of the exceptions. -/
  excluded : Option String
  /-- The name of the filter. -/
  filter : String
  deriving DecidableEq, Repr, Inhabited

/-- What an operator can set. -/
structure Settings where
  /-- The address to listen at. -/
  listenAddress : String
  /-- Whether connections may be kept open. -/
  keepAlive : Bool
  /-- How the server calls itself. -/
  signature : String
  /-- The methods that are not refused. -/
  supportedMethods : List String
  /-- The names of directory indexes, in order of trial. -/
  directoryIndex : List String
  /-- The directory whose files are served. -/
  documentRoot : Option String
  /-- The documents that replace error pages. -/
  errorDocuments : ErrorDocuments
  /-- For which paths filters run. -/
  filters : List FilterSettings
  deriving DecidableEq, Repr, Inhabited

namespace Settings

/-- The settings that hold unless others are given. -/
def usual : Settings :=
  { listenAddress := "127.0.0.1:8080", keepAlive := true, signature := usualSignature
    supportedMethods := ["GET", "HEAD", "POST"], directoryIndex := ["index.html", "index.htm"]
    documentRoot := none, errorDocuments := ⟨none, none⟩, filters := [] }

/-- The supported methods. Each has to be a token; the error is about the first that is not. -/
def methods (settings : Settings) : Except SettingsError (List Method) :=
  settings.supportedMethods.mapM fun text =>
    match Method.parse? text with
    | some method => .ok method
    | none => .error (.invalidMethod text)

/-- The filter mappings. Each pattern has to be usable; the error is about the first mapping with
one that is not. -/
def filterMappings (settings : Settings) : Except SettingsError (List FilterMapping) :=
  settings.filters.mapM fun declared =>
    match FilterMapping.build? declared.included declared.excluded declared.filter with
    | some mapping => .ok mapping
    | none => .error (.invalidPattern declared.filter)

end Settings

end OriginServer
