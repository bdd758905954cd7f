import OriginServer.Routing.Provider
import OriginServer.Text.Quoted

/-!
# Server configuration

What all connections share: the providers in the order in which they are consulted, the names of
directory indexes, the supported methods, and what is said of the server.
-/
namespace OriginServer

/-- How the server calls itself unless told otherwise. -/
def usualSignature : String := "wicket/0.1.0"

/-- The configuration that is shared by all connections. -/
structure ServerConfig where
  /-- The providers, in order of consultation. -/
  providers : List Provider
  /-- The names of directory indexes, in order of trial. -/
  directoryIndex : List String
  /-- The methods that are not refused. -/
  supportedMethods : List Method
  /-- Whether connections may be kept open. -/
  keepAlive : Bool
  /-- How the server calls itself. -/
  signature : String
  deriving Inhabited

namespace ServerConfig

/-- The configuration before anything is set: no providers, and `GET` and `HEAD` supported. -/
def initial : ServerConfig :=
  { providers := [], directoryIndex := [], supportedMethods := [.get, .head], keepAlive := true,
    signature := usualSignature }

/-- Add a provider; those added before are consulted first. -/
def addProvider (config : ServerConfig) (provider : Provider) : ServerConfig :=
  { config with providers := config.providers ++ [provider] }

/-- Whether a method is supported. -/
def supports (config : ServerConfig) (method : Method) : Bool :=
  config.supportedMethods.contains method

/-- The text that shows a method to a developer. -/
def methodText : Method → String
  | .extension token => "Extension(" ++ Text.quoted token ++ ")"
  | method => method.text

/-- The text that shows a configuration to a developer. -/
def debugText (config : ServerConfig) : String :=
  "ServerConfig \x7b providers: " ++
    Text.bracketed (config.providers.map fun provider => Text.quoted provider.name) ++
    ", directory_index: " ++ Text.bracketed (config.directoryIndex.map Text.quoted) ++
    ", supported_methods: " ++ Text.bracketed (config.supportedMethods.map methodText) ++
    ", keep_alive: " ++ toString config.keepAlive ++
    ", signature: " ++ Text.quoted config.signature ++ " \x7d"

end ServerConfig

end OriginServer
