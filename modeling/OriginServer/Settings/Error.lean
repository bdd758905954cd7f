import OriginServer.Text.Utf8
import OriginServer.Text.Quoted

/-!
# What is wrong with settings

Why a server cannot be made from settings. Each cause names what it is about, and `message` puts it
into words.
-/
namespace OriginServer

/-- Why a server cannot be made from settings. -/
inductive SettingsError where
  /-- The file with the settings cannot be read as text. -/
  | unreadableFile (path : Bytes)
  /-- The file holds no settings. -/
  | malformedFile (path : Bytes)
  /-- A supported method is no token. -/
  | invalidMethod (text : String)
  /-- A pattern that says where a filter runs cannot be used. -/
  | invalidPattern (filter : String)
  /-- A mapping names a filter that is not registered. -/
  | unknownFilter (filter : String)
  /-- A document that is to replace an error page cannot be read. -/
  | unreadableDocument (path : Bytes)
  /-- A mapping names a filter where none can be registered. -/
  | filterOutOfPlace (filter included : String)
  deriving DecidableEq, Repr, Inhabited

/-- The text for people. -/
def SettingsError.message : SettingsError → String
  | unreadableFile path => "Failed to read config file " ++ Text.decodeLossy path
  | malformedFile path => "Failed to parse config file " ++ Text.decodeLossy path
  | invalidMethod text => "Invalid HTTP method " ++ Text.quoted text
  | invalidPattern filter => "Invalid pattern in filter " ++ Text.quoted filter
  | unknownFilter filter => "Filter mapping refers to unknown filter " ++ Text.quoted filter
  | unreadableDocument path => "Failed to read error document " ++ Text.decodeLossy path
  | filterOutOfPlace filter included =>
    "Configuration maps filter " ++ Text.quoted filter ++ " for " ++ Text.quoted included ++
      ", but the standalone server has no filters; filters must be registered on a " ++
      "HandlerProvider passed to dispatcher_from_settings by an application embedding wicket"

end OriginServer
