import OriginServer.Files.Tree
import OriginServer.Settings.Document

/-!
# Loading settings

Settings come from a file that is named by the caller or by the environment; where neither names
one, the usual settings hold. In any case the environment can set the address to listen at.
-/
namespace OriginServer

/-- What is taken from the environment. -/
structure Environment where
  /-- The path of the file with the settings. -/
  configPath : Option Bytes
  /-- The address to listen at. It does not count if it is no text. -/
  listenAddress : Option Bytes
  deriving DecidableEq, Repr, Inhabited

namespace Settings

/-- The settings in a file. -/
def ofFile (tree : FileTree) (path : Bytes) : Except SettingsError Settings :=
  match tree.read path with
  | .error _ => .error (.unreadableFile path)
  | .ok (content, _) =>
    match Utf8.decode? content with
    | none => .error (.unreadableFile path)
    | some text =>
      match ofText? text with
      | none => .error (.malformedFile path)
      | some settings => .ok settings

/-- The settings from the file at a path, or from the one that the environment names. -/
def load (tree : FileTree) (environment : Environment) (path : Option Bytes) :
    Except SettingsError Settings := do
  let settings ← match path <|> environment.configPath with
    | some path => ofFile tree path
    | none => .ok usual
  return { settings with
    listenAddress :=
      (environment.listenAddress.bind Utf8.decode?).getD settings.listenAddress }

end Settings

end OriginServer
