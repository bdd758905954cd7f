import OriginServer.Files.Provider
import OriginServer.Routing.Handlers
import OriginServer.Routing.Server
import OriginServer.Settings.Basic

/-!
# Servers from settings

`Server.ofSettings` makes a server from settings and handlers. The handlers are consulted first and
get the filter mappings of the settings; the files below the document root follow, if there is one.
What is wrong is found in a fixed order: patterns, filters, methods, error documents.
-/
namespace OriginServer

/-- The configuration that settings ask for, without providers. -/
def ServerConfig.ofSettings (settings : Settings) : Except SettingsError ServerConfig := do
  return {
    providers := [], directoryIndex := settings.directoryIndex
    supportedMethods := ← settings.methods, keepAlive := settings.keepAlive
    signature := settings.signature }

/-- The document at a path, if there is one. -/
def ErrorDocuments.content (tree : FileTree) (path : Option String) :
    Except SettingsError (Option Bytes) :=
  path.mapM fun path => readDocument tree (Utf8.encode path)

namespace Server

/-- The server that settings ask for, with handlers, on the files of a system. -/
def ofSettings (settings : Settings) (handlers : HandlerProvider) (tree : FileTree) :
    Except SettingsError Server := do
  let handlers ← handlers.attach (← settings.filterMappings)
  let base ← ServerConfig.ofSettings settings
  let files := settings.documentRoot.toList.map fun root =>
    (⟨Utf8.encode root, tree⟩ : FileProvider).toProvider
  let notFound ← ErrorDocuments.content tree settings.errorDocuments.notFound
  let forbidden ← ErrorDocuments.content tree settings.errorDocuments.forbidden
  return {
    config := { base with providers := handlers.toProvider :: files }
    pages := ⟨base.supportedMethods, notFound, forbidden⟩
    observer := Observer.logging }

/-- The server that settings ask for, without handlers. There is nothing that a filter could run
before. -/
def standalone (settings : Settings) (tree : FileTree) : Except SettingsError Server :=
  match settings.filters with
  | [] => ofSettings settings .empty tree
  | declared :: _ => .error (.filterOutOfPlace declared.filter declared.included)

end Server

end OriginServer
