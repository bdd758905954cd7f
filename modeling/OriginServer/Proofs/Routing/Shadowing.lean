import OriginServer.Proofs.Files.Containment
import OriginServer.Proofs.Settings.Assembly

/-!
# Handlers before files

A server made from settings asks its handlers before its files, and a handler is found under the
very text that it is routed at. So no file is served under a text at which a handler is routed, and
a handler guards the plain spelling of a file (`handler?_of_loaded`). It does not guard the other
spellings that lead to the same file (`exists_unguarded_spelling`).
-/
namespace OriginServer

namespace FileProvider

/-- A request path spells names plainly: one slash before each of them and nothing else. -/
structure Spells (names : List Bytes) (path : String) : Prop where
  /-- The names are normal segments. -/
  normal : ∀ name ∈ names, Normal name
  /-- The path puts a slash before each name. -/
  spelled : Utf8.encode path = names.flatMap fun name => FileTree.slash :: name

/-- Names have only one plain spelling. -/
theorem Spells.unique {names : List Bytes} {path other : String} (first : Spells names path)
    (second : Spells names other) : path = other :=
  Utf8.encode_injective (first.spelled.trans second.spelled.symm)

/-- What is split at slashes begins with an empty segment if slashes stand before all names. -/
theorem splitOn_spelled {names : List Bytes} (normal : ∀ name ∈ names, Normal name) :
    (names.flatMap fun name => FileTree.slash :: name).splitOn FileTree.slash = [] :: names := by
  induction names with
  | nil => rfl
  | cons name rest ih =>
    have later := ih fun other inside => normal other (List.mem_cons_of_mem _ inside)
    have whole := Path.splitOn_append (normal name List.mem_cons_self).single later
    rw [List.flatMap_cons, List.cons_append, List.splitOn_cons_eq_if_modifyHead, whole]
    simp

/-- A path that spells names plainly has these names as its segments. -/
theorem Spells.segments {names : List Bytes} {path : String} (spells : Spells names path) :
    segments path = names := by
  rw [FileProvider.segments, spells.spelled, splitOn_spelled spells.normal, List.filter_cons_of_neg,
    List.filter_eq_self]
  · intro name inside
    have normal := spells.normal name inside
    simp [normal.nonempty, normal.notDot]
  · simp

/-- A slash before one name spells it plainly. -/
theorem spells_single {name : Bytes} {path : String} (normal : Normal name)
    (spelled : Utf8.encode path = FileTree.slash :: name) : Spells [name] path := by
  refine ⟨?_, by simpa using spelled⟩
  intro other inside
  rw [List.mem_singleton.mp inside]
  exact normal

end FileProvider

namespace Server

/-- A server made from settings with a document root asks the handlers first and then the files,
and nothing else. -/
theorem providers_of_ofSettings {settings : Settings} {handlers : HandlerProvider}
    {tree : FileTree} {server : Server} {root : String}
    (assembled : ofSettings settings handlers tree = .ok server)
    (rooted : settings.documentRoot = some root) :
    server.config.directoryIndex = settings.directoryIndex ∧
      ∃ attached : HandlerProvider, attached.handlers = handlers.handlers ∧
        server.config.providers =
          [attached.toProvider, FileProvider.toProvider ⟨Utf8.encode root, tree⟩] := by
  obtain ⟨mappings, attached, methods, notFound, forbidden, _, attachment, _, _, _, rfl⟩ :=
    ofSettings_eq_ok_iff.mp assembled
  have same := (HandlerProvider.attach_eq_ok_iff.mp attachment).2
  refine ⟨rfl, attached, by rw [same], ?_⟩
  simp [rooted]

/-- A request for a file at whose text no handler is routed is answered from the document root. -/
theorem loaded_of_unrouted {settings : Settings} {handlers : HandlerProvider} {tree : FileTree}
    {server : Server} {root : String} (assembled : ofSettings settings handlers tree = .ok server)
    (rooted : settings.documentRoot = some root) {request : Request} {target : Bytes}
    (legal : Path.isIllegal request.path = false)
    (supported : request.method ∈ server.config.supportedMethods)
    (unrouted : handlers.handler? request.path = none)
    (mapped : FileProvider.target? (Utf8.encode root) request.path = some target)
    (file : tree.hasFile target = true) (now : HeaderDate) (given : Response) :
    .loaded 1 request.path [target] ∈ (server.config.dispatch now request given).events ∧
      (server.config.dispatch now request given).ending =
        (FileProvider.load ⟨Utf8.encode root, tree⟩ request.path
          (server.config.prepare now request given)).ending := by
  obtain ⟨_, attached, sameHandlers, providers⟩ := providers_of_ofSettings assembled rooted
  have claim : FirstClaim server.config.providers request.path 1
      (FileProvider.toProvider ⟨Utf8.encode root, tree⟩) := by
    rw [providers]
    refine ⟨rfl, by simp [FileProvider.toProvider, FileProvider.claims, mapped, file], ?_⟩
    intro provider inside
    have handlersFirst : provider = attached.toProvider := by simpa using inside
    simpa [handlersFirst, HandlerProvider.toProvider, HandlerProvider.handler?, sameHandlers]
      using unrouted
  obtain ⟨called, _, ending⟩ := ServerConfig.dispatch_of_routed
    (.direct legal supported claim : Routed server.config request given
      (server.config.prepare now request given) _ _ _)
  obtain ⟨looked, loaded⟩ := exists_loaded_of_mem_calls
    (called ▸ List.mem_append_right _ (List.mem_singleton_self _))
  obtain ⟨provider, response, first, found⟩ :=
    server.config.genuine_dispatch now request given _ loaded
  have files : FileProvider.toProvider ⟨Utf8.encode root, tree⟩ = provider :=
    Option.some.inj (claim.placed.symm.trans first.placed)
  subst files
  have only : looked = [target] := found.trans (FileProvider.looked_load mapped response)
  exact ⟨only ▸ loaded, ending⟩

/-- A file that is served from the document root is the one that the segments of the loaded path
lead to, and no handler is routed at the loaded path. So if that path spells the file plainly, no
handler is routed at the plain spelling. -/
theorem handler?_of_loaded {settings : Settings} {handlers : HandlerProvider} {tree : FileTree}
    {server : Server} {root : String} (assembled : ofSettings settings handlers tree = .ok server)
    (rooted : settings.documentRoot = some root) {now : HeaderDate} {request : Request}
    {given : Response} {path : String} {looked : List Bytes}
    (loaded : .loaded 1 path looked ∈ (server.config.dispatch now request given).events) :
    (path = request.path ∨ Path.isDirectory request.path = true ∧
      ∃ name ∈ settings.directoryIndex, path = request.path ++ name) ∧
    handlers.handler? path = none ∧
    ∃ names : List Bytes, FileProvider.segments path = names ∧
      (∀ name ∈ names, FileProvider.Normal name) ∧
      looked = [names.foldl FileProvider.extend (Utf8.encode root)] ∧
      ∀ url, FileProvider.Spells names url → FileProvider.Spells names path →
        handlers.handler? url = none := by
  obtain ⟨sameIndex, attached, sameHandlers, providers⟩ := providers_of_ofSettings assembled rooted
  obtain ⟨provider, response, claim, found⟩ :=
    server.config.genuine_dispatch now request given _ loaded
  rw [providers] at claim
  have files : provider = FileProvider.toProvider ⟨Utf8.encode root, tree⟩ := by
    simpa using claim.placed.symm
  subst files
  have refused : handlers.handler? path = none := by
    have unclaimed := claim.first attached.toProvider (by simp)
    simpa [HandlerProvider.toProvider, HandlerProvider.handler?, sameHandlers] using unclaimed
  cases mapped : FileProvider.target? (Utf8.encode root) path with
  | none =>
    have granted := claim.granted
    simp [FileProvider.toProvider, FileProvider.claims, mapped] at granted
  | some target =>
    obtain ⟨normal, followed⟩ := FileProvider.target?_eq_some_iff.mp mapped
    have only : looked = [target] := found.trans (FileProvider.looked_load mapped response)
    refine ⟨sameIndex ▸ ServerConfig.loaded_path loaded, refused, _, rfl, normal,
      only.trans (congrArg (fun place => [place]) followed), ?_⟩
    intro url plain spelled
    rw [plain.unique spelled]
    exact refused

/-- Files with a report and notes below a root. -/
def reportTree : FileTree :=
  .directory [(Utf8.encode "www", .directory
    [(Utf8.encode "report.txt", .file (Utf8.encode "raw") 1700000000),
      (Utf8.encode "notes.txt", .file (Utf8.encode "notes") 1700000000)])]

/-- A handler at the plain spelling of the report. -/
def reportHandlers : HandlerProvider :=
  HandlerProvider.empty.route "/report.txt" fun _ response =>
    (response.setBody (Utf8.encode "handled"), .ok ())

/-- Settings under which the report is a file of the document root. -/
def reportSettings : Settings := { Settings.usual with documentRoot := some "www" }

/-- The server of the report and its handler. -/
def reportServer : Server :=
  { config :=
      { providers := [reportHandlers.toProvider,
          FileProvider.toProvider ⟨Utf8.encode "www", reportTree⟩]
        directoryIndex := ["index.html", "index.htm"]
        supportedMethods := [.get, .head, .post]
        keepAlive := true
        signature := usualSignature }
    pages := ⟨[.get, .head, .post], none, none⟩
    observer := Observer.logging }

/-- The server of the report comes from its settings. -/
theorem ofSettings_report :
    ofSettings reportSettings reportHandlers reportTree = .ok reportServer := rfl

/-- The notes, at which no handler is routed, are served under their plain spelling. -/
theorem handler?_of_loaded_notes :
    let request : Request := ⟨.get, "/notes.txt", none, "HTTP/1.1", .empty, []⟩
    .loaded 1 request.path [Utf8.encode "www/notes.txt"] ∈
        (reportServer.config.dispatch ⟨0, by decide⟩ request .initial).events ∧
      FileProvider.Spells [Utf8.encode "notes.txt"] request.path ∧
      reportHandlers.handler? "/notes.txt" = none := by
  intro request
  have legal : Path.isIllegal request.path = false := by decide
  have supported : request.method ∈ reportServer.config.supportedMethods := by decide
  have unrouted : reportHandlers.handler? request.path = none := rfl
  have mapped : FileProvider.target? (Utf8.encode "www") request.path =
      some (Utf8.encode "www/notes.txt") := by decide
  have file : reportTree.hasFile (Utf8.encode "www/notes.txt") = true := by decide
  obtain ⟨loaded, _⟩ := loaded_of_unrouted ofSettings_report rfl legal supported unrouted
    mapped file ⟨0, by decide⟩ .initial
  have spells : FileProvider.Spells [Utf8.encode "notes.txt"] request.path :=
    FileProvider.spells_single ⟨by decide, by decide, by decide, by decide⟩ (by decide)
  obtain ⟨_, _, names, segments, _, _, guarded⟩ :=
    handler?_of_loaded ofSettings_report rfl loaded
  have same : names = [Utf8.encode "notes.txt"] := segments.symm.trans spells.segments
  exact ⟨loaded, spells, guarded _ (same ▸ spells) (same ▸ spells)⟩

/-- A handler does not guard every spelling of a file: with a dot in the path the report is served
from the document root. -/
theorem exists_unguarded_spelling :
    ¬∀ (settings : Settings) (handlers : HandlerProvider) (tree : FileTree) (server : Server)
      (root : String), ofSettings settings handlers tree = .ok server →
      settings.documentRoot = some root → ∀ (now : HeaderDate) (request : Request)
      (given : Response) (path : String) (names : List Bytes),
      .loaded 1 path [names.foldl FileProvider.extend (Utf8.encode root)] ∈
          (server.config.dispatch now request given).events →
      (server.config.dispatch now request given).ending = .done →
      ∀ url, FileProvider.Spells names url → handlers.handler? url = none := by
  intro guarded
  let request : Request := ⟨.get, "/./report.txt", none, "HTTP/1.1", .empty, []⟩
  let now : HeaderDate := ⟨0, by decide⟩
  have legal : Path.isIllegal request.path = false := by decide
  have supported : request.method ∈ reportServer.config.supportedMethods := by decide
  have unrouted : reportHandlers.handler? request.path = none := rfl
  have mapped : FileProvider.target? (Utf8.encode "www") request.path =
      some (Utf8.encode "www/report.txt") := by decide
  have file : reportTree.hasFile (Utf8.encode "www/report.txt") = true := by decide
  obtain ⟨loaded, ending⟩ := loaded_of_unrouted ofSettings_report rfl legal supported unrouted
    mapped file now .initial
  have read : reportTree.read (Utf8.encode "www/report.txt") =
      .ok (Utf8.encode "raw", 1700000000) := rfl
  have done : (reportServer.config.dispatch now request .initial).ending = .done := by
    rw [ending, FileProvider.load, mapped]
    simp [read, FileProvider.fill, HeaderDate.ofSeconds?]
  have followed : Utf8.encode "www/report.txt" =
      [Utf8.encode "report.txt"].foldl FileProvider.extend (Utf8.encode "www") := by decide
  have spells : FileProvider.Spells [Utf8.encode "report.txt"] "/report.txt" :=
    FileProvider.spells_single ⟨by decide, by decide, by decide, by decide⟩ (by decide)
  rw [followed] at loaded
  have absent := guarded _ _ _ _ _ ofSettings_report rfl _ _ _ _ _ loaded done _ spells
  cases absent

end Server

end OriginServer
