import OriginServer.Proofs.Files.Lookup
import OriginServer.Proofs.Message.Method
import OriginServer.Proofs.Routing.Anchoring
import OriginServer.Proofs.Settings.Assembly

/-!
# Which settings are accepted

`Settings.Valid` says what settings have to be like, without the functions that check them, and
`Server.Assembled` what the server for valid settings consists of. `Server.Assembly` lists what can
come of settings: the server, or the first fault in the order of the checks. What comes of them is
exactly what is listed (`Server.ofSettings_eq_iff_assembly`), so a server is made exactly of valid
settings; a server without handlers is made the same way of settings that declare no filter
(`Server.accepts_valid`).
-/
namespace OriginServer

/-- All patterns of a declared filter can be used between anchors. -/
def FilterSettings.Usable (declared : FilterSettings) : Prop :=
  ∀ source ∈ declared.included :: declared.excluded.toList,
    (Pattern.compile? (Pattern.anchored source)).isSome = true

/-- The filter that is declared is registered. -/
def HandlerProvider.Registers (handlers : HandlerProvider) (declared : FilterSettings) : Prop :=
  (handlers.filter? declared.filter).isSome = true

/-- A regular file that can be read stands at a path. -/
def FileTree.Readable (tree : FileTree) (path : String) : Prop :=
  ∃ content modified, tree.read (Utf8.encode path) = .ok (content, modified)

/-- A file can be read just as well from the uppermost directory on. -/
theorem FileTree.readable_slash {tree : FileTree} {entries : List (Bytes × FileTree)}
    {path : String} (inside : tree.entries? = some entries) (named : path ≠ "")
    (short : (Utf8.encode path).length + 1 < pathLimit) :
    tree.Readable ("/" ++ path) ↔ tree.Readable path := by
  have nonempty : Utf8.encode path ≠ [] := fun empty => named (Utf8.encode_injective empty)
  have same := find_slash inside nonempty short
  simp only [Readable, read_eq_ok_iff, encode_slash, same]

/-- What settings have to be like for a server to be made of them. -/
structure Settings.Valid (settings : Settings) (handlers : HandlerProvider) (tree : FileTree) :
    Prop where
  /-- All patterns can be used. -/
  usable : ∀ declared ∈ settings.filters, declared.Usable
  /-- All filters are registered. -/
  registered : ∀ declared ∈ settings.filters, handlers.Registers declared
  /-- All methods are tokens. -/
  tokens : ∀ text ∈ settings.supportedMethods, Method.isToken text = true
  /-- The document for a missing resource can be read, if there is one. -/
  notFound : ∀ path ∈ settings.errorDocuments.notFound, tree.Readable path
  /-- The document for a refused path can be read, if there is one. -/
  forbidden : ∀ path ∈ settings.errorDocuments.forbidden, tree.Readable path

/-- What is read for the path of a document, if there is a path. -/
inductive ErrorDocuments.Loaded (tree : FileTree) : Option String → Option Bytes → Prop where
  /-- Without a path nothing is read. -/
  | unset : Loaded tree none none
  /-- The bytes of the file at the path are read. -/
  | read {path : String} {content : Bytes} {modified : Int}
      (found : tree.read (Utf8.encode path) = .ok (content, modified)) :
      Loaded tree (some path) (some content)

namespace Server

/-- What a server consists of that is made of settings, with handlers. -/
structure Assembled (settings : Settings) (handlers : HandlerProvider) (tree : FileTree)
    (server : Server) : Prop where
  /-- The handlers come first, with the mappings of the settings, in order, behind their own; the
  files below the document root follow exactly if there is one. -/
  providers : ∃ configured,
    List.Forall₂ (fun declared mapping => FilterMapping.build? declared.included declared.excluded
      declared.filter = some mapping) settings.filters configured ∧
    server.config.providers =
      { handlers with mappings := handlers.mappings ++ configured : HandlerProvider }.toProvider ::
        settings.documentRoot.toList.map fun root =>
          (⟨Utf8.encode root, tree⟩ : FileProvider).toProvider
  /-- The supported methods are those that the texts spell. -/
  supported : settings.supportedMethods.map Method.parse? = server.config.supportedMethods.map some
  /-- Error pages list the supported methods. -/
  listed : server.pages.supportedMethods = server.config.supportedMethods
  /-- The document for a missing resource is the one set. -/
  notFound : ErrorDocuments.Loaded tree settings.errorDocuments.notFound
    server.pages.notFoundDocument
  /-- The document for a refused path is the one set. -/
  forbidden : ErrorDocuments.Loaded tree settings.errorDocuments.forbidden
    server.pages.forbiddenDocument
  /-- The names of directory indexes are those set. -/
  directoryIndex : server.config.directoryIndex = settings.directoryIndex
  /-- Connections may be kept open as set. -/
  keepAlive : server.config.keepAlive = settings.keepAlive
  /-- The server calls itself as set. -/
  signature : server.config.signature = settings.signature
  /-- Reports are logged. -/
  observer : server.observer = Observer.logging

/-- What comes of settings, with handlers: the first fault, looked for in the patterns, the filters,
the methods and the two documents in this order, or a server. -/
inductive Assembly (settings : Settings) (handlers : HandlerProvider) (tree : FileTree) :
    Except SettingsError Server → Prop where
  /-- A pattern cannot be used. -/
  | pattern {declared : FilterSettings}
      (fault : FirstFault FilterSettings.Usable settings.filters declared) :
      Assembly settings handlers tree (.error (.invalidPattern declared.filter))
  /-- All patterns can be used, but a filter is not registered. -/
  | filter {declared : FilterSettings} (usable : ∀ declared ∈ settings.filters, declared.Usable)
      (fault : FirstFault handlers.Registers settings.filters declared) :
      Assembly settings handlers tree (.error (.unknownFilter declared.filter))
  /-- Patterns and filters are right, but a method is no token. -/
  | method {text : String} (usable : ∀ declared ∈ settings.filters, declared.Usable)
      (registered : ∀ declared ∈ settings.filters, handlers.Registers declared)
      (fault : FirstFault (Method.isToken · = true) settings.supportedMethods text) :
      Assembly settings handlers tree (.error (.invalidMethod text))
  /-- Only documents are wrong, and that for a missing resource is. -/
  | notFound {path : String} (usable : ∀ declared ∈ settings.filters, declared.Usable)
      (registered : ∀ declared ∈ settings.filters, handlers.Registers declared)
      (tokens : ∀ text ∈ settings.supportedMethods, Method.isToken text = true)
      (set : settings.errorDocuments.notFound = some path) (unreadable : ¬tree.Readable path) :
      Assembly settings handlers tree (.error (.unreadableDocument (Utf8.encode path)))
  /-- Only the document for a refused path is wrong. -/
  | forbidden {path : String} (usable : ∀ declared ∈ settings.filters, declared.Usable)
      (registered : ∀ declared ∈ settings.filters, handlers.Registers declared)
      (tokens : ∀ text ∈ settings.supportedMethods, Method.isToken text = true)
      (notFound : ∀ path ∈ settings.errorDocuments.notFound, tree.Readable path)
      (set : settings.errorDocuments.forbidden = some path) (unreadable : ¬tree.Readable path) :
      Assembly settings handlers tree (.error (.unreadableDocument (Utf8.encode path)))
  /-- Nothing is wrong. -/
  | server {server : Server} (valid : settings.Valid handlers tree)
      (assembled : Assembled settings handlers tree server) :
      Assembly settings handlers tree (.ok server)

end Server

/-! ## Each check by itself -/

/-- What is first at fault in a list is so in the list of what the check looks at. -/
theorem FirstFault.map {α β : Type} {passes : β → Prop} (look : α → β) {items : List α} {item : α}
    (fault : FirstFault (fun item => passes (look item)) items item) :
    FirstFault passes (items.map look) (look item) := by
  obtain ⟨⟨before, after, rfl, earlier⟩, fails⟩ := fault
  exact ⟨⟨before.map look, after.map look, by simp, List.forall_mem_map.mpr earlier⟩, fails⟩

/-- A mapping names the filter that it was built for. -/
theorem FilterMapping.filter_of_build? {included filter : String} {excluded : Option String}
    {mapping : FilterMapping} (built : build? included excluded filter = some mapping) :
    mapping.filter = filter := by
  obtain ⟨first, -, built⟩ := Option.bind_eq_some_iff.mp built
  cases excluded with
  | none =>
    cases built
    rfl
  | some source =>
    obtain ⟨second, -, built⟩ := Option.bind_eq_some_iff.mp built
    cases built
    rfl

namespace Settings

/-- Filter mappings are accepted if all patterns can be used, and otherwise refused for the first
mapping with one that cannot. -/
theorem filterMappings_checked (settings : Settings) :
    ((∀ declared ∈ settings.filters, declared.Usable) →
        ∃ mappings, settings.filterMappings = .ok mappings) ∧
      ∀ declared, FirstFault FilterSettings.Usable settings.filters declared →
        settings.filterMappings = .error (.invalidPattern declared.filter) := by
  rw [filterMappings]
  refine mapM_checked (fun declared usable => ?_) (fun declared unusable => ?_) settings.filters
  · obtain ⟨mapping, built⟩ := Option.isSome_iff_exists.mp
      ((FilterMapping.isSome_build? _ _ declared.filter).mpr usable)
    exact ⟨mapping, by rw [built]⟩
  · have unbuilt := mt (FilterMapping.isSome_build? _ _ declared.filter).mp unusable
    rw [Option.not_isSome_iff_eq_none.mp unbuilt]

/-- The mappings name the filters that are declared. -/
theorem map_filter_of_filterMappings {settings : Settings} {mappings : List FilterMapping}
    (built : settings.filterMappings = .ok mappings) :
    mappings.map (·.filter) = settings.filters.map (·.filter) := by
  rw [filterMappings_eq_ok_iff] at built
  generalize settings.filters = filters at built ⊢
  induction built with
  | nil => rfl
  | cons first later ih =>
    rw [List.map_cons, List.map_cons, ih, FilterMapping.filter_of_build? first]

/-- Methods are accepted if all texts are tokens, and otherwise refused for the first text that is
none. -/
theorem methods_checked (settings : Settings) :
    ((∀ text ∈ settings.supportedMethods, Method.isToken text = true) →
        ∃ methods, settings.methods = .ok methods) ∧
      ∀ text, FirstFault (Method.isToken · = true) settings.supportedMethods text →
        settings.methods = .error (.invalidMethod text) := by
  rw [methods]
  refine mapM_checked (fun text token => ?_) (fun text other => ?_) settings.supportedMethods
  · obtain ⟨method, spelled⟩ := Method.exists_parse?_iff.mpr token
    exact ⟨method, by rw [spelled]⟩
  · rw [Method.parse?_eq_none_iff.mpr (Bool.eq_false_iff.mpr other)]

end Settings

/-- Mappings are refused for the first filter that is not registered. -/
theorem HandlerProvider.attach_of_firstFault {handlers : HandlerProvider}
    {mappings : List FilterMapping} {name : String}
    (fault : FirstFault (fun name => (handlers.filter? name).isSome = true)
      (mappings.map (·.filter)) name) :
    handlers.attach mappings = .error (.unknownFilter name) := by
  obtain ⟨⟨before, after, listed, earlier⟩, fails⟩ := fault
  obtain ⟨first, rest, rfl, rfl, behind⟩ := List.map_eq_append_iff.mp listed
  obtain ⟨mapping, later, rfl, rfl, rfl⟩ := List.map_eq_cons_iff.mp behind
  have found : (first ++ mapping :: later).find?
      (fun mapping => (handlers.filter? mapping.filter).isNone) = some mapping := by
    refine List.find?_eq_some_iff_append.mpr ⟨by simpa using fails, first, later, rfl, ?_⟩
    simpa [Option.isSome_iff_ne_none] using earlier
  rw [attach, found]

namespace ErrorDocuments

variable {tree : FileTree}

/-- The bytes of a document that can be read are its content. -/
theorem content_of_found {path : String} {file : Bytes × Int}
    (found : tree.read (Utf8.encode path) = .ok file) :
    content tree (some path) = .ok (some file.1) := by
  simp [content, readDocument, found, Functor.map, Except.map]

/-- A document that cannot be read is refused. -/
theorem content_of_unreadable {path : String} (unreadable : ¬tree.Readable path) :
    content tree (some path) = .error (.unreadableDocument (Utf8.encode path)) := by
  cases found : tree.read (Utf8.encode path) with
  | ok file => exact absurd ⟨file.1, file.2, found⟩ unreadable
  | error cause => simp [content, readDocument, found, Functor.map, Except.map]

/-- The content of a document is what is read for its path. -/
theorem content_eq_ok_iff {path : Option String} {document : Option Bytes} :
    content tree path = .ok document ↔ Loaded tree path document := by
  constructor
  · intro accepted
    cases path with
    | none =>
      obtain rfl := Except.ok.inj accepted
      exact .unset
    | some path =>
      by_cases readable : tree.Readable path
      · obtain ⟨bytes, modified, found⟩ := readable
        rw [content_of_found found] at accepted
        obtain rfl := Except.ok.inj accepted
        exact .read found
      · rw [content_of_unreadable readable] at accepted
        cases accepted
  · intro loaded
    cases loaded with
    | unset => rfl
    | read found => exact content_of_found found

/-- What is set can be read exactly if it has a content. -/
theorem exists_content_iff {stated : Option String} :
    (∃ document, content tree stated = .ok document) ↔ ∀ path ∈ stated, tree.Readable path := by
  simp only [content_eq_ok_iff]
  constructor
  · rintro ⟨document, loaded⟩
    cases loaded with
    | unset => simp
    | read found =>
      rintro path ⟨⟩
      exact ⟨_, _, found⟩
  · intro readable
    cases stated with
    | none => exact ⟨none, .unset⟩
    | some path =>
      obtain ⟨bytes, modified, found⟩ := readable path rfl
      exact ⟨some bytes, .read found⟩

end ErrorDocuments

/-! ## All checks in order -/

namespace Server

variable {settings : Settings} {handlers : HandlerProvider} {tree : FileTree}

/-- A server that is made of settings consists of what is listed, and no other server does. -/
theorem assembled_iff {server : Server} : Assembled settings handlers tree server ↔
    ∃ mappings methods notFound forbidden, settings.filterMappings = .ok mappings ∧
      settings.methods = .ok methods ∧
      ErrorDocuments.content tree settings.errorDocuments.notFound = .ok notFound ∧
      ErrorDocuments.content tree settings.errorDocuments.forbidden = .ok forbidden ∧
      server =
        { config :=
            { providers := { handlers with
                mappings := handlers.mappings ++ mappings : HandlerProvider }.toProvider ::
                settings.documentRoot.toList.map fun root =>
                  (⟨Utf8.encode root, tree⟩ : FileProvider).toProvider
              directoryIndex := settings.directoryIndex
              supportedMethods := methods
              keepAlive := settings.keepAlive
              signature := settings.signature }
          pages := ⟨methods, notFound, forbidden⟩
          observer := Observer.logging } := by
  simp only [Settings.filterMappings_eq_ok_iff, Settings.methods_eq_ok_iff,
    ErrorDocuments.content_eq_ok_iff]
  constructor
  · intro assembled
    obtain ⟨⟨mappings, built, consulted⟩, spelled, listed, first, second, named, kept, signed,
      logged⟩ := assembled
    obtain ⟨⟨_, _, _, _, _⟩, ⟨_, _, _⟩, _⟩ := server
    dsimp only at consulted spelled listed first second named kept signed logged
    subst consulted listed named kept signed logged
    exact ⟨mappings, _, _, _, built, spelled, first, second, rfl⟩
  · rintro ⟨mappings, methods, notFound, forbidden, built, spelled, first, second, rfl⟩
    exact ⟨⟨mappings, built, rfl⟩, spelled, rfl, first, second, rfl, rfl, rfl, rfl⟩

/-- Mappings for registered filters are built and attached. -/
theorem exists_attached (usable : ∀ declared ∈ settings.filters, declared.Usable)
    (registered : ∀ declared ∈ settings.filters, handlers.Registers declared) :
    ∃ mappings, settings.filterMappings = .ok mappings ∧
      handlers.attach mappings =
        .ok { handlers with mappings := handlers.mappings ++ mappings } := by
  obtain ⟨mappings, built⟩ := settings.filterMappings_checked.1 usable
  refine ⟨mappings, built, HandlerProvider.attach_eq_ok_iff.mpr ⟨?_, rfl⟩⟩
  have names : ∀ name ∈ settings.filters.map (·.filter), (handlers.filter? name).isSome = true :=
    List.forall_mem_map.mpr registered
  rw [← Settings.map_filter_of_filterMappings built] at names
  exact List.forall_mem_map.mp names

/-- What is listed comes of settings. -/
theorem ofSettings_of_assembly {outcome : Except SettingsError Server}
    (assembly : Assembly settings handlers tree outcome) :
    ofSettings settings handlers tree = outcome := by
  cases assembly with
  | pattern fault =>
    have refused := settings.filterMappings_checked.2 _ fault
    simp [ofSettings, refused, bind, Except.bind]
  | @filter declared usable fault =>
    obtain ⟨mappings, built⟩ := settings.filterMappings_checked.1 usable
    have unknown : FirstFault (fun name => (handlers.filter? name).isSome = true)
        (settings.filters.map (·.filter)) declared.filter :=
      FirstFault.map FilterSettings.filter fault
    rw [← Settings.map_filter_of_filterMappings built] at unknown
    have refused := HandlerProvider.attach_of_firstFault unknown
    simp [ofSettings, built, refused, bind, Except.bind]
  | method usable registered fault =>
    obtain ⟨mappings, built, attached⟩ := exists_attached usable registered
    have refused := settings.methods_checked.2 _ fault
    simp [ofSettings, ServerConfig.ofSettings, built, attached, refused, bind, Except.bind]
  | notFound usable registered tokens set unreadable =>
    obtain ⟨mappings, built, attached⟩ := exists_attached usable registered
    obtain ⟨methods, accepted⟩ := settings.methods_checked.1 tokens
    have refused := ErrorDocuments.content_of_unreadable unreadable
    simp [ofSettings, ServerConfig.ofSettings, built, attached, accepted, set, refused, bind,
      Except.bind, pure, Except.pure]
  | forbidden usable registered tokens notFound set unreadable =>
    obtain ⟨mappings, built, attached⟩ := exists_attached usable registered
    obtain ⟨methods, accepted⟩ := settings.methods_checked.1 tokens
    obtain ⟨document, read⟩ := ErrorDocuments.exists_content_iff.mpr notFound
    have refused := ErrorDocuments.content_of_unreadable unreadable
    simp [ofSettings, ServerConfig.ofSettings, built, attached, accepted, read, set, refused, bind,
      Except.bind, pure, Except.pure]
  | server valid assembled =>
    obtain ⟨mappings, methods, notFound, forbidden, built, accepted, first, second, rfl⟩ :=
      assembled_iff.mp assembled
    obtain ⟨others, same, attached⟩ := exists_attached valid.usable valid.registered
    obtain rfl := Except.ok.inj (built.symm.trans same)
    exact ofSettings_eq_ok_iff.mpr ⟨mappings, _, methods, notFound, forbidden, built, attached,
      accepted, first, second, rfl⟩

/-- A server is made of valid settings. -/
theorem exists_assembled (valid : settings.Valid handlers tree) :
    ∃ server, Assembled settings handlers tree server := by
  obtain ⟨mappings, built⟩ := settings.filterMappings_checked.1 valid.usable
  obtain ⟨methods, accepted⟩ := settings.methods_checked.1 valid.tokens
  obtain ⟨notFound, first⟩ := ErrorDocuments.exists_content_iff.mpr valid.notFound
  obtain ⟨forbidden, second⟩ := ErrorDocuments.exists_content_iff.mpr valid.forbidden
  exact ⟨_, assembled_iff.mpr ⟨mappings, methods, notFound, forbidden, built, accepted, first,
    second, rfl⟩⟩

/-- Something comes of all settings. -/
theorem exists_assembly (settings : Settings) (handlers : HandlerProvider) (tree : FileTree) :
    ∃ outcome, Assembly settings handlers tree outcome := by
  by_cases usable : ∀ declared ∈ settings.filters, declared.Usable
  case neg => exact (exists_firstFault usable).imp' _ fun _ fault => .pattern fault
  by_cases registered : ∀ declared ∈ settings.filters, handlers.Registers declared
  case neg => exact (exists_firstFault registered).imp' _ fun _ fault => .filter usable fault
  by_cases tokens : ∀ text ∈ settings.supportedMethods, Method.isToken text = true
  case neg => exact (exists_firstFault tokens).imp' _ fun _ fault => .method usable registered fault
  by_cases notFound : ∀ path ∈ settings.errorDocuments.notFound, tree.Readable path
  case neg =>
    push Not at notFound
    obtain ⟨path, set, unreadable⟩ := notFound
    exact ⟨_, .notFound usable registered tokens set unreadable⟩
  by_cases forbidden : ∀ path ∈ settings.errorDocuments.forbidden, tree.Readable path
  case neg =>
    push Not at forbidden
    obtain ⟨path, set, unreadable⟩ := forbidden
    exact ⟨_, .forbidden usable registered tokens notFound set unreadable⟩
  have valid : settings.Valid handlers tree := ⟨usable, registered, tokens, notFound, forbidden⟩
  obtain ⟨server, assembled⟩ := exists_assembled valid
  exact ⟨_, .server valid assembled⟩

/-- What comes of settings is what is listed. -/
theorem ofSettings_eq_iff_assembly {outcome : Except SettingsError Server} :
    ofSettings settings handlers tree = outcome ↔ Assembly settings handlers tree outcome := by
  constructor
  · rintro rfl
    obtain ⟨outcome, assembly⟩ := exists_assembly settings handlers tree
    rwa [ofSettings_of_assembly assembly]
  · exact ofSettings_of_assembly

/-- A server that is made of settings consists of what is listed. -/
theorem assembled_of_eq_ok {server : Server}
    (made : ofSettings settings handlers tree = .ok server) :
    Assembled settings handlers tree server := by
  cases ofSettings_eq_iff_assembly.mp made with
  | server valid assembled => exact assembled

/-- **A server is made exactly of valid settings.** What comes of settings, with handlers, is the
server that is put together from them, or the first fault in the order of the checks: patterns and
then filters in the order in which they are declared, methods in the order in which they are
listed, the document for a missing resource, the document for a refused path. So a server is made
exactly if nothing is wrong. Without handlers, settings that declare a filter are refused for the
first one, whatever else is wrong with them; of any others comes what comes of them with no
handlers registered. -/
theorem accepts_valid (settings : Settings) (handlers : HandlerProvider) (tree : FileTree) :
    (∀ outcome, ofSettings settings handlers tree = outcome ↔
      Assembly settings handlers tree outcome) ∧
    ((∃ server, ofSettings settings handlers tree = .ok server) ↔
      settings.Valid handlers tree) ∧
    (∀ declared later, settings.filters = declared :: later →
      standalone settings tree = .error (.filterOutOfPlace declared.filter declared.included)) ∧
    (settings.filters = [] → ∀ outcome, standalone settings tree = outcome ↔
      Assembly settings .empty tree outcome) := by
  refine ⟨fun outcome => ofSettings_eq_iff_assembly, ?_, ?_, ?_⟩
  · simp only [ofSettings_eq_iff_assembly]
    constructor
    · rintro ⟨server, assembly⟩
      cases assembly with
      | server valid assembled => exact valid
    · intro valid
      obtain ⟨server, assembled⟩ := exists_assembled valid
      exact ⟨server, .server valid assembled⟩
  · intro declared later filtered
    rw [standalone, filtered]
  · intro unfiltered outcome
    rw [← ofSettings_eq_iff_assembly, standalone, unfiltered]

/-- Settings with two texts that are no tokens and a document that is not there. -/
def faultySettings : Settings :=
  { Settings.usual with
    supportedMethods := ["GET", "NO TOKEN", ""]
    errorDocuments := ⟨some "missing.html", none⟩ }

/-- Settings with a document that is named from the uppermost directory on. -/
def documentedSettings : Settings :=
  { Settings.usual with errorDocuments := ⟨some "/pages/missing.html", none⟩ }

/-- The directory with this document. -/
def documentTree : FileTree :=
  .directory [(Utf8.encode "pages", .directory
    [(Utf8.encode "missing.html", .file (Utf8.encode "gone") 0)])]

/-- The document is found there. -/
theorem valid_documentedSettings : documentedSettings.Valid .empty documentTree where
  usable := by simp [documentedSettings, Settings.usual]
  registered := by simp [documentedSettings, Settings.usual]
  tokens := by decide +kernel
  notFound := by
    intro path stated
    obtain rfl := Option.mem_some.mp stated
    exact ⟨Utf8.encode "gone", 0, by decide +kernel⟩
  forbidden := by simp [documentedSettings]

/-- Of several faults the one looked for first is reported, and within a list the first one; a
declared filter stands in the way of all others where no handlers are. A document that is named from
the uppermost directory on is no fault. -/
theorem accepts_valid_faulty :
    ofSettings faultySettings .empty .empty = .error (.invalidMethod "NO TOKEN") ∧
      ¬faultySettings.Valid .empty .empty ∧
      standalone { faultySettings with filters := [⟨"(", none, "guard"⟩] } .empty =
        .error (.filterOutOfPlace "guard" "(") ∧
      ∃ server, ofSettings documentedSettings .empty documentTree = .ok server := by
  have fault : FirstFault (Method.isToken · = true) faultySettings.supportedMethods "NO TOKEN" :=
    ⟨⟨["GET"], [""], rfl, by decide +kernel⟩, by decide +kernel⟩
  have refused := ((accepts_valid faultySettings .empty .empty).1 _).mpr
    (.method (by simp [faultySettings, Settings.usual]) (by simp [faultySettings, Settings.usual])
      fault)
  refine ⟨refused, ?_, ?_, ?_⟩
  · rw [← (accepts_valid faultySettings .empty .empty).2.1]
    rintro ⟨server, made⟩
    cases refused.symm.trans made
  · exact (accepts_valid { faultySettings with filters := [⟨"(", none, "guard"⟩] } .empty
      .empty).2.2.1 _ [] rfl
  · exact (accepts_valid documentedSettings .empty documentTree).2.1.mpr valid_documentedSettings

end Server

end OriginServer
