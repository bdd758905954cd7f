import Mathlib.Control.Monad.Basic
import OriginServer.Proofs.Files.Loading
import OriginServer.Proofs.Message.Framing
import OriginServer.Proofs.Message.Method
import OriginServer.Proofs.Path.Escapes
import OriginServer.Proofs.Serving.Answering
import OriginServer.Proofs.Serving.Willing
import OriginServer.Proofs.Settings.Assembly

/-!
# What a standalone server sends

A server without handlers sets header fields from its signature, from dates, media types and
methods, and from paths that are legal; none of these holds a line break or a NUL, and nothing else
of a request gets into a head. So everything that it sends is one well-framed message
(`Server.standalone_wellFramed`).
-/
namespace OriginServer

open Text (Plain)

/-! ## Plain values of header fields -/

/-- A legal path is plain. -/
theorem Path.plain_of_legal {path : String} (legal : Path.isIllegal path = false) : Plain path := by
  obtain ⟨-, clean, -⟩ := (Path.isIllegal_eq_false_iff path).mp legal
  intro char inside
  have printable := (clean char inside).1
  refine ⟨?_, ?_, ?_⟩ <;> rintro rfl <;> cases printable

/-- A method that is made from a token is plain. -/
theorem Method.plain_of_parse? {token : String} {method : Method}
    (parsed : Method.parse? token = some method) : Plain method.text := by
  have spelled := Method.parse?_eq_some_iff.mp parsed
  have valid := (Method.isToken_iff.mp spelled.valid).2
  rw [spelled.text]
  intro char inside
  refine ⟨?_, ?_, ?_⟩ <;> rintro rfl <;> exact absurd (valid _ inside) (by decide)

/-- Methods that texts spell are plain. -/
theorem Method.plain_of_spelled {texts : List String} {methods : List Method}
    (spelled : texts.map parse? = methods.map some) : ∀ method ∈ methods, Plain method.text := by
  intro method listed
  obtain ⟨token, -, parsed⟩ := exists_spelling spelled listed
  exact plain_of_parse? parsed

/-! ## Responses with plain header fields -/

namespace Response

/-- The answer to a request starts without headers, and leaves out its body if the request is a
`HEAD` request. -/
theorem fit_initialResponse (request : Request) :
    (Server.initialResponse request).Fit (decide (request.method ≠ .head)) := by
  rw [Server.initialResponse]
  split
  · rename_i head
    exact ⟨by decide, by simp [head, setIncludeBody]⟩
  · rename_i other
    exact ⟨by decide, by simp [other, initial, ofStatus]⟩

end Response

/-- A provider that keeps the header fields of a response plain, and leaves it to the request
whether the body is sent. -/
def Provider.Tidy (provider : Provider) : Prop :=
  ∀ (included : Bool) (path : String) (request : Request) (response : Response),
    response.Fit included → (provider.load path request response).response.Fit included

/-- Handlers that are not there change nothing. -/
theorem HandlerProvider.tidy_empty : HandlerProvider.empty.toProvider.Tidy :=
  fun _ _ _ _ fit => fit

namespace FileProvider

/-- A file was changed at an instant that has no date. -/
def Undated (provider : FileProvider) (path : String) : Prop :=
  ∃ target content modified, target? provider.root path = some target ∧
    provider.tree.read target = .ok (content, modified) ∧ HeaderDate.ofSeconds? modified = none

/-- Loading a file ends well, or in a logical failure, or breaks off because the file has no
date. -/
theorem ending_load (provider : FileProvider) (path : String) (response : Response) :
    (provider.load path response).ending = .done ∨
      (∃ failure, failure.isTransport = false ∧
        (provider.load path response).ending = .failed failure) ∨
      (provider.load path response).ending = .aborted ∧ provider.Undated path := by
  obtain ⟨changes, ending, loads, loaded⟩ := provider.exists_loads path
  rw [(loaded response).2]
  cases loads with
  | unmapped nowhere => exact .inr (.inl ⟨_, rfl, rfl⟩)
  | unread mapped unread => exact .inr (.inl ⟨_, logical_lookupFailure _ _ _, rfl⟩)
  | undated mapped found undated => exact .inr (.inr ⟨rfl, _, _, _, mapped, found, undated⟩)
  | filled mapped found dated => exact .inl rfl

/-- The file provider keeps responses plain. -/
theorem tidy_toProvider (provider : FileProvider) : provider.toProvider.Tidy := by
  intro included path request response fit
  obtain ⟨changes, ending, loads, loaded⟩ := provider.exists_loads path
  change (provider.load path response).response.Fit included
  rw [(loaded response).1]
  have typed : ∀ target, ((response.setStatus .ok).setHeader "Content-Type"
      (MediaType.ofPath target)).Fit included :=
    fun target => (fit.setStatus .ok).setHeader (by decide +kernel) (MediaType.plain_ofPath target)
  cases loads with
  | unmapped nowhere => exact fit
  | unread mapped unread => exact fit
  | undated mapped found undated => exact typed _
  | filled mapped found dated =>
    exact ((typed _).setHeader (by decide +kernel) (HeaderDate.plain_format _)).setBody _

end FileProvider

namespace ServerConfig

/-- Dispatching a request keeps the response plain, if the signature is plain and every provider
keeps responses plain. -/
theorem fit_dispatch {config : ServerConfig} (signed : Plain config.signature)
    (tidy : ∀ provider ∈ config.providers, provider.Tidy) (now : HeaderDate) (request : Request)
    {given : Response} {included : Bool} (fit : given.Fit included) :
    (config.dispatch now request given).response.Fit included := by
  have prepared : (config.prepare now request given).Fit included :=
    ((fit.setKeepAlive _).setHeader (by decide +kernel) signed).setHeader (by decide +kernel)
      now.plain_format
  obtain ⟨trace, response, ending, routed⟩ :=
    exists_routed config request given (config.prepare now request given)
  rw [(dispatch_of_routed routed).2.1]
  cases routed with
  | denied illegal => exact fit
  | unsupported legal unsupported => exact fit
  | direct legal supported claim =>
    exact tidy _ (List.mem_of_getElem? claim.placed) included _ request _ prepared
  | missing legal supported unclaimed noIndex => exact prepared
  | index legal supported unclaimed found directory =>
    exact tidy _ (List.mem_of_getElem? found.claim.placed) included _ request _ prepared
  | redirected legal supported unclaimed found noDirectory =>
    have location : Plain (request.path ++ "/") :=
      Text.plain_append_iff.mpr ⟨Path.plain_of_legal legal, by decide +kernel⟩
    exact prepared.redirectPermanent location

end ServerConfig

namespace Server

/-- An error page with a plain signature and a plain list of methods is plain, whatever it
replaces. -/
theorem fit_errorResponse {server : Server} (signed : Plain server.config.signature)
    (listed : ∀ method ∈ server.pages.supportedMethods, Plain method.text) (failure : Failure)
    {response : Response} {included : Bool} (sent : response.includeBody = included) :
    (server.errorResponse failure response).Fit included := by
  have typed := ((Response.fit_reset sent).setStatus (ErrorPages.status failure)).setHeader
    (by decide +kernel : Plain "Content-Type")
    (by decide +kernel : Plain "text/html; charset=utf-8")
  have methods : Plain server.pages.allowList :=
    Text.plain_intercalate (by decide +kernel) (List.forall_mem_map.mpr listed)
  have rendered : (server.pages.render failure response).Fit included := by
    cases failure with
    | methodNotAllowed method =>
      exact (typed.setBody _).setHeader (by decide +kernel : Plain "Allow") methods
    | _ => exact typed.setBody _
  exact (rendered.setHeader (by decide +kernel : Plain "Server") signed).setKeepAlive false

/-! ## Servers without handlers -/

/-- What a server without handlers consists of: the signature and the methods of its settings, no
handlers, and the files below the document root, if there is one. -/
structure Standalone (settings : Settings) (tree : FileTree) (server : Server) : Prop where
  /-- The server has the signature of its settings. -/
  signature : server.config.signature = settings.signature
  /-- The supported methods are those that the texts of the settings spell. -/
  supported : settings.supportedMethods.map Method.parse? = server.config.supportedMethods.map some
  /-- Error pages list the supported methods. -/
  methods : server.pages.supportedMethods = server.config.supportedMethods
  /-- The providers are handlers, of which there are none, and files. -/
  providers : ∀ provider ∈ server.config.providers,
    provider = HandlerProvider.empty.toProvider ∨
      ∃ root, settings.documentRoot = some root ∧
        provider = (⟨Utf8.encode root, tree⟩ : FileProvider).toProvider

/-- A server that is made without handlers consists of these parts. -/
theorem standalone_of_eq_ok {settings : Settings} {tree : FileTree} {server : Server}
    (made : standalone settings tree = .ok server) : Standalone settings tree server := by
  rw [standalone] at made
  split at made
  · rename_i unfiltered
    obtain ⟨mappings, attached, methods, notFound, forbidden, mapped, attachment, valid, -, -,
      rfl⟩ := ofSettings_eq_ok_iff.mp made
    have none : mappings = [] := by
      rw [Settings.filterMappings, unfiltered] at mapped
      exact (Except.ok.inj mapped).symm
    subst none
    obtain rfl := (HandlerProvider.attach_eq_ok_iff.mp attachment).2
    refine ⟨rfl, Settings.methods_eq_ok_iff.mp valid, rfl, ?_⟩
    intro provider listed
    cases listed with
    | head => exact .inl rfl
    | tail _ listed =>
      obtain ⟨root, rooted, rfl⟩ := List.mem_map.mp listed
      exact .inr ⟨root, Option.mem_toList.mp rooted, rfl⟩
  · cases made

/-- The methods that error pages list are plain. -/
theorem Standalone.plain_methods {settings : Settings} {tree : FileTree} {server : Server}
    (standalone : Standalone settings tree server) :
    ∀ method ∈ server.pages.supportedMethods, Plain method.text := by
  rw [standalone.methods]
  exact Method.plain_of_spelled standalone.supported

/-- A server without handlers supports the methods that its settings name. -/
theorem Standalone.supports {settings : Settings} {tree : FileTree} {server : Server}
    (standalone : Standalone settings tree server) {token : String} {method : Method}
    (parsed : Method.parse? token = some method) (listed : token ∈ settings.supportedMethods) :
    method ∈ server.config.supportedMethods :=
  (Method.mem_iff_of_spelled standalone.supported parsed).mpr listed

/-- The providers of a server without handlers keep responses plain. -/
theorem Standalone.tidy {settings : Settings} {tree : FileTree} {server : Server}
    (standalone : Standalone settings tree server) :
    ∀ provider ∈ server.config.providers, provider.Tidy := by
  intro provider listed
  obtain rfl | ⟨root, -, rfl⟩ := standalone.providers provider listed
  · exact HandlerProvider.tidy_empty
  · exact FileProvider.tidy_toProvider _

/-- A provider of a server without handlers never blames the stream, and breaks off only at a file
that was changed at an instant without a date. -/
theorem Standalone.ending_load {settings : Settings} {tree : FileTree} {server : Server}
    (standalone : Standalone settings tree server) {provider : Provider}
    (listed : provider ∈ server.config.providers) (path : String) (request : Request)
    (response : Response) :
    (∀ fault, (provider.load path request response).ending ≠ .failed (.transport fault)) ∧
      ((provider.load path request response).ending = .aborted →
        ∃ root, settings.documentRoot = some root ∧
          provider = FileProvider.toProvider ⟨Utf8.encode root, tree⟩ ∧
          FileProvider.Undated ⟨Utf8.encode root, tree⟩ path) := by
  obtain rfl | ⟨root, rooted, rfl⟩ := standalone.providers provider listed
  · have missing : (HandlerProvider.empty.toProvider.load path request response).ending =
        .failed (.notFound path) := rfl
    simp [missing]
  · change (∀ fault, (FileProvider.load _ path response).ending ≠ .failed (.transport fault)) ∧
      ((FileProvider.load _ path response).ending = .aborted → _)
    obtain done | ⟨failure, logical, failed⟩ | ⟨broken, undated⟩ :=
      FileProvider.ending_load ⟨Utf8.encode root, tree⟩ path response
    · simp [done]
    · simp [failed, Failure.ne_transport logical]
    · simpa [broken] using ⟨root, rooted, rfl, undated⟩

/-! ## What is sent -/

variable {σ : Type} [Transport σ] {server : Server} {connection : Connection σ}

/-- The request that arrives on a connection asks for a head alone. -/
def AsksHead (connection : Connection σ) : Prop :=
  ∃ request, connection.readRequest.value = .ok request ∧ request.method = .head

/-- What is served of a request is plain, and leaves out its body exactly for a `HEAD` request. -/
theorem Standalone.exists_fit_serve {settings : Settings} {tree : FileTree}
    (standalone : Standalone settings tree server) (signed : Plain settings.signature)
    (now : HeaderDate) (connection : Connection σ) (peer : Option String) :
    ∃ included, (server.serve now connection peer).response.Fit included ∧
      (AsksHead connection ↔ included = false) := by
  cases received : connection.readRequest.value with
  | error failure =>
    rw [serve_of_error received]
    refine ⟨true, Response.fit_initial, ?_⟩
    simp [AsksHead, received]
  | ok request =>
    rw [serve_of_ok received]
    refine ⟨_, ServerConfig.fit_dispatch (standalone.signature ▸ signed) standalone.tidy now request
      (Response.fit_initialResponse request), ?_⟩
    simp [AsksHead, received]

/-- A failure that blames the stream is one of reading. -/
theorem Standalone.unread_of_blamed {settings : Settings} {tree : FileTree}
    (standalone : Standalone settings tree server) {now : HeaderDate} {peer : Option String}
    {fault : Fault}
    (blamed : (server.serve now connection peer).ending = .failed (.transport fault)) :
    connection.readRequest.value = .error (.transport fault) := by
  cases received : connection.readRequest.value with
  | error failure =>
    rw [serve_of_error received] at blamed
    rw [Ending.failed.inj blamed]
  | ok request =>
    obtain ⟨provider, listed, path, request, response, ending⟩ :=
      exists_load_of_blamed (.inl ⟨request, received⟩) blamed
    exact absurd ending ((standalone.ending_load listed path request response).1 fault)

/-- What breaks off a handling of a server without handlers is the load of a file that was changed
at an instant without a date. -/
theorem Standalone.exists_undated {settings : Settings} {tree : FileTree}
    (standalone : Standalone settings tree server) {now : HeaderDate} {handling : Handling σ}
    (broken : server.BrokenOff now connection handling) :
    ∃ request slot root path, connection.readRequest.value = .ok request ∧
      settings.documentRoot = some root ∧
      server.config.LoadsTo now request (initialResponse request) slot
        (FileProvider.toProvider ⟨Utf8.encode root, tree⟩) path .aborted ∧
      FileProvider.Undated ⟨Utf8.encode root, tree⟩ path := by
  obtain ⟨request, slot, provider, path, received, loads⟩ := broken.cause
  obtain ⟨root, rooted, rfl, undated⟩ :=
    (standalone.ending_load loads.listed path request _).2 loads.ends
  exact ⟨request, slot, root, path, received, rooted, loads, undated⟩

/-- **What a standalone server sends is one well-framed message.** Whatever arrives on a stream on
which no write and no flush goes wrong, a server without handlers whose signature is plain sends
nothing because reading failed, or breaks off with nothing sent while it loads a file for the
request that was changed at an instant without a date, or sends exactly one well-framed message,
without a body for a `HEAD` request, and taking the bytes apart gives back the lines of that
message. -/
theorem standalone_wellFramed {settings : Settings} {tree : FileTree}
    (made : Server.standalone settings tree = .ok server) (signed : Plain settings.signature)
    (now : HeaderDate) (connection : Connection σ) (peer : Option String)
    (willing : ∀ operation ∈ Event.operations (server.handle now connection peer).events,
      operation.isRead = false → operation.isFaulty = false) :
    let handling := server.handle now connection peer
    (Event.wire handling.events = [] ∧ ∃ fault,
        connection.readRequest.value = .error (.transport fault) ∧
        handling.result = .failed (.transport fault)) ∨
      (Event.wire handling.events = [] ∧ handling.result = .aborted ∧
        ∃ request slot root path, connection.readRequest.value = .ok request ∧
          settings.documentRoot = some root ∧
          server.config.LoadsTo now request (initialResponse request) slot
            (FileProvider.toProvider ⟨Utf8.encode root, tree⟩) path .aborted ∧
          FileProvider.Undated ⟨Utf8.encode root, tree⟩ path) ∨
      ∃ message : Message, Event.wire handling.events = message.bytes ∧
        message.WellFramed (AsksHead connection) ∧
        message.Legible (Event.wire handling.events) := by
  intro handling
  have standalone := standalone_of_eq_ok made
  by_cases broken : handling.result = .aborted
  · have brokenOff := brokenOff_of_aborted broken
    exact .inr (.inl ⟨brokenOff.silent, broken, standalone.exists_undated brokenOff⟩)
  · obtain ⟨sent, report, result, concluded, ends⟩ :=
      server.exists_concluded now connection peer broken
    have wire := (server.wire_handle now connection peer).2 (Event.Willing.accepting willing)
    obtain ⟨included, fit, head⟩ := standalone.exists_fit_serve signed now connection peer
    -- Whatever is sent, the message of a plain response is.
    have framed : ∀ response : Response, Event.wire handling.events = response.wire →
        response.Fit included → ∃ message : Message, Event.wire handling.events = message.bytes ∧
          message.WellFramed (AsksHead connection) ∧
          message.Legible (Event.wire handling.events) := by
      intro response sent fit
      have wellFramed := fit.wellFramed head
      rw [sent, ← response.bytes_message]
      exact ⟨response.message, rfl, wellFramed, wellFramed.legible⟩
    cases ending : (server.serve now connection peer).ending with
    | done =>
      rw [reply?, ending] at wire
      exact .inr (.inr (framed _ wire fit))
    | failed failure =>
      cases transport : failure.isTransport with
      | false =>
        rw [reply?, ending] at wire
        simp only [transport] at wire
        refine .inr (.inr (framed _ wire ?_))
        exact fit_errorResponse (standalone.signature ▸ signed) standalone.plain_methods failure
          fit.included
      | true =>
        obtain ⟨fault, rfl⟩ := Failure.exists_of_isTransport transport
        rw [reply?, ending] at wire
        obtain ⟨-, -, rfl⟩ := concluded.silent ending
        exact .inl ⟨wire, fault, standalone.unread_of_blamed ending, ends.result_eq⟩
    | aborted => exact absurd (result_handle_eq_aborted_iff.mpr ending) broken

/-- Files below a root: the index of a directory, and a page that was changed before 1970. -/
def datedTree : FileTree :=
  .directory [(Utf8.encode "www", .directory
    [(Utf8.encode "docs", .directory
        [(Utf8.encode "index.html", .file (Utf8.encode "index") 1700000000)]),
      (Utf8.encode "old.html", .file (Utf8.encode "old") (-1))])]

/-- Settings under which the dated files are served. -/
def datedSettings : Settings := { Settings.usual with documentRoot := some "www" }

/-- The server of the dated files. -/
def datedServer : Server :=
  { config :=
      { providers := [HandlerProvider.empty.toProvider,
          FileProvider.toProvider ⟨Utf8.encode "www", datedTree⟩]
        directoryIndex := ["index.html", "index.htm"]
        supportedMethods := [.get, .head, .post]
        keepAlive := true
        signature := usualSignature }
    pages := ⟨[.get, .head, .post], none, none⟩
    observer := Observer.logging }

/-- The server of the dated files comes from its settings. -/
theorem standalone_dated : Server.standalone datedSettings datedTree = .ok datedServer := rfl

/-- A connection whose peer asks for a directory without its slash, with escaped line ends in the
query, on a stream that takes the answer in pieces. -/
def redirectedConnection : Connection Script :=
  .ofStream ⟨[.bytes (Utf8.encode "GET /docs?%0D%0AX:%20y HTTP/1.1\r\nHost: a\r\n\r\n")],
    [.accept 20, .accept 3], [], none⟩

/-- The redirection to a directory is one well-framed message. -/
theorem standalone_wellFramed_redirected :
    let handling := datedServer.handle ⟨0, by decide⟩ redirectedConnection none
    (∀ operation ∈ Event.operations handling.events,
        operation.isRead = false → operation.isFaulty = false) ∧
      handling.result = .ok ∧
      ∃ message : Message, Event.wire handling.events = message.bytes ∧
        message.WellFramed (AsksHead redirectedConnection) ∧
        message.Legible (Event.wire handling.events) := by
  intro handling
  have willing : ∀ operation ∈ Event.operations handling.events,
      operation.isRead = false → operation.isFaulty = false := by
    decide +kernel
  have result : handling.result = .ok := by decide +kernel
  have signed : Plain datedSettings.signature := by decide +kernel
  refine ⟨willing, result, ?_⟩
  obtain ⟨-, fault, -, failed⟩ | ⟨-, broken, -⟩ | framed :=
    standalone_wellFramed standalone_dated signed ⟨0, by decide⟩ redirectedConnection none willing
  · cases result.symm.trans failed
  · cases result.symm.trans broken
  · exact framed

/-- A connection whose peer asks for the page that was changed before 1970. -/
def undatedConnection : Connection Script :=
  .ofStream (.ofBytes (Utf8.encode "GET /old.html HTTP/1.1\r\n\r\n"))

/-- Not everything that arrives on a stream that works is answered with a message, or else fails
because of the stream: the page that was changed before 1970 breaks the handling off. -/
theorem exists_unframed_answer :
    ¬∀ (settings : Settings) (tree : FileTree) (server : Server) (now : HeaderDate)
      (connection : Connection Script) (peer : Option String),
      Server.standalone settings tree = .ok server → Plain settings.signature →
      (∀ operation ∈ Event.operations (server.handle now connection peer).events,
        operation.isRead = false → operation.isFaulty = false) →
      (Event.wire (server.handle now connection peer).events = [] ∧
        ∃ fault, (server.handle now connection peer).result = .failed (.transport fault)) ∨
      ∃ message : Message,
        Event.wire (server.handle now connection peer).events = message.bytes := by
  intro always
  have result : (datedServer.handle ⟨0, by decide⟩ undatedConnection none).result = .aborted := by
    decide +kernel
  obtain ⟨-, fault, failed⟩ | ⟨message, sent⟩ := always datedSettings datedTree datedServer
    ⟨0, by decide⟩ undatedConnection none standalone_dated (by decide +kernel) (by decide +kernel)
  · cases result.symm.trans failed
  · have silent := (brokenOff_of_aborted result).silent
    exact message.bytes_ne_nil (sent.symm.trans silent)

end Server

end OriginServer
