import OriginServer.Proofs.Serving.Refusal
import OriginServer.Proofs.Serving.Standalone
import OriginServer.Proofs.Settings.Acceptance
import OriginServer.Proofs.Text.Pieces

/-!
# Which methods are admitted

A server that is made of settings compares the method of a request with the methods that the texts
of the settings spell, and puts the texts of the same methods into the page for a method that is
refused. Only one text spells a method (`Method.mem_iff_of_spelled`), and no text holds what
separates them on the page (`Server.Assembled.parted_iff`). So a request is barred exactly if its
method is not among the texts of the settings, and the page for it gives exactly these texts back
(`Server.refusal_lists_supported`).
-/
namespace OriginServer

open Text (Parted Plain sameLetters)

/-! ## The gate -/

namespace ServerConfig

variable {config : ServerConfig} {now : HeaderDate} {request : Request} {given : Response}

/-- A request is barred: it is refused for its method before any provider is called. -/
structure Bars (config : ServerConfig) (now : HeaderDate) (request : Request) (given : Response) :
    Prop where
  /-- No provider is called. -/
  uncalled : calls (config.dispatch now request given).events = []
  /-- The method is what the request is refused for. -/
  refused : (config.dispatch now request given).ending =
    .failed (.methodNotAllowed request.method)

/-- A request with a legal path is barred exactly if its method is not supported. -/
theorem bars_iff (legal : Path.isIllegal request.path = false) :
    config.Bars now request given ↔ request.method ∉ config.supportedMethods := by
  constructor
  · rintro ⟨uncalled, refused⟩ supported
    obtain ⟨trace, response, ending, routed⟩ :=
      exists_routed config request given (config.prepare now request given)
    obtain ⟨called, -, ended⟩ := dispatch_of_routed routed
    rw [uncalled] at called
    rw [refused] at ended
    cases routed with
    | denied illegal => cases legal.symm.trans illegal
    | unsupported legal unsupported => exact unsupported supported
    | direct legal supported claim => simp at called
    | missing legal supported unclaimed noIndex => cases ended
    | index legal supported unclaimed found directory => simp at called
    | redirected legal supported unclaimed found noDirectory => cases ended
  · intro unsupported
    obtain ⟨called, -, ended⟩ := dispatch_of_routed (.unsupported legal unsupported)
    exact ⟨called, ended⟩

/-- If the method is supported, the provider consulted first is asked for the path. -/
theorem head?_calls_of_supported (legal : Path.isIllegal request.path = false)
    (supported : request.method ∈ config.supportedMethods) (provided : config.providers ≠ []) :
    (calls (config.dispatch now request given).events).head? = some (.ask 0 request.path) := by
  have asked : ∀ count rest, 0 < count →
      (asks count request.path ++ rest).head? = some (.ask 0 request.path) := by
    rintro (_ | count) rest positive
    · cases positive
    · rfl
  have positive := List.length_pos_iff.mpr provided
  obtain ⟨trace, response, ending, routed⟩ :=
    exists_routed config request given (config.prepare now request given)
  rw [(dispatch_of_routed routed).1]
  cases routed with
  | denied illegal => cases legal.symm.trans illegal
  | unsupported legal unsupported => exact absurd supported unsupported
  | direct legal supported claim => exact asked _ _ (Nat.succ_pos _)
  | missing legal supported unclaimed noIndex => exact asked _ _ positive
  | index legal supported unclaimed found directory =>
    rw [List.append_assoc]
    exact asked _ _ positive
  | redirected legal supported unclaimed found noDirectory => exact asked _ _ positive

end ServerConfig

/-! ## The page for a method that is refused -/

namespace Server

/-- One field of the page for a method that is refused lists the supported methods. -/
theorem named_allow_errorResponse (server : Server) (method : Method) (response : Response) :
    (server.errorResponse (.methodNotAllowed method) response).message.named "Allow" =
      [("Allow", server.pages.allowList)] := by
  have rendered : (server.pages.render (.methodNotAllowed method) response).headers.entries =
      [("Content-Type", "text/html; charset=utf-8"), ("Allow", server.pages.allowList)] := by
    rfl
  rw [Message.named, Response.message, Response.sentFields, entries_errorResponse, rendered]
  have unlike : sameLetters "Content-Type" "Allow" = false ∧ sameLetters "Server" "Allow" = false ∧
      sameLetters "Content-Length" "Allow" = false ∧ sameLetters "Connection" "Allow" = false := by
    decide +kernel
  have own : Response.isDerived "Content-Type" = false ∧ Response.isDerived "Allow" = false ∧
      Response.isDerived "Server" = false := by decide +kernel
  simp [unlike, own]

variable {settings : Settings} {handlers : HandlerProvider} {tree : FileTree} {server : Server}

/-- The page for a method that is refused lists the methods as the settings spell them. -/
theorem Assembled.allowList (assembled : Assembled settings handlers tree server) :
    server.pages.allowList = ", ".intercalate settings.supportedMethods := by
  rw [ErrorPages.allowList, assembled.listed, Method.map_text_of_spelled assembled.supported]

/-- The list on the page is taken apart into the texts of the settings, and into nothing else. -/
theorem Assembled.parted_iff (assembled : Assembled settings handlers tree server)
    (nonempty : settings.supportedMethods ≠ []) (texts : List String) :
    Parted ", ".toList (", ".intercalate settings.supportedMethods).toList
      (texts.map String.toList) ↔ texts = settings.supportedMethods := by
  have commaless : ∀ text ∈ settings.supportedMethods.map String.toList, ',' ∉ text := by
    refine List.forall_mem_map.mpr fun text listed inside => ?_
    obtain ⟨method, -, parsed⟩ := Method.exists_spelled assembled.supported listed
    have valid := Method.exists_parse?_iff.mp ⟨method, parsed⟩
    exact absurd ((Method.isToken_iff.mp valid).2 _ inside) (by decide)
  have parted : Parted [',', ' ']
      ([',', ' '].intercalate (settings.supportedMethods.map String.toList))
      (settings.supportedMethods.map String.toList) :=
    Text.parted_intercalate (by simpa using nonempty) commaless
  rw [String.toList_intercalate]
  constructor
  · intro other
    exact List.map_injective_iff.mpr (fun _ _ => String.toList_injective) (other.unique parted)
  · rintro rfl
    exact parted

/-- An error page is read off the wire, if the signature is plain. -/
theorem Assembled.legible_errorResponse (assembled : Assembled settings handlers tree server)
    (signed : Plain settings.signature) (failure : Failure) (response : Response) :
    (server.errorResponse failure response).message.Legible
      (server.errorResponse failure response).wire := by
  have listed : ∀ method ∈ server.pages.supportedMethods, Plain method.text := by
    rw [assembled.listed]
    exact Method.plain_of_spelled assembled.supported
  have fit := fit_errorResponse (assembled.signature ▸ signed) listed failure
    (rfl : response.includeBody = response.includeBody)
  rw [← Response.bytes_message]
  exact (fit.wellFramed Iff.rfl).legible

/-- **The list of allowed methods tells the truth.** A server is made of settings, and a request has
a legal path and a method that a token spells. The request is barred exactly if the token is not one
of the texts in the settings. If it is barred, then whoever sends it, no provider is called, the
handling fails for the method, and the page offered to the peer has one field that lists allowed
methods; if there are any, taking its value apart at a comma and a blank gives the texts of the
settings back, in order. And each of these texts spells a method with which a request for a legal
path is let through: the provider consulted first is asked for the path. -/
theorem refusal_lists_supported (made : ofSettings settings handlers tree = .ok server)
    {request : Request} {token : String} (spelled : Method.parse? token = some request.method)
    (legal : Path.isIllegal request.path = false) (now : HeaderDate) :
    (∀ given, server.config.Bars now request given ↔ token ∉ settings.supportedMethods) ∧
    (token ∉ settings.supportedMethods →
      ∀ {σ : Type} [Transport σ] (connection : Connection σ) (peer : Option String),
        connection.readRequest.value = .ok request →
        let handling := server.handle now connection peer
        let list := ", ".intercalate settings.supportedMethods
        calls handling.events = [] ∧
          handling.result = .failed (.methodNotAllowed request.method) ∧
          (∃ page, Offered page handling.events ∧ page.status = .methodNotAllowed ∧
            page.message.named "Allow" = [("Allow", list)] ∧
            (Plain settings.signature → page.message.Legible page.wire)) ∧
          (settings.supportedMethods ≠ [] → ∀ texts : List String,
            Parted ", ".toList list.toList (texts.map String.toList) ↔
              texts = settings.supportedMethods)) ∧
    ∀ text ∈ settings.supportedMethods, ∃ method, Method.parse? text = some method ∧
      ∀ (other : Request) (given : Response), other.method = method →
        Path.isIllegal other.path = false →
          (calls (server.config.dispatch now other given).events).head? =
            some (.ask 0 other.path) := by
  have assembled := assembled_of_eq_ok made
  have bars : ∀ given, server.config.Bars now request given ↔
      token ∉ settings.supportedMethods := by
    intro given
    rw [ServerConfig.bars_iff legal, Method.mem_iff_of_spelled assembled.supported spelled]
  refine ⟨bars, ?_, ?_⟩
  · intro barred σ _ connection peer received handling list
    obtain ⟨uncalled, refused⟩ := (bars (initialResponse request)).mpr barred
    have failed := (handle_of_failed received refused rfl peer).1
    refine ⟨(calls_handle received now peer).trans uncalled, failed,
      ⟨_, offered_of_failed failed rfl, rfl, ?_, fun signed =>
        assembled.legible_errorResponse signed _ _⟩, assembled.parted_iff⟩
    rw [named_allow_errorResponse, assembled.allowList]
  · intro text listed
    obtain ⟨method, supported, parsed⟩ := Method.exists_spelled assembled.supported listed
    refine ⟨method, parsed, ?_⟩
    rintro other given rfl legal
    obtain ⟨configured, -, consulted⟩ := assembled.providers
    exact ServerConfig.head?_calls_of_supported legal supported (by simp [consulted])

/-- Settings with a method that is listed twice and one that has no name of its own. -/
def repeatingSettings : Settings :=
  { Settings.usual with supportedMethods := ["GET", "PURGE", "GET"] }

/-- The server of these settings, without handlers and files. -/
def repeatingServer : Server :=
  { config :=
      { providers := [HandlerProvider.empty.toProvider]
        directoryIndex := ["index.html", "index.htm"]
        supportedMethods := [.get, .extension "PURGE", .get]
        keepAlive := true
        signature := usualSignature }
    pages := ⟨[.get, .extension "PURGE", .get], none, none⟩
    observer := Observer.logging }

/-- A connection whose peer writes a supported method in small letters. -/
def lowercaseConnection : Connection Script :=
  .ofStream (.ofBytes (Utf8.encode "get /a HTTP/1.1\r\n\r\n"))

/-- The request of this connection. -/
def lowercaseRequest : Request := ⟨.extension "get", "/a", none, "HTTP/1.1", .empty, []⟩

/-- A method in small letters is refused, and the page lists the supported methods as they were
set. -/
theorem refusal_lists_supported_repeating :
    (repeatingServer.handle ⟨0, by decide⟩ lowercaseConnection none).result =
        .failed (.methodNotAllowed (.extension "get")) ∧
      (∃ page,
        Offered page (repeatingServer.handle ⟨0, by decide⟩ lowercaseConnection none).events ∧
        page.message.named "Allow" = [("Allow", "GET, PURGE, GET")] ∧
        page.message.Legible page.wire) ∧
      ∀ texts : List String, Parted ", ".toList "GET, PURGE, GET".toList
        (texts.map String.toList) ↔ texts = ["GET", "PURGE", "GET"] := by
  have made : ofSettings repeatingSettings .empty .empty = .ok repeatingServer := rfl
  have spelled : Method.parse? "get" = some lowercaseRequest.method := by decide +kernel
  have legal : Path.isIllegal lowercaseRequest.path = false := by decide +kernel
  have received : lowercaseConnection.readRequest.value = .ok lowercaseRequest := by
    decide +kernel
  have list : ", ".intercalate repeatingSettings.supportedMethods = "GET, PURGE, GET" := by
    decide +kernel
  obtain ⟨-, barred, -⟩ := refusal_lists_supported made spelled legal ⟨0, by decide⟩
  obtain ⟨-, failed, ⟨page, offered, -, allowed, legible⟩, parted⟩ :=
    barred (by decide +kernel) lowercaseConnection none received
  rw [list] at allowed parted
  exact ⟨failed, ⟨page, offered, allowed, legible (by decide +kernel)⟩, parted (by decide +kernel)⟩

end Server

end OriginServer
