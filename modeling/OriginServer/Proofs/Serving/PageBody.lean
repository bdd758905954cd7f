import OriginServer.Proofs.Serving.Refusal
import OriginServer.Proofs.Serving.Standalone

/-!
# The body of an error page

Whether the body of a response is sent is decided by the method of the request, before the request
is dispatched. The provider in charge may decide it anew, and an error page keeps this decision
while everything else of the response is forgotten. So the method alone says whether an error page
is sent with its body, unless the provider turned that over (`wire_page`); a page for a `GET`
request can lose the body whose length it declares (`exists_page_without_body`).
-/
namespace OriginServer

namespace ServerConfig

/-- The provider in charge of a request turns over whether the body of the response is sent. -/
def Overrides (config : ServerConfig) (now : HeaderDate) (request : Request) (given : Response) :
    Prop :=
  ∃ slot provider path, FirstClaim config.providers path slot provider ∧
    .load slot path ∈ calls (config.dispatch now request given).events ∧
    (provider.load path request (config.prepare now request given)).response.includeBody ≠
      given.includeBody

variable {config : ServerConfig} {now : HeaderDate} {request : Request} {given : Response}

/-- When nothing is loaded nothing is turned over. -/
theorem not_overrides_of_unloaded
    (unloaded : ∀ slot path, .load slot path ∉ calls (config.dispatch now request given).events) :
    ¬config.Overrides now request given := by
  rintro ⟨slot, provider, path, claim, called, changed⟩
  exact unloaded slot path called

/-- When one provider loads one path it alone can turn something over. -/
theorem overrides_iff_of_loaded {slot : Nat} {provider : Provider} {path : String}
    {asked : List Call} (claim : FirstClaim config.providers path slot provider)
    (unloaded : ∀ slot path, .load slot path ∉ asked)
    (called : calls (config.dispatch now request given).events = asked ++ [.load slot path]) :
    config.Overrides now request given ↔
      (provider.load path request (config.prepare now request given)).response.includeBody ≠
        given.includeBody := by
  constructor
  · rintro ⟨place, other, text, first, loaded, changed⟩
    rw [called, List.mem_append, List.mem_singleton, Call.load.injEq] at loaded
    obtain ⟨rfl, rfl⟩ := loaded.resolve_left (unloaded place text)
    obtain rfl := Option.some.inj (claim.placed.symm.trans first.placed)
    exact changed
  · intro changed
    refine ⟨slot, provider, path, claim, ?_, changed⟩
    rw [called]
    exact List.mem_append_right _ (List.mem_singleton_self _)

/-- Dispatching a request changes whether the body is sent exactly if the provider in charge turns
it over. -/
theorem includeBody_dispatch (config : ServerConfig) (now : HeaderDate) (request : Request)
    (given : Response) :
    (config.dispatch now request given).response.includeBody ≠ given.includeBody ↔
      config.Overrides now request given := by
  obtain ⟨trace, response, ending, routed⟩ :=
    exists_routed config request given (config.prepare now request given)
  obtain ⟨called, left, -⟩ := dispatch_of_routed routed
  have unchanged : (∀ slot path, .load slot path ∉ trace) →
      response.includeBody = given.includeBody →
        (response.includeBody ≠ given.includeBody ↔ config.Overrides now request given) :=
    fun unloaded same => iff_of_false (not_not.mpr same)
      (not_overrides_of_unloaded (called.symm ▸ unloaded))
  rw [left]
  cases routed with
  | denied illegal => exact unchanged (by simp) rfl
  | unsupported legal unsupported => exact unchanged (by simp) rfl
  | direct legal supported claim =>
    exact (overrides_iff_of_loaded claim (fun _ _ => load_not_mem_asks) called).symm
  | missing legal supported unclaimed noIndex =>
    exact unchanged (by simp [load_not_mem_asks, load_not_mem_indexAsks]) rfl
  | index legal supported unclaimed found directory =>
    exact (overrides_iff_of_loaded found.claim
      (by simp [load_not_mem_asks, load_not_mem_indexAsks]) called).symm
  | redirected legal supported unclaimed found noDirectory =>
    exact unchanged (by simp [load_not_mem_asks, load_not_mem_indexAsks]) rfl

end ServerConfig

namespace Server

variable {σ : Type} [Transport σ]

/-- The bytes of an error page: its head, and its body if the response that it replaces had one to
be sent. -/
theorem wire_errorResponse (server : Server) (failure : Failure) (response : Response) :
    (server.errorResponse failure response).wire =
      Utf8.encode (server.errorResponse failure .initial).head ++
        if response.includeBody then server.pages.body failure else [] := by
  rw [errorResponse_eq server failure response, ← body_errorResponse server failure .initial]
  rfl

/-- When a handling ends in a logical failure and no write goes wrong, the peer gets the page of the
failure. -/
theorem wire_of_failed {server : Server} {now : HeaderDate} {connection : Connection σ}
    {peer : Option String} {failure : Failure}
    (failed : (server.handle now connection peer).result = .failed failure)
    (logical : failure.isTransport = false)
    (accepting : ∀ operation ∈ Event.operations (server.handle now connection peer).events,
      operation.isWrite = true → operation.isFaulty = false) :
    Event.wire (server.handle now connection peer).events =
      (server.errorResponse failure (server.serve now connection peer).response).wire := by
  rw [(server.wire_handle now connection peer).2 accepting, reply?_of_failed failed logical,
    Option.elim_some]

/-- **The method decides whether an error page is sent with its body, unless a provider turns that
over.** When a request that was read ends in a logical failure and no write goes wrong, the peer
gets the head of the page, which declares the length of its body. If the provider in charge left it
to the method whether a body is sent, the body follows exactly if the method is not `HEAD`; if it
turned that over, the body follows exactly if the method is `HEAD`. -/
theorem wire_page {server : Server} {now : HeaderDate} {connection : Connection σ}
    {peer : Option String} {request : Request} {failure : Failure}
    (read : connection.readRequest.value = .ok request)
    (failed : (server.handle now connection peer).result = .failed failure)
    (logical : failure.isTransport = false)
    (accepting : ∀ operation ∈ Event.operations (server.handle now connection peer).events,
      operation.isWrite = true → operation.isFaulty = false) :
    let page := server.errorResponse failure .initial
    let sent := Event.wire (server.handle now connection peer).events
    let overridden := server.config.Overrides now request (initialResponse request)
    page.body = server.pages.body failure ∧
      page.message.named "Content-Length" = [("Content-Length", toString page.body.length)] ∧
      (¬overridden →
        sent = Utf8.encode page.head ++ if request.method = .head then [] else page.body) ∧
      (overridden →
        sent = Utf8.encode page.head ++ if request.method = .head then page.body else []) := by
  intro page sent overridden
  have body : page.body = server.pages.body failure := server.body_errorResponse failure .initial
  have decided : (initialResponse request).includeBody = decide (request.method ≠ .head) :=
    (Response.fit_initialResponse request).included
  have changed := server.config.includeBody_dispatch now request (initialResponse request)
  have wire := wire_of_failed failed logical accepting
  rw [serve_of_ok read, wire_errorResponse] at wire
  refine ⟨body, ?_, fun kept => ?_, fun overridden => ?_⟩
  · rw [body]
    exact server.named_length_errorResponse failure .initial
  · have same := not_not.mp (mt changed.mp kept)
    rw [same, decided, ← body] at wire
    by_cases head : request.method = .head
    · simpa [head] using wire
    · simpa [head] using wire
  · have other := Bool.eq_not.mpr (changed.mpr overridden)
    rw [other, decided, ← body] at wire
    by_cases head : request.method = .head
    · simpa [head] using wire
    · simpa [head] using wire

/-- A server whose provider says whether the body is sent, and then fails. -/
def decidingServer (included : Bool) : Server :=
  let deciding : Provider :=
    { name := "deciding"
      claims := fun path => ⟨path = "/a", []⟩
      load := fun _ _ response =>
        ⟨response.setIncludeBody included, .failed (.unclassified "no ink"), [], []⟩ }
  { config := ServerConfig.initial.addProvider deciding
    pages := default
    observer := .silent }

/-- The request for what the provider fails at. -/
def decidedRequest : Request := ⟨.get, "/a", none, "HTTP/1.1", .empty, []⟩

/-- A connection whose peer asks for what the provider fails at, on a stream that takes the answer
in pieces. -/
def decidedConnection : Connection Script :=
  .ofStream ⟨[.bytes (Utf8.encode "GET /a HTTP/1.1\r\n\r\n")], [.accept 20, .accept 3], [], none⟩

/-- The page for a `GET` request has its body if the provider leaves it to the method, and else it
has not. -/
theorem wire_page_decided :
    let now : HeaderDate := ⟨0, by decide⟩
    let page (included : Bool) :=
      (decidingServer included).errorResponse (.unclassified "no ink") .initial
    Event.wire ((decidingServer true).handle now decidedConnection none).events =
        Utf8.encode (page true).head ++ (page true).body ∧
      Event.wire ((decidingServer false).handle now decidedConnection none).events =
        Utf8.encode (page false).head := by
  intro now page
  have read : decidedConnection.readRequest.value = .ok decidedRequest := by decide +kernel
  have failed : ∀ included, ((decidingServer included).handle now decidedConnection none).result =
      .failed (.unclassified "no ink") := by
    decide +kernel
  have accepting : ∀ included, ∀ operation ∈ Event.operations
      ((decidingServer included).handle now decidedConnection none).events,
      operation.isWrite = true → operation.isFaulty = false := by
    decide +kernel
  have kept : ¬(decidingServer true).config.Overrides now decidedRequest
      (initialResponse decidedRequest) := by
    rw [← ServerConfig.includeBody_dispatch]
    decide +kernel
  have overridden : (decidingServer false).config.Overrides now decidedRequest
      (initialResponse decidedRequest) := by
    rw [← ServerConfig.includeBody_dispatch]
    decide +kernel
  obtain ⟨-, -, whole, -⟩ := wire_page read (failed true) rfl (accepting true)
  obtain ⟨-, -, -, bare⟩ := wire_page read (failed false) rfl (accepting false)
  refine ⟨whole kept, ?_⟩
  rw [bare overridden]
  exact List.append_nil _

/-- The method does not always decide whether an error page is sent with its body: the page for a
`GET` request lacks the body when the provider said so before it failed. -/
theorem exists_page_without_body :
    ¬∀ (server : Server) (now : HeaderDate) (connection : Connection Script)
      (peer : Option String) (request : Request) (failure : Failure),
      connection.readRequest.value = .ok request →
      (server.handle now connection peer).result = .failed failure →
      failure.isTransport = false →
      (∀ operation ∈ Event.operations (server.handle now connection peer).events,
        operation.isWrite = true → operation.isFaulty = false) →
      Event.wire (server.handle now connection peer).events =
        Utf8.encode (server.errorResponse failure .initial).head ++
          if request.method = .head then [] else server.pages.body failure := by
  intro always
  have whole := always (decidingServer false) ⟨0, by decide⟩ decidedConnection none decidedRequest
    (.unclassified "no ink") (by decide +kernel) (by decide +kernel) rfl (by decide +kernel)
  have bare : Event.wire
      ((decidingServer false).handle ⟨0, by decide⟩ decidedConnection none).events ≠
        Utf8.encode ((decidingServer false).errorResponse (.unclassified "no ink") .initial).head ++
          (decidingServer false).pages.body (.unclassified "no ink") := by
    decide +kernel
  exact bare whole

end Server

end OriginServer
