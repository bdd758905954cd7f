import OriginServer.Proofs.Reading.FirstWord
import OriginServer.Proofs.Serving.FirstRequest
import OriginServer.Proofs.Serving.KeepAlive
import OriginServer.Proofs.Serving.Refusal

/-!
# Answers to `HEAD` requests

A provider is blind to the method if the method of a request and the flag that leaves out the body
make no difference to its work. In front of blind providers a request is answered alike whatever its
method, as long as it is supported (`ServerConfig.dispatch_of_method`). Files are served blindly, so
the answer to a `HEAD` request is the answer to the same `GET` request without its body
(`Server.handle_of_head`).
-/
namespace OriginServer

/-! ## Work that does not see the method -/

/-- A provider is blind to the method: with another method and another decision on sending the body
its work is the same, and the decision stays. -/
def Provider.Blind (provider : Provider) : Prop :=
  ∀ (path : String) (request : Request) (method : Method) (response : Response) (included : Bool),
    let rendering := provider.load path request response
    let other := provider.load path { request with method } (response.setIncludeBody included)
    other.response = rendering.response.setIncludeBody included ∧
      other.ending = rendering.ending

/-- Handlers that are not there are blind. -/
theorem HandlerProvider.blind_empty : HandlerProvider.empty.toProvider.Blind :=
  fun _ _ _ _ _ => ⟨rfl, rfl⟩

/-- Files are served blindly. -/
theorem FileProvider.blind_toProvider (provider : FileProvider) : provider.toProvider.Blind := by
  intro path request method response included
  obtain ⟨changes, ending, loads, loaded⟩ := provider.exists_loads path
  have hidden := loaded (response.setIncludeBody included)
  rw [loads.setIncludeBody, ← (loaded response).1, ← (loaded response).2] at hidden
  exact hidden

namespace ServerConfig

/-- In front of blind providers a supported method decides nothing, and the decision on sending the
body stays. -/
theorem dispatch_of_method {config : ServerConfig}
    (blind : ∀ provider ∈ config.providers, provider.Blind) {request : Request} {method : Method}
    (supported : request.method ∈ config.supportedMethods)
    (otherSupported : method ∈ config.supportedMethods) (now : HeaderDate) (given : Response)
    (included : Bool) :
    let dispatched := config.dispatch now request given
    let other := config.dispatch now { request with method } (given.setIncludeBody included)
    other.response = dispatched.response.setIncludeBody included ∧
      other.ending = dispatched.ending := by
  intro dispatched other
  obtain ⟨trace, response, ending, routed⟩ :=
    exists_routed config request given (config.prepare now request given)
  obtain ⟨-, left, ended⟩ := dispatch_of_routed routed
  change dispatched.response = response at left
  change dispatched.ending = ending at ended
  rw [left, ended]
  -- The other request takes the same route.
  suffices taken : ∃ trace, Routed config { request with method } (given.setIncludeBody included)
      (config.prepare now { request with method } (given.setIncludeBody included)) trace
      (response.setIncludeBody included) ending by
    obtain ⟨trace, taken⟩ := taken
    exact (dispatch_of_routed taken).2
  have prepared : config.prepare now { request with method } (given.setIncludeBody included) =
      (config.prepare now request given).setIncludeBody included := rfl
  rw [prepared]
  cases routed with
  | denied illegal => exact ⟨_, .denied illegal⟩
  | unsupported legal unsupported => exact absurd supported unsupported
  | direct legal supported claim =>
    obtain ⟨same, again⟩ := blind _ (List.mem_of_getElem? claim.placed) request.path request method
      (config.prepare now request given) included
    rw [← same, ← again]
    exact ⟨_, .direct legal otherSupported claim⟩
  | missing legal supported unclaimed noIndex =>
    exact ⟨_, .missing legal otherSupported unclaimed noIndex⟩
  | @index _ name _ _ legal supported unclaimed found directory =>
    obtain ⟨same, again⟩ := blind _ (List.mem_of_getElem? found.claim.placed)
      (request.path ++ name) request method (config.prepare now request given) included
    rw [← same, ← again]
    exact ⟨_, .index legal otherSupported unclaimed found directory⟩
  | redirected legal supported unclaimed found noDirectory =>
    exact ⟨_, .redirected legal otherSupported unclaimed found noDirectory⟩

end ServerConfig

/-! ## The two requests -/

/-- Two connections that bring a `GET` request and the same request with `HEAD` read requests that
differ in the method alone. -/
theorem Connection.readRequest_of_head {σ τ : Type} [Transport σ] [Transport τ] {tail : Bytes}
    {request : Request} {taken length : Nat}
    (whole : Request.read (Utf8.encode "GET" ++ tail) = .ok (request, taken))
    (asked : request.method = .get)
    (headed : headLength? (Utf8.encode "HEAD" ++ tail) = some length)
    (small : length + terminatorBytes ≤ maxHeadBytes)
    {connection : Connection σ} {other : Connection τ}
    (brought : connection.Brings (Utf8.encode "GET" ++ tail))
    (otherBrought : other.Brings (Utf8.encode "HEAD" ++ tail)) :
    connection.readRequest.value = .ok request ∧
      other.readRequest.value = .ok { request with method := .head } := by
  have spelled : Method.get.Spelled "GET" := Method.parse?_eq_some_iff.mp (by decide +kernel)
  have otherSpelled : Method.head.Spelled "HEAD" := Method.parse?_eq_some_iff.mp (by decide +kernel)
  obtain ⟨count, -, otherWhole⟩ := Request.read_of_other_method spelled otherSpelled whole asked
  have otherFronted := fronted_of_headLength? otherWhole headed small
  -- The head of the `GET` request is shorter by the difference of the two words.
  have longer : (Utf8.encode "GET").length < (Utf8.encode "HEAD").length := by decide
  rw [headLength?_front otherSpelled.carriage, Option.map_eq_some_iff] at headed
  obtain ⟨rest, behind, sum⟩ := headed
  have shortHeaded : headLength? (Utf8.encode "GET" ++ tail) =
      some ((Utf8.encode "GET").length + rest) := by
    rw [headLength?_front spelled.carriage, behind]
    rfl
  have fronted := fronted_of_headLength? whole shortHeaded (by omega)
  exact ⟨brought.readRequest fronted, otherBrought.readRequest otherFronted⟩

/-! ## The two replies -/

/-- Bytes cut off behind their first empty line; without one they stay whole. -/
def cutBehindHead (bytes : Bytes) : Bytes :=
  match splitHead bytes with
  | some (head, _) => head ++ headEnd
  | none => bytes

/-- A head whose headers make one line each is what is left of it and a body when both are cut off
behind the first empty line. -/
theorem Response.Kept.cutBehindHead_append {response : Response} {keepAlive : Bool}
    (kept : response.Kept keepAlive) (body : Bytes) :
    cutBehindHead (Utf8.encode response.head ++ body) = Utf8.encode response.head := by
  obtain ⟨found, -⟩ := kept.splitHead_wire body
  have parts := (splitHead_eq_some_iff.mp found).1
  rw [cutBehindHead, found]
  exact (List.append_cancel_right parts).symm

namespace Server

variable {σ τ : Type} [Transport σ] [Transport τ] {server : Server}

/-- The decision on sending the body passes from what was served to the reply. -/
theorem reply?_of_included {served other : Served} {included : Bool}
    (response : other.response = served.response.setIncludeBody included)
    (ending : other.ending = served.ending) :
    server.reply? other = (server.reply? served).map (·.setIncludeBody included) := by
  rw [reply?, reply?, ending]
  cases served.ending with
  | done =>
    rw [response]
    rfl
  | failed failure =>
    dsimp only
    split
    · rfl
    · rw [response, errorResponse_eq, errorResponse_eq server failure served.response]
      rfl
  | aborted => rfl

/-- The reply to a `HEAD` request leaves out the body of the reply to the same `GET` request. -/
theorem reply?_of_head (blind : ∀ provider ∈ server.config.providers, provider.Blind)
    (get : .get ∈ server.config.supportedMethods) (head : .head ∈ server.config.supportedMethods)
    {request : Request} (asked : request.method = .get) {connection : Connection σ}
    {other : Connection τ} (read : connection.readRequest.value = .ok request)
    (otherRead : other.readRequest.value = .ok { request with method := .head })
    (now : HeaderDate) (peer : Option String) :
    (∀ response, server.reply? (server.serve now connection peer) = some response →
        response.includeBody = true) ∧
      server.reply? (server.serve now other peer) =
        (server.reply? (server.serve now connection peer)).map (·.setIncludeBody false) := by
  have given : initialResponse request = .initial := by simp [initialResponse, asked]
  have supported : request.method ∈ server.config.supportedMethods := by
    rw [asked]
    exact get
  -- A `GET` request is its own counterpart if the body is sent.
  have same : { request with method := .get } = request := by
    rw [← asked]
  have shown := ServerConfig.dispatch_of_method blind supported get now .initial true
  rw [same] at shown
  have hidden := ServerConfig.dispatch_of_method blind supported head now .initial false
  rw [serve_of_ok read, serve_of_ok otherRead, given]
  constructor
  · intro response reply
    let dispatched := server.config.dispatch now request .initial
    let served : Served :=
      ⟨⟨peer, some request.method, some request.path⟩, dispatched.response, dispatched.ending⟩
    have again : server.reply? served = (server.reply? served).map (·.setIncludeBody true) :=
      reply?_of_included shown.1 shown.2
    rw [reply, Option.map_some, Option.some.injEq] at again
    rw [again]
    rfl
  · exact reply?_of_included hidden.1 hidden.2

/-! ## Servers without handlers -/

variable {settings : Settings} {tree : FileTree}

/-- The providers of a server without handlers are blind to the method. -/
theorem Standalone.blind (standalone : Standalone settings tree server) :
    ∀ provider ∈ server.config.providers, provider.Blind := by
  intro provider listed
  obtain rfl | ⟨root, -, rfl⟩ := standalone.providers provider listed
  · exact HandlerProvider.blind_empty
  · exact FileProvider.blind_toProvider _

/-- The providers of a server without handlers leave open whether the connection stays open. -/
theorem Standalone.restrained (standalone : Standalone settings tree server) :
    ∀ provider ∈ server.config.providers, provider.Restrained := by
  intro provider listed
  obtain rfl | ⟨root, -, rfl⟩ := standalone.providers provider listed
  · exact fun _ _ _ _ kept => kept
  · exact FileProvider.restrained_toProvider _

/-- A request that was read from a server without handlers gets a reply unless the work on it was
broken off. -/
theorem Standalone.ending_of_unreplied (standalone : Standalone settings tree server)
    {connection : Connection σ} {request : Request}
    (received : connection.readRequest.value = .ok request) {now : HeaderDate}
    {peer : Option String}
    (unreplied : server.reply? (server.serve now connection peer) = none) :
    (server.serve now connection peer).ending = .aborted := by
  obtain broken | ⟨fault, blamed⟩ := reply?_eq_none_iff.mp unreplied
  · exact broken
  · have unread := standalone.unread_of_blamed blamed
    rw [received] at unread
    cases unread

/-- If a `GET` request and the same request with `HEAD` are read from a server without handlers, the
answer to the second one is the answer to the first one without the body. -/
theorem Standalone.wire_of_head (standalone : Standalone settings tree server)
    (get : "GET" ∈ settings.supportedMethods) (head : "HEAD" ∈ settings.supportedMethods)
    {request : Request} (asked : request.method = .get) {connection : Connection σ}
    {other : Connection τ} (read : connection.readRequest.value = .ok request)
    (otherRead : other.readRequest.value = .ok { request with method := .head })
    {now : HeaderDate} {peer : Option String}
    (accepting : Event.Accepting (server.handle now connection peer).events)
    (otherAccepting : Event.Accepting (server.handle now other peer).events) :
    let handling := server.handle now connection peer
    let otherHandling := server.handle now other peer
    (handling.result = .aborted ∧ otherHandling.result = .aborted ∧
        Event.wire handling.events = [] ∧ Event.wire otherHandling.events = []) ∨
      ∃ response : Response,
        Event.wire handling.events = Utf8.encode response.head ++ response.body ∧
        Event.wire otherHandling.events = Utf8.encode response.head ∧
        (Text.Unbroken settings.signature → ∃ keepAlive, response.Kept keepAlive) := by
  intro handling otherHandling
  have parsed : Method.parse? "GET" = some .get := by decide +kernel
  have otherParsed : Method.parse? "HEAD" = some .head := by decide +kernel
  obtain ⟨included, hidden⟩ := reply?_of_head standalone.blind (standalone.supports parsed get)
    (standalone.supports otherParsed head) asked read otherRead now peer
  have wire := (server.wire_handle now connection peer).2 accepting
  have otherWire := (server.wire_handle now other peer).2 otherAccepting
  rw [hidden] at otherWire
  cases reply : server.reply? (server.serve now connection peer) with
  | none =>
    rw [reply] at wire otherWire hidden
    exact .inl ⟨result_handle_eq_aborted_iff.mpr (standalone.ending_of_unreplied read reply),
      result_handle_eq_aborted_iff.mpr (standalone.ending_of_unreplied otherRead hidden), wire,
      otherWire⟩
  | some response =>
    rw [reply] at wire otherWire
    refine .inr ⟨response, ?_, ?_, fun signed => ?_⟩
    · rw [wire, Option.elim_some, Response.wire, if_pos (included response reply)]
    · rw [otherWire]
      exact List.append_nil _
    · obtain ⟨keepAlive, kept, -⟩ := exists_kept_of_reply? (standalone.signature ▸ signed)
        (fun method listed => (standalone.plain_methods method listed).unbroken)
        standalone.restrained reply
      exact ⟨keepAlive, kept⟩

/-- **The answer to a `HEAD` request is the answer to `GET` without the body.** A server without
handlers supports `GET` and `HEAD`. Some bytes begin with a `GET` request, the head of which is
within the limit with `HEAD` in the place of `GET` as well. One connection brings these bytes,
another one the bytes with `HEAD`, no write and no flush goes wrong on either, and the instant is
the same. Then the requests that are read differ in the method alone. Both handlings break off with
nothing sent, at a file that was changed at an instant without a date, or there is a response, the
head of which ends in an empty line: the first peer gets its head and its body, and the second peer
its head. If the signature holds no line break this is the first empty line, so the second peer gets
just what is left of the answer to the first one when it is cut off behind it. -/
theorem handle_of_head (made : standalone settings tree = .ok server)
    (get : "GET" ∈ settings.supportedMethods) (head : "HEAD" ∈ settings.supportedMethods)
    {tail : Bytes} {request : Request} {taken length : Nat}
    (whole : Request.read (Utf8.encode "GET" ++ tail) = .ok (request, taken))
    (asked : request.method = .get)
    (headed : headLength? (Utf8.encode "HEAD" ++ tail) = some length)
    (small : length + terminatorBytes ≤ Connection.maxHeadBytes)
    {connection : Connection σ} {other : Connection τ}
    (brought : connection.Brings (Utf8.encode "GET" ++ tail))
    (otherBrought : other.Brings (Utf8.encode "HEAD" ++ tail))
    (now : HeaderDate) (peer : Option String)
    (willing : Event.Willing (server.handle now connection peer).events)
    (otherWilling : Event.Willing (server.handle now other peer).events) :
    let handling := server.handle now connection peer
    let otherHandling := server.handle now other peer
    (connection.readRequest.value = .ok request ∧
        other.readRequest.value = .ok { request with method := .head }) ∧
      ((handling.result = .aborted ∧ otherHandling.result = .aborted ∧
          Event.wire handling.events = [] ∧ Event.wire otherHandling.events = [] ∧
          ∃ root path, settings.documentRoot = some root ∧
            FileProvider.Undated ⟨Utf8.encode root, tree⟩ path) ∨
        ∃ response : Response, headEnd <:+ Utf8.encode response.head ∧
          Event.wire handling.events = Utf8.encode response.head ++ response.body ∧
          Event.wire otherHandling.events = Utf8.encode response.head) ∧
      (Text.Unbroken settings.signature →
        Event.wire otherHandling.events = cutBehindHead (Event.wire handling.events)) := by
  intro handling otherHandling
  have standalone := standalone_of_eq_ok made
  obtain ⟨read, otherRead⟩ := Connection.readRequest_of_head whole asked headed small brought
    otherBrought
  refine ⟨⟨read, otherRead⟩, ?_⟩
  obtain ⟨broken, otherBroken, silent, otherSilent⟩ | ⟨response, sent, otherSent, kept⟩ :=
    standalone.wire_of_head get head asked read otherRead willing.accepting otherWilling.accepting
  · obtain ⟨-, -, root, path, -, rooted, -, undated⟩ :=
      standalone.exists_undated (brokenOff_of_aborted broken)
    refine ⟨.inl ⟨broken, otherBroken, silent, otherSilent, root, path, rooted, undated⟩, ?_⟩
    intro signed
    rw [silent, otherSilent]
    rfl
  · refine ⟨.inr ⟨response, response.headEnd_suffix_head, sent, otherSent⟩, ?_⟩
    intro signed
    obtain ⟨keepAlive, kept⟩ := kept signed
    rw [sent, otherSent]
    exact (kept.cutBehindHead_append response.body).symm

/-- The bytes behind the method of a request for the index of the dated files. -/
def indexTail : Bytes := Utf8.encode " /docs/ HTTP/1.1\r\nConnection: keep-alive\r\n\r\n"

/-- A connection whose peer asks for the index with some method, on a stream that takes the answer
in pieces. -/
def indexConnection (token : String) : Connection Script :=
  .ofStream ⟨[Utf8.encode token, indexTail].map .bytes, [.accept 20, .accept 3], [], none⟩

/-- The index is asked for with `GET`, and its head alone with `HEAD`. -/
theorem handle_of_head_index :
    let answer := fun token =>
      Event.wire (datedServer.handle ⟨0, by decide⟩ (indexConnection token) none).events
    answer "GET" ≠ [] ∧ answer "HEAD" = cutBehindHead (answer "GET") := by
  intro answer
  have answered : answer "GET" ≠ [] := by decide +kernel
  have brought : (indexConnection "GET").Brings (Utf8.encode "GET" ++ indexTail) := by
    refine ⟨[Utf8.encode "GET", indexTail], ?_, by decide +kernel⟩
    exact (Connection.delivers_script [.accept 20, .accept 3] [] none (by decide +kernel)).gives
  have otherBrought : (indexConnection "HEAD").Brings (Utf8.encode "HEAD" ++ indexTail) := by
    refine ⟨[Utf8.encode "HEAD", indexTail], ?_, by decide +kernel⟩
    exact (Connection.delivers_script [.accept 20, .accept 3] [] none (by decide +kernel)).gives
  have whole : Request.read (Utf8.encode "GET" ++ indexTail) =
      .ok (⟨.get, "/docs/", none, "HTTP/1.1", ⟨[("Connection", "keep-alive")]⟩, []⟩, 47) := by
    decide +kernel
  have headed : headLength? (Utf8.encode "HEAD" ++ indexTail) = some 44 := by decide +kernel
  have small : 44 + terminatorBytes ≤ Connection.maxHeadBytes := by decide
  obtain ⟨-, -, cut⟩ := handle_of_head standalone_dated (by decide) (by decide) whole rfl headed
    small brought otherBrought ⟨0, by decide⟩ none (by decide +kernel) (by decide +kernel)
  exact ⟨answered, cut (by decide +kernel)⟩

end Server

end OriginServer
