import Mathlib.Control.Monad.Basic
import Mathlib.Data.List.Forall2
import OriginServer.Proofs.Message.HeaderLines
import OriginServer.Proofs.Reading.Bound
import OriginServer.Proofs.Reading.Grammar
import OriginServer.Proofs.Serving.Standalone

/-!
# Whether a connection stays open

A client asks to keep its connection open with its last `Connection` header, the configuration
allows it, and work that ends well leaves it at that; everything else closes the connection. If the
providers leave this decision alone and no header makes more than one line, the answer says what was
decided in its one `Connection` line (`Server.connection_line_decided`). A signature or a method
with a line break in it brings in another such line (`Server.exists_other_connection_line`).
-/
namespace OriginServer

open Text (FieldName Unbroken sameLetters trim)
open RequestHead (FieldLine Inscribed)

/-! ## What a client asks for -/

/-- Bytes that ask to keep the connection open: of the header lines in their head, the last one that
is named `Connection`, in any case of its letters, has the value `keep-alive`, in any case as
well. -/
inductive AsksToStayOpen (bytes : Bytes) : Prop where
  /-- The last line named `Connection` asks for it. -/
  | last {head rest : Bytes} {first : List Char} {others : List (List Char)}
      {fields before after : List (String × String)} {name value : String}
      (framed : Framed bytes head rest) (inscribed : Inscribed head (first :: others))
      (fieldLines : List.Forall₂ FieldLine others fields)
      (parts : fields = before ++ (name, value) :: after)
      (named : sameLetters name "Connection" = true)
      (last : ∀ field ∈ after, sameLetters field.1 "Connection" = false)
      (asking : sameLetters value "keep-alive" = true) : AsksToStayOpen bytes

/-- No blanks stand around the values of header lines. -/
theorem RequestHead.trim_of_fieldLines {lines : List (List Char)} {fields : List (String × String)}
    (fieldLines : List.Forall₂ FieldLine lines fields) :
    ∀ field ∈ fields, String.ofList (trim field.2.toList) = field.2 := by
  induction fieldLines with
  | nil => simp
  | cons fieldLine later ih =>
    rw [List.forall_mem_cons]
    refine ⟨?_, ih⟩
    obtain ⟨name, value, -, -, -, valued, -⟩ := fieldLine
    rw [Text.trim_of_solid valued.begins valued.ends, String.ofList_toList]

namespace Request

/-- A request that is read has the fields of its header lines. -/
theorem exists_fields_of_read {bytes : Bytes} {request : Request} {taken : Nat}
    (read : Request.read bytes = .ok (request, taken)) :
    ∃ head rest first others fields, Framed bytes head rest ∧
      Inscribed head (first :: others) ∧ List.Forall₂ FieldLine others fields ∧
      request.headers = .ofList fields := by
  cases Request.grammar_of_read read with
  | @whole head body rest parts path query framed wellFormed target measured =>
    cases wellFormed with
    | whole inscribed requestLine spelled fieldLines declared =>
      exact ⟨head, body ++ rest, _, _, _, framed, inscribed, fieldLines, rfl⟩

/-- The header lines of some bytes have only one list of fields. -/
theorem fields_unique {bytes head rest otherHead otherRest : Bytes} {first otherFirst : List Char}
    {others otherOthers : List (List Char)} {fields otherFields : List (String × String)}
    (framed : Framed bytes head rest) (otherFramed : Framed bytes otherHead otherRest)
    (inscribed : Inscribed head (first :: others))
    (otherInscribed : Inscribed otherHead (otherFirst :: otherOthers))
    (fieldLines : List.Forall₂ FieldLine others fields)
    (otherFieldLines : List.Forall₂ FieldLine otherOthers otherFields) : fields = otherFields := by
  have found := splitHead_eq_some_iff_framed.mpr framed
  rw [splitHead_eq_some_iff_framed.mpr otherFramed, Option.some.injEq, Prod.mk.injEq] at found
  obtain ⟨text, encoded, lined⟩ := inscribed
  obtain ⟨otherText, otherEncoded, otherLined⟩ := otherInscribed
  obtain rfl : text = otherText :=
    Utf8.encode_injective (encoded.trans (found.1.symm.trans otherEncoded.symm))
  have lines := (Text.lines_eq_iff.mpr lined).symm.trans (Text.lines_eq_iff.mpr otherLined)
  obtain ⟨-, rfl⟩ := List.cons.inj lines
  have unique : Relator.RightUnique FieldLine := by
    intro line field other read otherRead
    have same := RequestHead.readField_eq_ok_iff.mpr read
    rw [RequestHead.readField_eq_ok_iff.mpr otherRead] at same
    exact (Except.ok.inj same).symm
  exact List.right_unique_forall₂' unique fieldLines otherFieldLines

/-- A request that is read wants to keep the connection open exactly if its bytes ask for it. -/
theorem wantsKeepAlive_iff {bytes : Bytes} {request : Request} {taken : Nat}
    (read : Request.read bytes = .ok (request, taken)) :
    request.wantsKeepAlive = true ↔ AsksToStayOpen bytes := by
  obtain ⟨head, rest, first, others, fields, framed, inscribed, fieldLines, headers⟩ :=
    exists_fields_of_read read
  have wanted : request.wantsKeepAlive = true ↔ ∃ value,
      (Headers.ofList fields).get? "Connection" = some value ∧
        sameLetters (String.ofList (trim value.toList)) "keep-alive" = true := by
    rw [wantsKeepAlive, header?, headers]
    cases (Headers.ofList fields).get? "Connection" with
    | none => simp
    | some value => simp
  rw [wanted]
  constructor
  · rintro ⟨value, kept, asking⟩
    obtain ⟨before, name, after, parts, named, last⟩ := Headers.get?_ofList_eq_some_iff.mp kept
    have bare := RequestHead.trim_of_fieldLines fieldLines (name, value) (by simp [parts])
    rw [bare] at asking
    exact .last framed inscribed fieldLines parts named last asking
  · rintro ⟨otherFramed, otherInscribed, otherFieldLines, parts, named, last, asking⟩
    have same := fields_unique framed otherFramed inscribed otherInscribed fieldLines
      otherFieldLines
    have inside : (_, _) ∈ _ := parts ▸ List.mem_append_right _ List.mem_cons_self
    have bare := RequestHead.trim_of_fieldLines otherFieldLines _ inside
    rw [same]
    refine ⟨_, Headers.get?_ofList_eq_some_iff.mpr ⟨_, _, _, parts, named, last⟩, ?_⟩
    rw [bare]
    exact asking

end Request

/-- What a connection returns stands at the front of the bytes that it has received. -/
theorem Connection.exists_read_of_received {σ : Type} [Transport σ] [Transport.Lawful σ]
    {stream : σ} {request : Request}
    (returned : (ofStream stream).readRequest.value = .ok request) :
    ∃ taken, Request.read ((ofStream stream).readRequest.events.flatMap StreamEvent.received) =
      .ok (request, taken) := by
  have fresh : Bounded (ofStream stream).buffer := bounded_of_short (by decide : 0 < readRoom)
  obtain ⟨pieces, last, ending, turns, stops, call⟩ := exists_turns fresh
  have received : (ofStream stream).readRequest.events.flatMap StreamEvent.received =
      last.buffer := by
    have buffered : last.buffer = pieces.flatten := turns.buffer_eq
    have given : (pieces.map fun piece => StreamEvent.read (.ok piece)).flatMap
        StreamEvent.received = pieces.flatten := by
      rw [List.flatMap_map, List.flatten_eq_flatMap]
      rfl
    rw [call, buffered, List.flatMap_append, given, stops.events.2, List.append_nil]
  rw [received]
  rw [call] at returned
  cases stops with
  | @returned found taken done =>
    obtain rfl : found = request := Except.ok.inj returned
    exact ⟨taken, done⟩
  | refused refused complete => cases returned
  | overlong unfound overlong => cases returned
  | ended waiting given => cases returned
  | faulted waiting given => cases returned

/-! ## Work that leaves the decision alone -/

/-- The response that a request starts from has no headers and closes the connection. -/
theorem Response.kept_initialResponse (request : Request) :
    (Server.initialResponse request).Kept false := by
  rw [Server.initialResponse]
  split
  · exact ⟨by decide, rfl⟩
  · exact ⟨by decide, rfl⟩

/-- Work on a response that leaves open whether the connection stays open, and sets no header of
more than one line. -/
def Response.Restrained (work : Response → Response) : Prop :=
  ∀ keepAlive response, response.Kept keepAlive → (work response).Kept keepAlive

/-- A provider does not decide whether the connection stays open, whatever it loads. -/
def Provider.Restrained (provider : Provider) : Prop :=
  ∀ path request, Response.Restrained fun response => (provider.load path request response).response

namespace HandlerProvider

/-- A chain of filters in front of a handler does not decide whether the connection stays open if
none of them does. -/
theorem restrained_runChain {provider : HandlerProvider} {path : String} {request : Request}
    {handler : Handler} (handled : Response.Restrained fun response => (handler request response).1)
    (filters : ∀ entry ∈ provider.filters,
      Response.Restrained fun response => (entry.2 request response).1)
    (mappings : List FilterMapping) :
    Response.Restrained fun response =>
      (provider.runChain path request handler mappings response).response := by
  intro keepAlive response kept
  -- Each filter of the chain hands on a response that is kept.
  induction mappings generalizing response with
  | nil =>
    have left : (handler request response).1.Kept keepAlive := handled keepAlive response kept
    dsimp only
    rw [runChain]
    split
    · rename_i outcome
      rwa [outcome] at left
    · rename_i outcome
      rwa [outcome] at left
  | cons mapping rest ih =>
    dsimp only at ih ⊢
    rw [runChain]
    cases found : provider.filter? mapping.filter with
    | none => exact ih response kept
    | some filter =>
      obtain ⟨before, after, listed, -⟩ := List.lookup_eq_some_iff.mp found
      have left : (filter request response).1.Kept keepAlive :=
        filters (mapping.filter, filter) (by simp [listed]) keepAlive response kept
      dsimp only
      split
      · rename_i outcome
        rw [outcome] at left
        exact ih _ left
      · rename_i outcome
        rwa [outcome] at left
      · rename_i outcome
        rwa [outcome] at left

/-- Handlers and filters that do not decide whether the connection stays open make a provider that
does not. -/
theorem restrained_toProvider {provider : HandlerProvider}
    (handlers : ∀ route ∈ provider.handlers, ∀ request,
      Response.Restrained fun response => (route.2 request response).1)
    (filters : ∀ entry ∈ provider.filters, ∀ request,
      Response.Restrained fun response => (entry.2 request response).1) :
    provider.toProvider.Restrained := by
  intro path request keepAlive response kept
  change (provider.load path request response).response.Kept keepAlive
  rw [load]
  cases routed : provider.handler? path with
  | none => exact kept
  | some handler =>
    obtain ⟨before, after, listed, -⟩ := List.lookup_eq_some_iff.mp routed
    have handled := handlers (path, handler) (by simp [listed]) request
    have filtered := fun entry inside => filters entry inside request
    exact restrained_runChain handled filtered (provider.mappingsFor path) keepAlive response kept

end HandlerProvider

/-- Files do not decide whether the connection stays open. -/
theorem FileProvider.restrained_toProvider (provider : FileProvider) :
    provider.toProvider.Restrained := by
  intro path request keepAlive response kept
  obtain ⟨changes, ending, loads, loaded⟩ := provider.exists_loads path
  change (provider.load path response).response.Kept keepAlive
  rw [(loaded response).1]
  exact kept.applyAll loads.single

namespace ServerConfig

variable {config : ServerConfig} {request : Request} {given : Response} {before : Bool}

/-- A response that is prepared for a request stays open if the configuration allows it and the
request wants it. -/
theorem kept_prepare (signed : Unbroken config.signature) (now : HeaderDate) (request : Request)
    (kept : given.Kept before) :
    (config.prepare now request given).Kept (config.keepAlive && request.wantsKeepAlive) := by
  have serverName : FieldName "Server" := by decide +kernel
  have dateName : FieldName "Date" := by decide +kernel
  have decided : (given.setKeepAlive (config.keepAlive && request.wantsKeepAlive)).Kept
      (config.keepAlive && request.wantsKeepAlive) := ⟨kept.single, rfl⟩
  have named := decided.apply (.setHeader "Server" config.signature) ⟨serverName, signed⟩
  exact named.apply (.setHeader "Date" now.format)
    ⟨dateName, now.plain_format.unbroken⟩

/-- A request that is answered well leaves the connection open if the configuration allows it and
the request wants it, unless a provider decides otherwise. -/
theorem kept_dispatch (signed : Unbroken config.signature)
    (restrained : ∀ provider ∈ config.providers, provider.Restrained) {now : HeaderDate}
    (kept : given.Kept before) (done : (config.dispatch now request given).ending = .done) :
    (config.dispatch now request given).response.Kept
      (config.keepAlive && request.wantsKeepAlive) := by
  have prepared := config.kept_prepare signed now request kept
  obtain ⟨trace, response, ending, routed⟩ :=
    exists_routed config request given (config.prepare now request given)
  obtain ⟨-, left, ended⟩ := dispatch_of_routed routed
  rw [ended] at done
  rw [left]
  cases routed with
  | denied illegal => cases done
  | unsupported legal unsupported => cases done
  | direct legal supported claim =>
    exact restrained _ (List.mem_of_getElem? claim.placed) _ _ _ _ prepared
  | missing legal supported unclaimed noIndex => cases done
  | index legal supported unclaimed found directory =>
    exact restrained _ (List.mem_of_getElem? found.claim.placed) _ _ _ _ prepared
  | redirected legal supported unclaimed found noDirectory =>
    have location : Unbroken (request.path ++ "/") := by
      apply Text.Plain.unbroken
      rw [Text.plain_append_iff]
      exact ⟨Path.plain_of_legal legal, by decide +kernel⟩
    exact prepared.apply (.redirectPermanent (request.path ++ "/")) location

end ServerConfig

namespace Server

variable {server : Server}

/-- An error page closes the connection. -/
theorem kept_errorResponse (signed : Unbroken server.config.signature)
    (listed : ∀ method ∈ server.pages.supportedMethods, Unbroken method.text) (failure : Failure)
    (response : Response) : (server.errorResponse failure response).Kept false := by
  have typeName : FieldName "Content-Type" := by decide +kernel
  have allowName : FieldName "Allow" := by decide +kernel
  have serverName : FieldName "Server" := by decide +kernel
  have typeValue : Unbroken "text/html; charset=utf-8" := by decide +kernel
  have methods : Unbroken server.pages.allowList := by
    have apart : Unbroken ", " := by decide +kernel
    exact Text.forall_mem_intercalate apart (List.forall_mem_map.mpr listed)
  have blank : (response.reset.setKeepAlive false).Kept false :=
    ⟨by simp [Response.reset, Response.setKeepAlive, Headers.empty], rfl⟩
  have typed := blank.apply (.setHeader "Content-Type" "text/html; charset=utf-8")
    ⟨typeName, typeValue⟩
  have named : ∀ page : Response, page.Kept false →
      (page.setHeader "Server" server.config.signature).Kept false :=
    fun page kept => kept.apply (.setHeader _ _) ⟨serverName, signed⟩
  have single : ∀ entry ∈ (server.errorResponse failure response).headers.entries,
      FieldName entry.1 ∧ Unbroken entry.2 := by
    cases failure with
    | methodNotAllowed method =>
      have allowed := typed.apply (.setHeader "Allow" server.pages.allowList) ⟨allowName, methods⟩
      exact (named _ allowed).single
    | _ => exact (named _ typed).single
  exact ⟨single, rfl⟩

variable {σ : Type} [Transport σ] {connection : Connection σ} {now : HeaderDate}
variable {peer : Option String}

/-- The connection is to stay open: a request was read and the work on it ended well, the
configuration allows it, and the bytes that were received ask for it. -/
def StaysOpen (server : Server) (now : HeaderDate) (connection : Connection σ)
    (peer : Option String) : Prop :=
  (∃ request, connection.readRequest.value = .ok request) ∧
    (server.serve now connection peer).ending = .done ∧ server.config.keepAlive = true ∧
    AsksToStayOpen (connection.readRequest.events.flatMap StreamEvent.received)

/-- The header lines of a reply are single, and its flag says whether a request was read that ended
well and wants the connection to stay open. -/
theorem exists_kept_of_reply? (signed : Unbroken server.config.signature)
    (listed : ∀ method ∈ server.pages.supportedMethods, Unbroken method.text)
    (restrained : ∀ provider ∈ server.config.providers, provider.Restrained) {response : Response}
    (reply : server.reply? (server.serve now connection peer) = some response) :
    ∃ keepAlive, response.Kept keepAlive ∧
      (keepAlive = true ↔ (server.serve now connection peer).ending = .done ∧
        ∃ request, connection.readRequest.value = .ok request ∧
          (server.config.keepAlive && request.wantsKeepAlive) = true) := by
  obtain ⟨done, rfl⟩ | ⟨failure, failed, -, rfl⟩ := reply?_eq_some_iff.mp reply
  · cases received : connection.readRequest.value with
    | error failure =>
      rw [serve_of_error received] at done
      cases done
    | ok request =>
      rw [serve_of_ok received] at done ⊢
      have kept := ServerConfig.kept_dispatch signed restrained
        (Response.kept_initialResponse request) done
      refine ⟨_, kept, ?_⟩
      rw [and_iff_right done]
      simp
  · exact ⟨false, kept_errorResponse signed listed _ _, by simp [failed]⟩

/-- The connection is to stay open if a request was read that ended well and wants it to. -/
theorem staysOpen_iff [Transport.Lawful σ] {stream : σ} :
    server.StaysOpen now (.ofStream stream) peer ↔
      (server.serve now (.ofStream stream) peer).ending = .done ∧
        ∃ request, (Connection.ofStream stream).readRequest.value = .ok request ∧
          (server.config.keepAlive && request.wantsKeepAlive) = true := by
  constructor
  · rintro ⟨⟨request, received⟩, ending, allowed, asking⟩
    obtain ⟨taken, read⟩ := Connection.exists_read_of_received received
    refine ⟨ending, request, received, ?_⟩
    rw [allowed, (Request.wantsKeepAlive_iff read).mpr asking]
    rfl
  · rintro ⟨ending, request, received, wanted⟩
    obtain ⟨allowed, wants⟩ := Bool.and_eq_true_iff.mp wanted
    obtain ⟨taken, read⟩ := Connection.exists_read_of_received received
    exact ⟨⟨request, received⟩, ending, allowed, (Request.wantsKeepAlive_iff read).mp wants⟩

/-- **The answer says in one line whether the connection stays open.** The signature and the methods
that error pages list hold no line break, and the providers leave it open whether the connection
stays open, whatever else they do to a response with headers of one line each. Then whatever arrives
on a stream, the peer gets nothing because there is no reply, or it gets the beginning of an answer,
and all of it if no write goes wrong. The answer has one header line named `Connection`. It says
`keep-alive` if the connection is to stay open, and `close` if not. -/
theorem connection_line_decided [Transport.Lawful σ] (signed : Unbroken server.config.signature)
    (listed : ∀ method ∈ server.pages.supportedMethods, Unbroken method.text)
    (restrained : ∀ provider ∈ server.config.providers, provider.Restrained) (now : HeaderDate)
    (stream : σ) (peer : Option String) :
    let connection := Connection.ofStream stream
    let events := (server.handle now connection peer).events
    (server.reply? (server.serve now connection peer) = none ∧ Event.wire events = []) ∨
      ∃ answer option, Event.wire events <+: answer ∧
        (Event.Accepting events → Event.wire events = answer) ∧
        linesNamed "Connection" answer = ["Connection: " ++ option] ∧
        (server.StaysOpen now connection peer → option = "keep-alive") ∧
        (¬server.StaysOpen now connection peer → option = "close") := by
  intro connection events
  have sent := server.wire_handle now connection peer
  cases reply : server.reply? (server.serve now connection peer) with
  | none =>
    rw [reply] at sent
    exact .inl ⟨rfl, List.prefix_nil.mp sent.1⟩
  | some response =>
    rw [reply] at sent
    obtain ⟨keepAlive, kept, stays⟩ := exists_kept_of_reply? signed listed restrained reply
    rw [← staysOpen_iff] at stays
    refine .inr ⟨response.wire, _, sent.1, sent.2, kept.connection_line, ?_, ?_⟩
    · intro opened
      rw [if_pos (stays.mpr opened)]
    · intro closed
      rw [if_neg (mt stays.mp closed)]

/-- What the handler of a chat does to a response: it sets headers named `Connection` and removes
all headers in between. -/
def chatChanges : List Response.Change :=
  [.setHeader "CONNECTION" "close", .clearHeaders, .setHeader "connection" "upgrade",
    .setBody (Utf8.encode "hello")]

/-- The handlers of the chat. -/
def chatHandlers : HandlerProvider :=
  HandlerProvider.empty.route "/chat" fun _ response =>
    (chatChanges.foldl Response.Change.apply response, .ok ())

/-- The server of the chat. -/
def chatServer : Server :=
  { config := { ServerConfig.initial with providers := [chatHandlers.toProvider] }
    pages := ⟨[.get, .head], none, none⟩
    observer := .silent }

/-- A stream whose peer first asks to close the connection and then to keep it open. -/
def chatStream : Script :=
  .ofBytes (Utf8.encode
    "GET /chat HTTP/1.1\r\nConnection: close\r\nCONNECTION:\t Keep-Alive \r\n\r\n")

/-- The chat is kept open as the peer asks for last, whatever its handler sets. -/
theorem connection_line_decided_chat :
    (∀ provider ∈ chatServer.config.providers, provider.Restrained) ∧
      linesNamed "Connection" (Event.wire
          (chatServer.handle ⟨0, by decide⟩ (.ofStream chatStream) none).events) =
        ["Connection: keep-alive"] := by
  have signed : Unbroken chatServer.config.signature := by decide +kernel
  have listed : ∀ method ∈ chatServer.pages.supportedMethods, Unbroken method.text := by
    decide +kernel
  have restrained : ∀ provider ∈ chatServer.config.providers, provider.Restrained := by
    intro provider inside
    rw [List.mem_singleton.mp inside]
    apply HandlerProvider.restrained_toProvider
    · intro route inside request keepAlive response kept
      rw [List.mem_singleton.mp inside]
      have single : ∀ change ∈ chatChanges, change.Single := by decide +kernel
      exact kept.applyAll single
    · intro entry inside
      cases inside
  let connection := Connection.ofStream chatStream
  have accepting :
      Event.Accepting (chatServer.handle ⟨0, by decide⟩ connection none).events := by
    have willing : Event.Willing (chatServer.handle ⟨0, by decide⟩ connection none).events := by
      decide +kernel
    exact willing.accepting
  obtain ⟨unreplied, -⟩ | ⟨answer, option, -, whole, line, stays, -⟩ :=
    connection_line_decided signed listed restrained ⟨0, by decide⟩ chatStream none
  · have replied : (chatServer.reply? (chatServer.serve ⟨0, by decide⟩ connection none)).isSome =
        true := by
      decide +kernel
    rw [unreplied] at replied
    cases replied
  · have received : connection.readRequest.value =
        .ok ⟨.get, "/chat", none, "HTTP/1.1", ⟨[("Connection", "Keep-Alive")]⟩, []⟩ := by
      decide +kernel
    obtain ⟨taken, read⟩ := Connection.exists_read_of_received received
    have asks := (Request.wantsKeepAlive_iff read).mp (by decide +kernel)
    have staying : chatServer.StaysOpen ⟨0, by decide⟩ connection none :=
      ⟨⟨_, received⟩, by decide +kernel, rfl, asks⟩
    refine ⟨restrained, ?_⟩
    rw [whole accepting, line, stays staying]
    rfl

/-- The answers of a server have one header line named `Connection`, whatever arrives. -/
def OneConnectionLine (server : Server) : Prop :=
  ∀ (now : HeaderDate) (stream : Script) (peer : Option String),
    let answer := Event.wire (server.handle now (.ofStream stream) peer).events
    answer ≠ [] → ∃ option, linesNamed "Connection" answer = ["Connection: " ++ option]

/-- An answer with two header lines named `Connection` has more than one. -/
theorem not_oneConnectionLine {server : Server} {now : HeaderDate} {stream : Script}
    {peer : Option String} {first second : String}
    (lines : linesNamed "Connection" (Event.wire
      (server.handle now (.ofStream stream) peer).events) = [first, second]) :
    ¬server.OneConnectionLine := by
  intro one
  obtain ⟨option, line⟩ := one now stream peer (by
    intro empty
    rw [empty] at lines
    cases lines)
  rw [lines] at line
  cases congrArg List.length line

/-- A server without providers that calls itself by two lines. -/
def twoLinedServer : Server :=
  { config := { ServerConfig.initial with signature := "x\r\nConnection: keep-alive" }
    pages := ⟨[.get, .head], none, none⟩
    observer := .silent }

/-- A server without providers that supports one method, the name of which makes two lines. -/
def twoLinedMethodServer : Server :=
  let methods := [.extension "A\r\nConnection: keep-alive"]
  { config := { ServerConfig.initial with supportedMethods := methods }
    pages := ⟨methods, none, none⟩
    observer := .silent }

/-- An answer may have another header line named `Connection`, although no provider sets any header:
the signature may bring it in, and so may a method that an error page lists. -/
theorem exists_other_connection_line :
    (¬∀ server : Server, (∀ method ∈ server.pages.supportedMethods, Unbroken method.text) →
        (∀ provider ∈ server.config.providers, provider.Restrained) → server.OneConnectionLine) ∧
      ¬∀ server : Server, Unbroken server.config.signature →
        (∀ provider ∈ server.config.providers, provider.Restrained) →
        server.OneConnectionLine := by
  let stream : Script := .ofBytes (Utf8.encode "GET / HTTP/1.1\r\n\r\n")
  constructor
  · intro always
    have lines : linesNamed "Connection" (Event.wire
        (twoLinedServer.handle ⟨0, by decide⟩ (.ofStream stream) none).events) =
        ["Connection: keep-alive", "Connection: close"] := by
      decide +kernel
    apply not_oneConnectionLine lines
    exact always twoLinedServer (by decide +kernel) (by simp [twoLinedServer, ServerConfig.initial])
  · intro always
    have lines : linesNamed "Connection" (Event.wire
        (twoLinedMethodServer.handle ⟨0, by decide⟩ (.ofStream stream) none).events) =
        ["Connection: keep-alive", "Connection: close"] := by
      decide +kernel
    apply not_oneConnectionLine lines
    exact always twoLinedMethodServer (by decide +kernel)
      (by simp [twoLinedMethodServer, ServerConfig.initial])

end Server

end OriginServer
