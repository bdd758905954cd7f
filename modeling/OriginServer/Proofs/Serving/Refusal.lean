import OriginServer.Proofs.Message.Framing
import OriginServer.Proofs.Serving.Reporting

/-!
# What an error page gives away

The page of a failure replaces the response that the failure left behind: of that response only the
decision whether the body is sent stays (`Server.errorResponse_eq`). So two handlings that end in
failures of one kind offer their peers pages with one head, whatever was asked for and whatever
providers did before they failed (`Server.refused_alike`).
-/
namespace OriginServer

open Event (Attempted)
open Text (sameLetters)

namespace ErrorPages

/-- The body of the page for a failure. -/
def body (pages : ErrorPages) (failure : Failure) : Bytes :=
  (pages.document failure).getD (Utf8.encode (usualBody (status failure)))

/-- A page is not signed yet. -/
theorem lacks_render (pages : ErrorPages) (failure : Failure) (response : Response) :
    (pages.render failure response).headers.Lacks "Server" := by
  have blank : Headers.empty.Lacks "Server" := by simp [Headers.Lacks, Headers.empty]
  have typed := blank.set (by decide +kernel : sameLetters "Content-Type" "Server" = false)
    "text/html; charset=utf-8"
  cases failure with
  | methodNotAllowed method =>
    exact typed.set (by decide +kernel : sameLetters "Allow" "Server" = false) pages.allowList
  | _ => exact typed

end ErrorPages

namespace Server

/-- The page of a failure replaces a response; whether the body is sent stays. -/
theorem errorResponse_eq (server : Server) (failure : Failure) (response : Response) :
    server.errorResponse failure response =
      { server.errorResponse failure .initial with includeBody := response.includeBody } := by
  cases failure <;> rfl

/-- The headers of the page of a failure are those of its page, and behind them the signature. -/
theorem entries_errorResponse (server : Server) (failure : Failure) (response : Response) :
    (server.errorResponse failure response).headers.entries =
      (server.pages.render failure response).headers.entries ++
        [("Server", server.config.signature)] :=
  (server.pages.lacks_render failure response).entries_set server.config.signature

/-- The body of the page is the one for the failure. -/
theorem body_errorResponse (server : Server) (failure : Failure) (response : Response) :
    (server.errorResponse failure response).body = server.pages.body failure := by
  cases failure <;> rfl

/-- One field of the page declares the length of the page for the failure. -/
theorem named_length_errorResponse (server : Server) (failure : Failure) (response : Response) :
    (server.errorResponse failure response).message.named "Content-Length" =
      [("Content-Length", toString (server.pages.body failure).length)] := by
  rw [Response.named_length, body_errorResponse]

/-- A response is what is offered to the peer, and the peer accepts the beginning of it or all of
it. -/
structure Offered (response : Response) (events : List Event) : Prop where
  /-- All bytes of the response are offered. -/
  attempted : Attempted response events
  /-- No other bytes are accepted. -/
  part : Event.wire events <+: response.wire

variable {σ τ : Type} [Transport σ] [Transport τ] {left right : Server}

/-- A handling that ends in a logical failure reads, sends the page of the failure, and ends. -/
theorem ends_of_failed {server : Server} {now : HeaderDate} {connection : Connection σ}
    {peer : Option String} {failure : Failure}
    (failed : (server.handle now connection peer).result = .failed failure)
    (logical : failure.isTransport = false) :
    ∃ report, server.Ends (server.handle now connection peer)
      (connection.readRequest.events ++ (connection.readRequest.state.send (.ofResponse
        (server.errorResponse failure (server.serve now connection peer).response))).events)
      report (.failed failure) := by
  have returned : (server.handle now connection peer).result ≠ .aborted := by simp [failed]
  obtain ⟨sent, report, result, concluded, ends⟩ :=
    server.exists_concluded now connection peer returned
  obtain rfl := ends.result_eq.symm.trans failed
  have page := concluded.sent_eq
  rw [reply?_of_failed failed logical, Option.elim_some] at page
  subst page
  exact ⟨report, ends⟩

/-- When a handling ends in a logical failure the page of the failure is offered to the peer. -/
theorem offered_of_failed {server : Server} {now : HeaderDate} {connection : Connection σ}
    {peer : Option String} {failure : Failure}
    (failed : (server.handle now connection peer).result = .failed failure)
    (logical : failure.isTransport = false) :
    Offered (server.errorResponse failure (server.serve now connection peer).response)
      (server.handle now connection peer).events := by
  obtain ⟨report, ends⟩ := ends_of_failed failed logical
  have wire := ends.wire_of_reads connection.isRead_of_mem_readRequest
  exact ⟨ends.attempted, wire ▸ Connection.wire_send_prefix _ _⟩

end Server

end OriginServer
