import OriginServer.Message.Headers
import OriginServer.Message.Status
import OriginServer.Text.Utf8

/-!
# Responses

A response under construction: providers, handlers and filters change it freely. The headers
`Content-Length` and `Connection` of the sent message come from the body and the flags, so they
need not be set. `Response.wire` gives the bytes of a response: the status line, the header lines,
an empty line and, if it is included, the body; the derived headers stand last, and entries of the
header map under their names are left out. An `Outgoing` response also knows whether it was handed
to a connection; once it was, it is not sent again, whatever becomes of the response.
-/
namespace OriginServer

open Text (sameLetters)

/-- The answer to one request. -/
structure Response where
  /-- The outcome announced. -/
  status : Status
  /-- The header fields. -/
  headers : Headers
  /-- The body. -/
  body : Bytes
  /-- Whether the connection may carry another request. -/
  keepAlive : Bool
  /-- Whether the body is sent after the head. -/
  includeBody : Bool
  deriving DecidableEq, Inhabited

namespace Response

/-- An empty response with a status. It closes the connection and includes its body. -/
def ofStatus (status : Status) : Response :=
  { status, headers := .empty, body := [], keepAlive := false, includeBody := true }

/-- The response that a request starts from. -/
def initial : Response := ofStatus .ok

/-- The value of a header. -/
def header? (response : Response) (name : String) : Option String := response.headers.get? name

/-- Set a header. -/
def setHeader (response : Response) (name value : String) : Response :=
  { response with headers := response.headers.set name value }

/-- Remove all headers. -/
def clearHeaders (response : Response) : Response := { response with headers := .empty }

/-- Set the status. -/
def setStatus (response : Response) (status : Status) : Response := { response with status }

/-- Replace the body. -/
def setBody (response : Response) (body : Bytes) : Response := { response with body }

/-- Add bytes at the end of the body. -/
def write (response : Response) (bytes : Bytes) : Response :=
  { response with body := response.body ++ bytes }

/-- Decide whether the connection may carry another request. -/
def setKeepAlive (response : Response) (keepAlive : Bool) : Response :=
  { response with keepAlive }

/-- Decide whether the body is sent. -/
def setIncludeBody (response : Response) (includeBody : Bool) : Response :=
  { response with includeBody }

/-- Point the client to another address: the body goes, other headers stay. -/
def redirectPermanent (response : Response) (location : String) : Response :=
  { response.setHeader "Location" location with status := .movedPermanently, body := [] }

/-- Forget status, headers and body. The flags stay. -/
def reset (response : Response) : Response :=
  { response with status := .ok, headers := .empty, body := [] }

/-! ## Responses on the wire -/

/-- The first line, without its line end. -/
def statusLine (response : Response) : String :=
  s!"HTTP/1.1 {response.status.code} {response.status.reason}"

/-- Whether the value of a header is derived when the response is sent. -/
def isDerived (name : String) : Bool :=
  sameLetters name "Content-Length" || sameLetters name "Connection"

/-- The word for the keep-alive flag. -/
def connectionOption (response : Response) : String :=
  if response.keepAlive then "keep-alive" else "close"

/-- The header fields as they are sent. -/
def sentFields (response : Response) : List (String × String) :=
  response.headers.entries.filter (fun entry => !isDerived entry.1) ++
    [("Content-Length", toString response.body.length), ("Connection", response.connectionOption)]

/-- A header line, with its line end. -/
def fieldLine (field : String × String) : String := field.1 ++ ": " ++ field.2 ++ "\r\n"

/-- Everything before the body, the empty line included. -/
def head (response : Response) : String :=
  response.statusLine ++ "\r\n" ++ String.join (response.sentFields.map fieldLine) ++ "\r\n"

/-- The bytes of a response. -/
def wire (response : Response) : Bytes :=
  Utf8.encode response.head ++ if response.includeBody then response.body else []

end Response

/-- A response together with the fact whether it was handed to a connection. -/
structure Outgoing where
  /-- The response. -/
  response : Response
  /-- Whether it was handed to a connection. -/
  committed : Bool
  deriving DecidableEq, Inhabited

namespace Outgoing

/-- A response that was not handed to a connection yet. -/
def ofResponse (response : Response) : Outgoing := ⟨response, false⟩

/-- Change the response; this does not undo that it was handed to a connection. -/
def update (change : Response → Response) (outgoing : Outgoing) : Outgoing :=
  { outgoing with response := change outgoing.response }

end Outgoing

end OriginServer
