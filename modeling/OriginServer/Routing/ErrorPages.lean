import OriginServer.Failure
import OriginServer.Message.Response

/-!
# Error pages

Each kind of failure has a page: a status, a body and, for a refused method, the list of the
methods that are supported. Two of the bodies can be replaced by documents.
-/
namespace OriginServer

/-- What error pages are made from. -/
structure ErrorPages where
  /-- The methods listed where a method is refused. -/
  supportedMethods : List Method
  /-- The body for a missing resource, if not the usual one. -/
  notFoundDocument : Option Bytes
  /-- The body for a refused path, if not the usual one. -/
  forbiddenDocument : Option Bytes
  deriving DecidableEq, Inhabited

namespace ErrorPages

/-- The status for a failure. -/
def status : Failure → Status
  | .accessDenied _ => .forbidden
  | .methodNotAllowed _ => .methodNotAllowed
  | .notFound _ => .notFound
  | .badRequest _ => .badRequest
  | .transport _ | .unclassified _ => .internalServerError

/-- The usual body for a status. -/
def usualBody (status : Status) : String :=
  let title := toString status.code ++ " " ++ status.reason
  "<html><head><title>" ++ title ++ "</title></head><body><h1>" ++ title ++ "</h1></body></html>"

/-- The document that replaces the usual body for a failure. -/
def document (pages : ErrorPages) : Failure → Option Bytes
  | .accessDenied _ => pages.forbiddenDocument
  | .notFound _ => pages.notFoundDocument
  | _ => none

/-- The list of supported methods for the `Allow` header. -/
def allowList (pages : ErrorPages) : String :=
  ", ".intercalate (pages.supportedMethods.map Method.text)

/-- The error page for a failure, in place of a response. Only the flags of the response stay. -/
def render (pages : ErrorPages) (failure : Failure) (response : Response) : Response :=
  let page := ((response.reset.setStatus (status failure)).setHeader "Content-Type"
    "text/html; charset=utf-8").setBody
      ((pages.document failure).getD (Utf8.encode (usualBody (status failure))))
  match failure with
  | .methodNotAllowed _ => page.setHeader "Allow" pages.allowList
  | _ => page

end ErrorPages

end OriginServer
