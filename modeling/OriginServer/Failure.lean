import OriginServer.Message.RequestHead
import OriginServer.Transport.Fault

/-!
# Failures and records

Why a request was not answered as it asked. A transport fault means that nothing can reach the
peer any more; every other failure is logical and is answered with an error page. What the server
has to say about its work is a list of records; where they go is decided outside this library.
-/
namespace OriginServer

/-- Why a request was not answered as it asked. -/
inductive Failure where
  /-- The path is refused. -/
  | accessDenied (path : String)
  /-- The method is not among the supported ones. -/
  | methodNotAllowed (method : Method)
  /-- Neither a provider nor a directory index has the path. -/
  | notFound (path : String)
  /-- The bytes hold no request. -/
  | badRequest (cause : ReadError)
  /-- The stream failed. -/
  | transport (fault : Fault)
  /-- Anything else, mostly from a provider. -/
  | unclassified (message : String)
  deriving DecidableEq, Repr, Inhabited

namespace Failure

/-- Whether nothing can reach the peer any more. -/
def isTransport : Failure → Bool
  | transport _ => true
  | _ => false

/-- The short name of the kind of failure. -/
def kind : Failure → String
  | accessDenied _ => "access_denied"
  | methodNotAllowed _ => "method_not_allowed"
  | notFound _ => "not_found"
  | badRequest _ => "bad_request"
  | transport _ => "transport"
  | unclassified _ => "unclassified"

/-- The text for people. -/
def message : Failure → String
  | accessDenied path => "access denied for path " ++ path
  | methodNotAllowed method => "method " ++ method.text ++ " not allowed"
  | notFound path => "no resource found for " ++ path
  | badRequest cause => "malformed request: " ++ cause.name
  | transport fault => "transport fault: " ++ fault.message
  | unclassified message => message

end Failure

/-! ## Records of a log -/

/-- How important a record is. -/
inductive LogLevel where
  | trace | debug | info | warn
  deriving DecidableEq, Repr, Inhabited

/-- The name of a level. -/
def LogLevel.name : LogLevel → String
  | trace => "TRACE"
  | debug => "DEBUG"
  | info => "INFO"
  | warn => "WARN"

/-- The value of a field of a record. -/
inductive LogValue where
  /-- A number. -/
  | number (value : Nat)
  /-- A text. -/
  | text (value : String)
  deriving DecidableEq, Repr, Inhabited

/-- One record. -/
structure LogRecord where
  /-- How important it is. -/
  level : LogLevel
  /-- What it says. -/
  message : String
  /-- What it says it of. -/
  fields : List (String × LogValue)
  deriving DecidableEq, Repr, Inhabited

end OriginServer
