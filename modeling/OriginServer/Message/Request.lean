import OriginServer.Message.Form
import OriginServer.Message.Headers
import OriginServer.Message.Method
import OriginServer.Text.Chars

/-!
# Requests

A request as it reaches the providers. Its target is cut at the first question mark into a path
and an optional query.
-/
namespace OriginServer

/-- One request of a client. -/
structure Request where
  /-- What is asked for. -/
  method : Method
  /-- The target up to its first question mark. -/
  path : String
  /-- The target after its first question mark, if it has one. -/
  query : Option String
  /-- The protocol version of the request line. -/
  version : String
  /-- The header fields. -/
  headers : Headers
  /-- The bytes after the head. -/
  body : Bytes
  deriving DecidableEq, Inhabited

/-- A target cut at its first question mark. -/
def splitTarget (target : String) : String × Option String :=
  match Text.cutAt? '?' target.toList with
  | some (path, query) => (String.ofList path, some (String.ofList query))
  | none => (target, none)

namespace Request

/-- The value of a header. -/
def header? (request : Request) (name : String) : Option String := request.headers.get? name

/-- Whether the client asks to keep the connection open: its `Connection` header is `keep-alive`
in any case, blanks around it aside. -/
def wantsKeepAlive (request : Request) : Bool :=
  match request.header? "Connection" with
  | some value => Text.sameLetters (String.ofList (Text.trim value.toList)) "keep-alive"
  | none => false

/-- The parameters of the query, in order. -/
def parameters (request : Request) : List (String × String) :=
  (request.query.map Form.fields).getD []

/-- The value of the first parameter with a name. -/
def parameter? (request : Request) (name : String) : Option String :=
  request.parameters.lookup name

/-- What a request is made from; target and method may still be missing. -/
structure Draft where
  /-- The method, if given. -/
  method : Option Method
  /-- The target, if given. -/
  target : Option String
  /-- The protocol version, `HTTP/1.1` if not given. -/
  version : Option String
  /-- The header fields. -/
  headers : Headers
  /-- The body. -/
  body : Bytes

/-- Why a draft makes no request. -/
inductive Draft.Gap where
  /-- The target was not given. -/
  | target
  /-- The method was not given. -/
  | method
  deriving DecidableEq, Repr

/-- The message for a gap. -/
def Draft.Gap.message : Gap → String
  | target => "path missing"
  | method => "method missing"

/-- The draft with nothing given. -/
def Draft.empty : Draft := ⟨none, none, none, .empty, []⟩

/-- The request of a draft. A missing target is reported before a missing method. -/
def Draft.build (draft : Draft) : Except Draft.Gap Request := do
  let some target := draft.target | throw .target
  let some method := draft.method | throw .method
  let (path, query) := splitTarget target
  return { method, path, query, version := draft.version.getD "HTTP/1.1",
           headers := draft.headers, body := draft.body }

end Request

end OriginServer
