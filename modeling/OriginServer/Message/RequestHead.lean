import OriginServer.Message.Request

/-!
# Reading requests

A request is read from the front of a byte list in two steps. `splitHead` cuts the bytes at the
first empty line; `RequestHead.read` reads what stands before it: a request line of three words
and header lines. The head says how many bytes of body follow. `Request.read` joins the two steps
and returns the request with the number of bytes that it takes.
-/
namespace OriginServer

open Text (trim words lines cutAt?)

/-- Why bytes hold no request. -/
inductive ReadError where
  /-- The head is no text, or its first line is no request line. -/
  | invalidRequest
  /-- The method is no token. -/
  | invalidMethod
  /-- A header line has no name, or the head is too long. -/
  | invalidHeader
  /-- The declared length is no number, or too large. -/
  | invalidContentLength
  /-- More bytes are needed. -/
  | incomplete
  deriving DecidableEq, Repr, Inhabited

/-- The name of a cause, as failure messages give it. -/
def ReadError.name : ReadError → String
  | invalidRequest => "InvalidRequest"
  | invalidMethod => "InvalidMethod"
  | invalidHeader => "InvalidHeader"
  | invalidContentLength => "InvalidContentLength"
  | incomplete => "Incomplete"

/-- The largest body that is accepted. -/
def maxBodyBytes : Nat := 1048576

/-- Cut bytes at the first empty line, given the reversed bytes before them. -/
def splitHeadFrom (passed : Bytes) : Bytes → Option (Bytes × Bytes)
  | 13 :: 10 :: 13 :: 10 :: rest => some (passed.reverse, rest)
  | byte :: rest => splitHeadFrom (byte :: passed) rest
  | [] => none

/-- The bytes before the first empty line and the bytes after it: the head of a message and what
follows. -/
def splitHead (bytes : Bytes) : Option (Bytes × Bytes) := splitHeadFrom [] bytes

/-- The number of bytes before the first empty line. -/
def headLength? (bytes : Bytes) : Option Nat := (splitHead bytes).map (·.1.length)

/-- The number of bytes of the empty line that ends a head, line ends included. -/
def terminatorBytes : Nat := 4

/-- Everything that stands before the body of a request. -/
structure RequestHead where
  /-- What is asked for. -/
  method : Method
  /-- The second word of the request line. -/
  target : String
  /-- The third word of the request line. -/
  version : String
  /-- The header fields. -/
  headers : Headers
  /-- The number of bytes of the body. -/
  contentLength : Nat
  deriving DecidableEq

namespace RequestHead

/-- The method, target and version of a request line. -/
def readRequestLine (line : List Char) : Except ReadError (Method × String × String) :=
  match words line with
  | [method, target, version] =>
    if "HTTP/".toList.isPrefixOf version then
      match Method.parse? (String.ofList method) with
      | some method => .ok (method, String.ofList target, String.ofList version)
      | none => .error .invalidMethod
    else .error .invalidRequest
  | _ => .error .invalidRequest

/-- The name and the value of a header line, without the blanks around them. -/
def readField (line : List Char) : Except ReadError (String × String) :=
  match cutAt? ':' line with
  | none => .error .invalidHeader
  | some (name, value) =>
    if (trim name).isEmpty then .error .invalidHeader
    else .ok (String.ofList (trim name), String.ofList (trim value))

/-- The header fields of some lines, added in order; an empty line adds none. -/
def readFields (headers : Headers) : List (List Char) → Except ReadError Headers
  | [] => .ok headers
  | line :: rest =>
    if line.isEmpty then readFields headers rest
    else match readField line with
      | .error cause => .error cause
      | .ok (name, value) => readFields (headers.set name value) rest

/-- The number that digits write, or the bound if that is smaller. -/
def boundedNumber (bound : Nat) (digits : List Char) : Nat :=
  digits.foldl (fun number digit => min bound (10 * number + (digit.toNat - '0'.toNat))) 0

/-- The length that a `Content-Length` header declares: decimal digits, perhaps after a plus sign,
for a number of at most `maxBodyBytes`. -/
def readLength (value : String) : Except ReadError Nat :=
  let digits := match trim value.toList with
    | '+' :: digits => digits
    | digits => digits
  let length := boundedNumber (maxBodyBytes + 1) digits
  if digits.isEmpty || !digits.all Char.isDigit || maxBodyBytes < length then
    .error .invalidContentLength
  else .ok length

/-- The length of the body that follows some headers; without a declaration there is none. -/
def bodyLength (headers : Headers) : Except ReadError Nat :=
  match headers.get? "Content-Length" with
  | none => .ok 0
  | some value => readLength value

/-- The head whose lines, without the empty line that ends it, are the given bytes. -/
def read (bytes : Bytes) : Except ReadError RequestHead := do
  let some text := Utf8.decode? bytes | throw .invalidRequest
  let allLines := lines text.toList
  let (method, target, version) ← readRequestLine (allLines.headD [])
  let headers ← readFields .empty allLines.tail
  let contentLength ← bodyLength headers
  return { method, target, version, headers, contentLength }

/-- The request with a head and a body. -/
def request (head : RequestHead) (body : Bytes) : Request :=
  { method := head.method, path := (splitTarget head.target).1,
    query := (splitTarget head.target).2, version := head.version, headers := head.headers, body }

end RequestHead

/-- The request at the front of some bytes, and the number of bytes that it takes. -/
def Request.read (bytes : Bytes) : Except ReadError (Request × Nat) := do
  let some (headBytes, rest) := splitHead bytes | throw .incomplete
  let head ← RequestHead.read headBytes
  if rest.length < head.contentLength then throw .incomplete
  return (head.request (rest.take head.contentLength),
    headBytes.length + terminatorBytes + head.contentLength)

end OriginServer
