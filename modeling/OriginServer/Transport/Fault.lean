/-!
# Faults of a stream

A stream operation that fails says what kind of fault it met, and a text for people. A fault that
the operating system reports has the text of its kind; two faults are found by the server itself.
-/
namespace OriginServer

/-- The kinds of fault. -/
inductive FaultKind where
  | notFound | permissionDenied | connectionRefused | connectionReset | connectionAborted
  | notConnected | brokenPipe | wouldBlock | invalidInput | invalidData | timedOut | writeZero
  | interrupted | unexpectedEof | outOfMemory | other
  deriving DecidableEq, Repr, Inhabited

namespace FaultKind

/-- All kinds of fault. -/
def all : List FaultKind :=
  [notFound, permissionDenied, connectionRefused, connectionReset, connectionAborted,
   notConnected, brokenPipe, wouldBlock, invalidInput, invalidData, timedOut, writeZero,
   interrupted, unexpectedEof, outOfMemory, other]

/-- The name of a kind. -/
def name : FaultKind → String
  | notFound => "NotFound"
  | permissionDenied => "PermissionDenied"
  | connectionRefused => "ConnectionRefused"
  | connectionReset => "ConnectionReset"
  | connectionAborted => "ConnectionAborted"
  | notConnected => "NotConnected"
  | brokenPipe => "BrokenPipe"
  | wouldBlock => "WouldBlock"
  | invalidInput => "InvalidInput"
  | invalidData => "InvalidData"
  | timedOut => "TimedOut"
  | writeZero => "WriteZero"
  | interrupted => "Interrupted"
  | unexpectedEof => "UnexpectedEof"
  | outOfMemory => "OutOfMemory"
  | other => "Other"

/-- The kind with a name. -/
def ofName? (text : String) : Option FaultKind := all.find? (·.name == text)

/-- What is said of a fault of which only the kind is known. -/
def text : FaultKind → String
  | notFound => "entity not found"
  | permissionDenied => "permission denied"
  | connectionRefused => "connection refused"
  | connectionReset => "connection reset"
  | connectionAborted => "connection aborted"
  | notConnected => "not connected"
  | brokenPipe => "broken pipe"
  | wouldBlock => "operation would block"
  | invalidInput => "invalid input parameter"
  | invalidData => "invalid data"
  | timedOut => "timed out"
  | writeZero => "write zero"
  | interrupted => "operation interrupted"
  | unexpectedEof => "unexpected end of file"
  | outOfMemory => "out of memory"
  | other => "other error"

end FaultKind

/-- Why a stream operation failed. -/
structure Fault where
  /-- The kind of the fault. -/
  kind : FaultKind
  /-- The text for people. -/
  message : String
  deriving DecidableEq, Repr, Inhabited

namespace Fault

/-- A fault of which only the kind is known. -/
def ofKind (kind : FaultKind) : Fault := ⟨kind, kind.text⟩

/-- The peer ended its stream before its request was complete. -/
def hangUp : Fault := ⟨.unexpectedEof, "peer closed before a complete request"⟩

/-- The peer accepts no more bytes of a response. -/
def writeRefused : Fault := ⟨.writeZero, "connection closed while writing"⟩

end Fault

end OriginServer
