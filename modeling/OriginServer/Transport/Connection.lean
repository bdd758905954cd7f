import OriginServer.Failure
import OriginServer.Transport.Writer

/-!
# Connections

A connection is a stream together with the bytes that were read from it and not used yet.
`Connection.readRequest` reads until the buffered bytes begin with a whole request, in two
phases: until they hold the end of a head, and until they hold the body that the head declares.
Neither phase reads more than it has to. A call that fails leaves all bytes it read in the
buffer. `Connection.send` writes a response, once.
-/
namespace OriginServer

/-- A stream and the bytes read ahead from it. -/
structure Connection (σ : Type) where
  /-- The stream. -/
  stream : σ
  /-- The bytes read and not used yet. -/
  buffer : Bytes

namespace Connection

variable {σ : Type} [Transport σ]

/-- The largest number of bytes asked for in one read. -/
def readRoom : Nat := 1024

/-- Reading gives up on a head when more than this many bytes hold no end of it. -/
def maxHeadBytes : Nat := 65536

/-- A connection on a stream of which nothing was read. -/
def ofStream (stream : σ) : Connection σ := ⟨stream, []⟩

/-- Read until the buffer holds the end of a head. The value is the head and the bytes after it,
all of which stay in the buffer. -/
def gatherHead (connection : Connection σ) :
    Activity (Connection σ) (Except Failure (Bytes × Bytes)) :=
  match splitHead connection.buffer with
  | some parts => ⟨.ok parts, connection, []⟩
  | none =>
    if maxHeadBytes < connection.buffer.length then
      ⟨.error (.badRequest .invalidHeader), connection, []⟩
    else
      match Transport.read readRoom connection.stream with
      | (.error fault, stream) =>
        ⟨.error (.transport fault), { connection with stream }, [.read (.error fault)]⟩
      | (.ok [], stream) =>
        ⟨.error (.transport .hangUp), { connection with stream }, [.read (.ok [])]⟩
      | (.ok (first :: more), stream) =>
        let later := gatherHead ⟨stream, connection.buffer ++ first :: more⟩
        { later with events := .read (.ok (first :: more)) :: later.events }
termination_by maxHeadBytes + 1 - connection.buffer.length
decreasing_by grind

/-- Read until a number of bytes has arrived. The value is the outcome and the bytes that arrived,
which may be more than were missing. -/
def gatherBytes (missing : Nat) (stream : σ) : Activity σ (Except Fault Unit × Bytes) :=
  if missing = 0 then ⟨(.ok (), []), stream, []⟩
  else
    match Transport.read readRoom stream with
    | (.error fault, stream) => ⟨(.error fault, []), stream, [.read (.error fault)]⟩
    | (.ok [], stream) => ⟨(.error .hangUp, []), stream, [.read (.ok [])]⟩
    | (.ok (first :: more), stream) =>
      let later := gatherBytes (missing - (more.length + 1)) stream
      { later with
        value := (later.value.1, (first :: more) ++ later.value.2)
        events := .read (.ok (first :: more)) :: later.events }
termination_by missing
decreasing_by omega

/-- Read the body that a gathered head declares, and make the request. -/
def completeRequest (headed : Activity (Connection σ) (Except Failure (Bytes × Bytes))) :
    Activity (Connection σ) (Except Failure Request) :=
  match headed.value with
  | .error failure => { headed with value := .error failure }
  | .ok (headBytes, rest) =>
    match RequestHead.read headBytes with
    | .error cause => { headed with value := .error (.badRequest cause) }
    | .ok head =>
      let filled := gatherBytes (head.contentLength - rest.length) headed.state.stream
      let events := headed.events ++ filled.events
      match filled.value with
      | (.error fault, arrived) =>
        ⟨.error (.transport fault), ⟨filled.state, headed.state.buffer ++ arrived⟩, events⟩
      | (.ok (), arrived) =>
        ⟨.ok (head.request ((rest ++ arrived).take head.contentLength)),
          ⟨filled.state, (rest ++ arrived).drop head.contentLength⟩, events⟩

/-- Read one request. -/
def readRequest (connection : Connection σ) : Activity (Connection σ) (Except Failure Request) :=
  completeRequest connection.gatherHead

/-- Send a response and commit it. A response that is committed already is not sent. -/
def send (connection : Connection σ) (outgoing : Outgoing) :
    Activity (Connection σ) (Except Fault Unit × Outgoing) :=
  if outgoing.committed then ⟨(.ok (), outgoing), connection, []⟩
  else
    let sent := (Writer.ofResponse outgoing.response).run connection.stream
    ⟨(sent.value.1, { outgoing with committed := true }), { connection with stream := sent.state },
      sent.events⟩

/-- End the stream of a connection. -/
def close (connection : Connection σ) : Activity (Connection σ) (Except Fault Unit) :=
  let (outcome, stream) := Transport.shutdown connection.stream
  ⟨outcome, { connection with stream }, [.shutdown outcome]⟩

end Connection

end OriginServer
