import OriginServer.Text.Utf8
import OriginServer.Transport.Fault

/-!
# Streams

A stream carries bytes to and from a peer. `Transport` lists what can be done with a stream whose
states are the values of a type; a stream may react to what was done with it before, and it may go
on forever. `Transport.Lawful` states the two promises on which the server relies: a read fills at
most the room it was given, and a write accepts at most the bytes it was offered.

What happens on a stream is recorded as a list of `StreamEvent`s.
-/
namespace OriginServer

/-- The operations of a stream. -/
class Transport (σ : Type) where
  /-- Take some bytes, at most as many as there is room for; none at the end of the stream. -/
  read : (room : Nat) → (stream : σ) → Except Fault Bytes × σ
  /-- Offer bytes; the result is how many of them, from the front, were accepted. -/
  write : (bytes : Bytes) → (stream : σ) → Except Fault Nat × σ
  /-- Push accepted bytes on to the peer. -/
  flush : (stream : σ) → Except Fault Unit × σ
  /-- End the stream. -/
  shutdown : (stream : σ) → Except Fault Unit × σ

/-- No operation moves more bytes than it was asked to. -/
class Transport.Lawful (σ : Type) [Transport σ] : Prop where
  /-- A read fills at most the room it was given. -/
  read_length_le : ∀ {room : Nat} {stream : σ} {bytes : Bytes},
    (Transport.read room stream).1 = .ok bytes → bytes.length ≤ room
  /-- A write accepts at most what it was offered. -/
  write_le_length : ∀ {bytes : Bytes} {stream : σ} {accepted : Nat},
    (Transport.write bytes stream).1 = .ok accepted → accepted ≤ bytes.length

/-- One operation on a stream, with its outcome. -/
inductive StreamEvent where
  /-- A read gave bytes, gave none at the end of the stream, or failed. -/
  | read (outcome : Except Fault Bytes)
  /-- A write of the offered bytes accepted some of them or failed. -/
  | write (offered : Bytes) (outcome : Except Fault Nat)
  /-- A flush succeeded or failed. -/
  | flush (outcome : Except Fault Unit)
  /-- A shutdown succeeded or failed. -/
  | shutdown (outcome : Except Fault Unit)

namespace StreamEvent

/-- The bytes that the peer accepted in an event. -/
def accepted : StreamEvent → Bytes
  | write offered (.ok count) => offered.take count
  | _ => []

/-- The bytes that the peer accepted in some events, in order. -/
def wire (events : List StreamEvent) : Bytes := events.flatMap accepted

end StreamEvent

/-- What an activity results in: a value, the state it leaves behind, and what happened on the
stream. -/
structure Activity (σ α : Type) where
  /-- The value. -/
  value : α
  /-- The state afterwards. -/
  state : σ
  /-- What happened on the stream, in order. -/
  events : List StreamEvent

end OriginServer
