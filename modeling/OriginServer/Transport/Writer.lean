import OriginServer.Message.Response
import OriginServer.Transport.Basic

/-!
# Sending bytes

A writer holds the bytes that the peer has not accepted yet. `Writer.run` offers them until the
peer accepted them all, then flushes; where it stops early, a later run goes on with the first
byte that was not accepted.
-/
namespace OriginServer

/-- Bytes on their way to the peer. -/
structure Writer where
  /-- The bytes that were not accepted yet. -/
  pending : Bytes
  deriving DecidableEq

namespace Writer

variable {σ : Type} [Transport σ]

/-- The writer of a response. -/
def ofResponse (response : Response) : Writer := ⟨response.wire⟩

/-- Offer bytes until they are all accepted. The value is the outcome and the bytes left over. -/
def drain (pending : Bytes) (stream : σ) : Activity σ (Except Fault Unit × Bytes) :=
  match pending with
  | [] => ⟨(.ok (), []), stream, []⟩
  | first :: rest =>
    match Transport.write (first :: rest) stream with
    | (.error fault, stream) =>
      ⟨(.error fault, first :: rest), stream, [.write (first :: rest) (.error fault)]⟩
    | (.ok 0, stream) =>
      ⟨(.error .writeRefused, first :: rest), stream, [.write (first :: rest) (.ok 0)]⟩
    | (.ok (accepted + 1), stream) =>
      let later := drain (rest.drop accepted) stream
      { later with events := .write (first :: rest) (.ok (accepted + 1)) :: later.events }
termination_by pending.length
decreasing_by grind

/-- Offer all pending bytes and flush. The value is the outcome and the writer afterwards. -/
def run (writer : Writer) (stream : σ) : Activity σ (Except Fault Unit × Writer) :=
  let drained := drain writer.pending stream
  match drained.value with
  | (.error fault, pending) => ⟨(.error fault, ⟨pending⟩), drained.state, drained.events⟩
  | (.ok (), pending) =>
    let (outcome, stream) := Transport.flush drained.state
    ⟨(outcome, ⟨pending⟩), stream, drained.events ++ [.flush outcome]⟩

end Writer

end OriginServer
