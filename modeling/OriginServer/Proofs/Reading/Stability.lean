import Mathlib.Control.Monad.Basic
import OriginServer.Proofs.Reading.Front
import OriginServer.Text.Utf8

/-!
# Early verdicts

A reader looks at its bytes before all of them have arrived. What it then says of a request is
final: either it waits for more, or what it says stays when more bytes arrive
(`Request.incomplete_or_read_append`). So a request is read from its own bytes and from no fewer,
and bytes for which the reader waits can be completed (`Request.read_stable`).
-/
namespace OriginServer.Request

variable {bytes : Bytes} {request : Request} {taken : Nat}

/-- Some bytes are incomplete, or they say what all bytes that begin with them say. -/
theorem incomplete_or_read_append (bytes more : Bytes) :
    read bytes = .error .incomplete ∨ read (bytes ++ more) = read bytes := by
  cases verdict : read bytes with
  | ok done =>
    right
    exact read_append_of_ok verdict more
  | error cause =>
    by_cases waiting : cause = .incomplete
    · left
      rw [waiting]
    · right
      exact read_append_of_error verdict waiting more

/-- A request is read from the bytes that it takes. -/
theorem read_take_of_ok (done : read bytes = .ok (request, taken)) :
    read (bytes.take taken) = .ok (request, taken) := by
  have inside := taken_le_length done
  have whole : bytes.take taken ++ bytes.drop taken = bytes := List.take_append_drop taken bytes
  rw [← whole] at done
  apply read_of_append done
  exact Nat.le_of_eq (List.length_take_of_le inside).symm

/-- Fewer bytes than a request takes are incomplete. -/
theorem read_take_of_lt (done : read bytes = .ok (request, taken)) {count : Nat}
    (short : count < taken) : read (bytes.take count) = .error .incomplete := by
  have whole : bytes.take count ++ bytes.drop count = bytes := List.take_append_drop count bytes
  rcases incomplete_or_read_append (bytes.take count) (bytes.drop count) with waiting | same
  · exact waiting
  · -- The request would stand in the first bytes, which are too few.
    rw [whole, done] at same
    have inside := taken_le_length same.symm
    have cut := List.length_take_le count bytes
    omega

/-- What begins incomplete bytes is incomplete. -/
theorem read_of_prefix_of_incomplete {front : Bytes} (waiting : read bytes = .error .incomplete)
    (begins : front <+: bytes) : read front = .error .incomplete := by
  obtain ⟨more, rfl⟩ := begins
  rcases incomplete_or_read_append front more with short | same
  · exact short
  · rw [← same, waiting]

/-- Behind the end of a head, a body of the declared length completes a request. -/
theorem exists_rest_of_headed {headBytes rest : Bytes}
    (found : splitHead bytes = some (headBytes, rest)) :
    ∃ body, read (bytes ++ body) ≠ .error .incomplete := by
  cases readable : RequestHead.read headBytes with
  | error cause =>
    refine ⟨[], ?_⟩
    have refused := read_of_unreadable (splitHead_append found []) readable
    rw [refused]
    intro same
    rw [Except.error.inj same] at readable
    exact RequestHead.read_ne_incomplete headBytes readable
  | ok head =>
    let body : Bytes := List.replicate head.contentLength 0
    have arrived : head.contentLength ≤ (rest ++ body).length := by
      rw [List.length_append, List.length_replicate]
      omega
    refine ⟨body, ?_⟩
    rw [read_of_splitHead (splitHead_append found body) readable arrived]
    simp

/-- All bytes can be completed to a request or to something that is refused. -/
theorem exists_rest (bytes : Bytes) : ∃ rest, read (bytes ++ rest) ≠ .error .incomplete := by
  cases found : splitHead (bytes ++ headEnd) with
  | none =>
    have marked : headEnd <:+: bytes ++ headEnd := (List.suffix_append bytes headEnd).isInfix
    exact absurd marked (splitHead_eq_none_iff.mp found)
  | some parts =>
    obtain ⟨body, decided⟩ := exists_rest_of_headed found
    refine ⟨headEnd ++ body, ?_⟩
    rwa [← List.append_assoc]

/-- **Later bytes revise no verdict.** A request that is read lies among the bytes; it is read as
well from more bytes, and from just the bytes it takes, while any fewer of them are incomplete. What
is refused stays refused for the same cause when bytes are added. Incomplete bytes were incomplete
from the first one on, and some bytes behind them bring a verdict. -/
theorem read_stable (bytes more : Bytes) :
    (∀ request taken, read bytes = .ok (request, taken) →
      taken ≤ bytes.length ∧ read (bytes ++ more) = .ok (request, taken) ∧
        read (bytes.take taken) = .ok (request, taken) ∧
        ∀ count < taken, read (bytes.take count) = .error .incomplete) ∧
      (∀ cause ≠ .incomplete, read bytes = .error cause → read (bytes ++ more) = .error cause) ∧
      (read bytes = .error .incomplete →
        (∀ front, front <+: bytes → read front = .error .incomplete) ∧
          ∃ rest, read (bytes ++ rest) ≠ .error .incomplete) := by
  refine ⟨?_, ?_, ?_⟩
  · intro request taken done
    have shorter : ∀ count < taken, read (bytes.take count) = .error .incomplete :=
      fun count short => read_take_of_lt done short
    exact ⟨taken_le_length done, read_append_of_ok done more, read_take_of_ok done, shorter⟩
  · intro cause complete refused
    exact read_append_of_error refused complete more
  · intro waiting
    have earlier : ∀ front, front <+: bytes → read front = .error .incomplete :=
      fun front begins => read_of_prefix_of_incomplete waiting begins
    exact ⟨earlier, exists_rest bytes⟩

/-- A request with a body, and behind it the beginning of another one. -/
def pipelinedBytes : Bytes :=
  Utf8.encode "PUT /ä HTTP/1.1\r\ncontent-length: +2\r\n\r\nokGET /b HT"

/-- Bytes that are refused for the length they declare, with none of the body there. -/
def unmeasuredBytes : Bytes := Utf8.encode "PUT / HTTP/1.1\r\nContent-Length: many\r\n\r\n"

/-- A request is found in front of the beginning of another one, which is incomplete; a declaration
that is no number is refused before any body. -/
theorem read_stable_pipelined :
    let request : Request :=
      ⟨.put, "/ä", none, "HTTP/1.1", .ofList [("content-length", "+2")], Utf8.encode "ok"⟩
    (read pipelinedBytes = .ok (request, 42) ∧
        read (pipelinedBytes.take 42) = .ok (request, 42) ∧
        ∀ count < 42, read (pipelinedBytes.take count) = .error .incomplete) ∧
      (read unmeasuredBytes = .error .invalidContentLength ∧
        read (unmeasuredBytes ++ pipelinedBytes) = .error .invalidContentLength) ∧
      read (pipelinedBytes.drop 42) = .error .incomplete ∧
        ∃ rest, read (pipelinedBytes.drop 42 ++ rest) ≠ .error .incomplete := by
  intro request
  have done : read pipelinedBytes = .ok (request, 42) := by decide +kernel
  have refused : read unmeasuredBytes = .error .invalidContentLength := by decide +kernel
  have waiting : read (pipelinedBytes.drop 42) = .error .incomplete := by decide +kernel
  obtain ⟨-, -, same, shorter⟩ := (read_stable pipelinedBytes []).1 request 42 done
  have still := (read_stable unmeasuredBytes pipelinedBytes).2.1 _ (by decide) refused
  obtain ⟨-, completed⟩ := (read_stable (pipelinedBytes.drop 42) []).2.2 waiting
  exact ⟨⟨done, same, shorter⟩, ⟨refused, still⟩, waiting, completed⟩

end OriginServer.Request
