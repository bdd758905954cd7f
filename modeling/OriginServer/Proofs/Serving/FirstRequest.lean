import OriginServer.Proofs.Reading.Delivery
import OriginServer.Proofs.Serving.Willing

/-!
# The first request decides

A handling answers one request: the one that stands at the front of what arrives. How that is cut
into reads, and what follows the request, has no part in it. The reading loop ends as soon as the
request is whole (`Connection.readRequest_of_front`), so two connections that bring one request are
handled alike (`Server.handle_of_brought`).
-/
namespace OriginServer

namespace Connection

variable {σ : Type} [Transport σ]

/-- Each of the first reads gives the next of some pieces; of later reads nothing is said. -/
def Gives : List Bytes → σ → Prop
  | [], _ => True
  | piece :: later, stream => piece ≠ [] ∧ (Transport.read readRoom stream).1 = .ok piece ∧
    Gives later (Transport.read readRoom stream).2

/-- A stream that delivers some pieces and then ends gives these pieces. -/
theorem Delivers.gives {pieces : List Bytes} {stream : σ} (delivery : Delivers pieces stream) :
    Gives pieces stream := by
  induction pieces generalizing stream with
  | nil => trivial
  | cons piece later ih =>
    obtain ⟨nonempty, -, given, rest⟩ := delivery
    exact ⟨nonempty, given, ih rest⟩

/-- What arrives on a connection begins with some bytes: the buffered bytes, followed by pieces that
its stream gives, do. -/
def Brings (connection : Connection σ) (bytes : Bytes) : Prop :=
  ∃ pieces, Gives pieces connection.stream ∧ bytes <+: connection.buffer ++ pieces.flatten

/-- A request whose head is within the limit stands at the front of some bytes. -/
structure Fronted (bytes : Bytes) (request : Request) : Prop where
  /-- The request is read from the bytes. -/
  whole : ∃ taken, Request.read bytes = .ok (request, taken)
  /-- Its head is within the limit. -/
  within : ∀ head rest, splitHead bytes = some (head, rest) →
    head.length + terminatorBytes ≤ maxHeadBytes

/-- A request is at the front of the bytes that it is read from if the length of its head is within
the limit. -/
theorem fronted_of_headLength? {bytes : Bytes} {request : Request} {taken length : Nat}
    (whole : Request.read bytes = .ok (request, taken)) (headed : headLength? bytes = some length)
    (small : length + terminatorBytes ≤ maxHeadBytes) : Fronted bytes request := by
  refine ⟨⟨taken, whole⟩, ?_⟩
  intro head rest found
  rw [headLength?, found, Option.map_some, Option.some.injEq] at headed
  rw [headed]
  exact small

/-- A request stays at the front when bytes are added. -/
theorem Fronted.append {bytes : Bytes} {request : Request} (fronted : Fronted bytes request)
    (more : Bytes) : Fronted (bytes ++ more) request := by
  obtain ⟨⟨taken, read⟩, within⟩ := fronted
  refine ⟨⟨taken, Request.read_append_of_ok read more⟩, ?_⟩
  intro head rest found
  have front := Request.front_read bytes
  rw [read] at front
  cases front with
  | whole before =>
    have same := splitHead_append before more
    rw [found, Option.some.injEq, Prod.mk.injEq] at same
    rw [same.1]
    exact within _ _ before

/-- A connection whose bytes have a request at their front reads that request. -/
theorem readRequest_of_front {pieces : List Bytes} {connection : Connection σ} {request : Request}
    (given : Gives pieces connection.stream)
    (fronted : Fronted (connection.buffer ++ pieces.flatten) request) :
    connection.readRequest.value = .ok request := by
  obtain ⟨taken, read⟩ := fronted.whole
  -- One piece is read in each turn, and the bytes at whose front the request stands stay the same.
  induction pieces generalizing connection with
  | nil =>
    rw [List.flatten_nil, List.append_nil] at read
    rw [readRequest_of_ok read]
  | cons piece later ih =>
    obtain ⟨other, taken', found⟩ | ⟨cause, refused, complete⟩ | ⟨unfound, overlong⟩ | waiting :=
      turn_cases connection.buffer
    · have same := Request.read_append_of_ok found (piece :: later).flatten
      rw [read, Except.ok.injEq, Prod.mk.injEq] at same
      rw [readRequest_of_ok found, same.1]
    · have same := Request.read_append_of_error refused complete (piece :: later).flatten
      rw [read] at same
      cases same
    · have front := Request.front_read (connection.buffer ++ (piece :: later).flatten)
      rw [read] at front
      cases front with
      | whole found =>
        have far := length_lt_of_splitHead_eq_none unfound found
        have near := fronted.within _ _ found
        omega
    · obtain ⟨nonempty, first, rest⟩ := given
      rw [readRequest_of_waiting waiting, receive_of_piece nonempty first]
      have joined : connection.buffer ++ (piece :: later).flatten =
          connection.buffer ++ piece ++ later.flatten := by simp
      rw [joined] at fronted read
      exact ih rest fronted read

/-- A connection that brings a request reads that request. -/
theorem Brings.readRequest {connection : Connection σ} {bytes : Bytes} {request : Request}
    (brought : connection.Brings bytes) (fronted : Fronted bytes request) :
    connection.readRequest.value = .ok request := by
  obtain ⟨pieces, given, more, ahead⟩ := brought
  have whole := fronted.append more
  rw [ahead] at whole
  exact readRequest_of_front given whole

end Connection

namespace Server

open Connection (Brings)

variable {σ τ : Type} [Transport σ] [Transport τ]

/-- **A connection answers its first request only.** Some bytes are one whole request whose head is
within the limit. Two connections, on streams of any kind, bring these bytes, in any pieces and with
any bytes behind them, and no write and no flush goes wrong on either. Then the same request is
answered on both: the same providers are called for the same paths and answer alike, the same bytes
are sent, the same report is made, and the result is the same. -/
theorem handle_of_brought (server : Server) (now : HeaderDate) (peer : Option String)
    {bytes : Bytes} {request : Request} {length : Nat}
    (whole : Request.read bytes = .ok (request, bytes.length))
    (headed : headLength? bytes = some length)
    (small : length + terminatorBytes ≤ Connection.maxHeadBytes)
    {connection : Connection σ} {other : Connection τ}
    (brought : connection.Brings bytes) (otherBrought : other.Brings bytes)
    (willing : Event.Willing (server.handle now connection peer).events)
    (otherWilling : Event.Willing (server.handle now other peer).events) :
    let handling := server.handle now connection peer
    let otherHandling := server.handle now other peer
    connection.readRequest.value = .ok request ∧ other.readRequest.value = .ok request ∧
      Event.callEvents handling.events = Event.callEvents otherHandling.events ∧
      Event.wire handling.events = Event.wire otherHandling.events ∧
      Event.reports handling.events = Event.reports otherHandling.events ∧
      handling.result = otherHandling.result := by
  intro handling otherHandling
  have fronted := Connection.fronted_of_headLength? whole headed small
  have read := brought.readRequest fronted
  have otherRead := otherBrought.readRequest fronted
  have served : server.serve now connection peer = server.serve now other peer := by
    rw [serve_of_ok read, serve_of_ok otherRead]
  obtain ⟨wire, reports, result⟩ := handle_of_willing willing
  obtain ⟨otherWire, otherReports, otherResult⟩ := handle_of_willing otherWilling
  refine ⟨read, otherRead, ?_, ?_, ?_, ?_⟩
  · rw [callEvents_handle, callEvents_handle, read, otherRead]
  · rw [wire, otherWire, served]
  · rw [reports, otherReports, served]
  · rw [result, otherResult, served]

/-- A connection whose peer asks for the notice and begins another request, in pieces that end in
the middle of both. -/
def followedConnection : Connection Script :=
  .ofStream ⟨[Utf8.encode "GET /no", Utf8.encode "tice HTTP/1.1\r\n\r\nPOST /oth"].map .bytes, [],
    [], none⟩

/-- The notice is sent alike whether another request begins behind the one for it or not. -/
theorem handle_of_brought_notice :
    let server := noticeServer .done
    let connection := noticeConnection [.accept 7] [] none
    let bytes := Utf8.encode "GET /notice HTTP/1.1\r\n\r\n"
    connection.Brings bytes ∧ followedConnection.Brings bytes ∧
      Event.wire (server.handle ⟨0, by decide⟩ connection none).events =
        Event.wire (server.handle ⟨0, by decide⟩ followedConnection none).events := by
  intro server connection bytes
  have whole : Request.read bytes = .ok (noticeRequest, bytes.length) := by decide +kernel
  have headed : headLength? bytes = some 20 := by decide +kernel
  have small : 20 + terminatorBytes ≤ Connection.maxHeadBytes := by decide
  have brought : connection.Brings bytes := by
    refine ⟨[Utf8.encode "GET /notice HTTP/1.1\r\n", Utf8.encode "\r\n"], ?_, by decide +kernel⟩
    exact (Connection.delivers_script [.accept 7] [] none (by decide +kernel)).gives
  have otherBrought : followedConnection.Brings bytes := by
    refine ⟨[Utf8.encode "GET /no", Utf8.encode "tice HTTP/1.1\r\n\r\nPOST /oth"], ?_,
      by decide +kernel⟩
    exact (Connection.delivers_script [] [] none (by decide +kernel)).gives
  have willing : Event.Willing (server.handle ⟨0, by decide⟩ connection none).events := by
    decide +kernel
  have otherWilling :
      Event.Willing (server.handle ⟨0, by decide⟩ followedConnection none).events := by
    decide +kernel
  obtain ⟨-, -, -, wire, -⟩ := server.handle_of_brought ⟨0, by decide⟩ none whole headed small
    brought otherBrought willing otherWilling
  exact ⟨brought, otherBrought, wire⟩

end Server

end OriginServer
