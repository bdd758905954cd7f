import OriginServer.Message.Response
import OriginServer.Proofs.Text.Bytes

/-!
# The status line

The bytes of a response begin with its status line (`announces_wire`), and no bytes announce two
statuses (`Status.Announces.unique`). So the status that a peer reads off the bytes it accepted is
the one of the response, and a response is never empty on the wire.
-/
namespace OriginServer

namespace Status

/-- The line in which a response announces a status, with its line end. -/
def line (status : Status) : String := s!"HTTP/1.1 {status.code} {status.reason}" ++ "\r\n"

/-- Some bytes begin with the line of a status. -/
def Announces (status : Status) (bytes : Bytes) : Prop := Utf8.encode status.line <+: bytes

/-- Every status is listed. -/
theorem mem_all (status : Status) : status ∈ all := by
  cases status <;> decide

/-- No status line is the beginning of another one. -/
theorem line_prefix_free :
    ∀ left ∈ all, ∀ right ∈ all, Utf8.encode left.line <+: Utf8.encode right.line →
      left = right := by
  decide +kernel

/-- Some bytes announce at most one status. -/
theorem Announces.unique {left right : Status} {bytes : Bytes} (first : left.Announces bytes)
    (second : right.Announces bytes) : left = right := by
  obtain early | early := List.prefix_or_prefix_of_prefix first second
  · exact line_prefix_free left left.mem_all right right.mem_all early
  · exact (line_prefix_free right right.mem_all left left.mem_all early).symm

end Status

namespace Response

/-- A response announces its status. -/
theorem announces_wire (response : Response) : response.status.Announces response.wire := by
  have line : response.statusLine ++ "\r\n" = response.status.line := rfl
  rw [Status.Announces, wire, head, line, String.append_assoc, Utf8.encode_append,
    List.append_assoc]
  exact List.prefix_append _ _

/-- A response announces its status and no other one. -/
theorem announces_wire_iff {response : Response} {status : Status} :
    status.Announces response.wire ↔ status = response.status :=
  ⟨fun announced => announced.unique response.announces_wire,
    fun same => same ▸ response.announces_wire⟩

/-- A response has bytes. -/
theorem wire_ne_nil (response : Response) : response.wire ≠ [] := by
  intro empty
  have line := response.announces_wire
  have ending : Utf8.encode "\r\n" ≠ [] := by decide
  rw [Status.Announces, empty, List.prefix_nil, Status.line, Utf8.encode_append] at line
  exact ending (List.append_eq_nil_iff.mp line).2

end Response

end OriginServer
