/-!
# Text as bytes

Everything that travels is a list of bytes; names, paths and header values are text. This module
fixes the two directions between them: `Utf8.encode`, which always succeeds, and `Utf8.decode?`,
which refuses every byte list that is no UTF-8. The two are inverse where both are defined.
`Text.decodeLossy` reads any bytes as text: each maximal beginning of a character that is cut short
or broken off becomes one replacement character U+FFFD, and so does each byte that begins none.
-/
namespace OriginServer

/-- Bytes in the order in which they travel. -/
abbrev Bytes := List UInt8

namespace Utf8

/-- The UTF-8 bytes of a text. -/
def encode (text : String) : Bytes := text.toByteArray.data.toList

/-- The text with the given UTF-8 bytes, if there is one. -/
def decode? (bytes : Bytes) : Option String := String.fromUTF8? ⟨bytes.toArray⟩

/-- Decoding the bytes of a text returns the text. -/
theorem decode?_encode (text : String) : decode? (encode text) = some text := by
  simp [decode?, encode, String.fromUTF8?, text.isValidUTF8, String.fromUTF8]

/-- Only the bytes of a text decode to it. -/
theorem encode_of_decode? {bytes : Bytes} {text : String} (decoded : decode? bytes = some text) :
    encode text = bytes := by
  simp only [decode?, String.fromUTF8?] at decoded
  split at decoded
  · obtain rfl := Option.some.inj decoded
    simp [encode, String.fromUTF8]
  · contradiction

end Utf8

/-! ## Malformed text -/

namespace Text

/-- The replacement character. -/
def replacement : Char := '\uFFFD'

/-- Whether a byte may follow the first byte of a character. -/
def isContinuation (byte : UInt8) : Bool := 0x80 ≤ byte && byte ≤ 0xBF

/-- Whether a byte may stand second in a character that begins with `first`. The bounds keep out
overlong forms, surrogates and numbers past the last character. -/
def mayBeSecond (first second : UInt8) : Bool :=
  if first = 0xE0 then 0xA0 ≤ second && second ≤ 0xBF
  else if first = 0xED then 0x80 ≤ second && second ≤ 0x9F
  else if first = 0xF0 then 0x90 ≤ second && second ≤ 0xBF
  else if first = 0xF4 then 0x80 ≤ second && second ≤ 0x8F
  else isContinuation second

/-- The number of bytes of a character that begins with the given byte; zero if none does. -/
def byteCount (first : UInt8) : Nat :=
  if first ≤ 0x7F then 1
  else if 0xC2 ≤ first && first ≤ 0xDF then 2
  else if 0xE0 ≤ first && first ≤ 0xEF then 3
  else if 0xF0 ≤ first && first ≤ 0xF4 then 4
  else 0

/-- The low six bits of a byte that follows the first one of a character. -/
def tailBits (byte : UInt8) : Nat := byte.toNat % 64

/-- The first character of the bytes `first :: rest`, or the replacement character, together with
the number of bytes of `rest` that it takes. -/
def decodeFirst (first : UInt8) (rest : Bytes) : Char × Nat :=
  match byteCount first, rest with
  | 1, _ => (Char.ofNat first.toNat, 0)
  | 2, second :: _ =>
    if mayBeSecond first second then (Char.ofNat (first.toNat % 32 * 64 + tailBits second), 1)
    else (replacement, 0)
  | 3, second :: third :: _ =>
    if !mayBeSecond first second then (replacement, 0)
    else if !isContinuation third then (replacement, 1)
    else (Char.ofNat (first.toNat % 16 * 4096 + tailBits second * 64 + tailBits third), 2)
  | 3, [second] => (replacement, if mayBeSecond first second then 1 else 0)
  | 4, second :: third :: fourth :: _ =>
    if !mayBeSecond first second then (replacement, 0)
    else if !isContinuation third then (replacement, 1)
    else if !isContinuation fourth then (replacement, 2)
    else (Char.ofNat (first.toNat % 8 * 262144 + tailBits second * 4096 + tailBits third * 64 +
      tailBits fourth), 3)
  | 4, [second, third] =>
    (replacement, if !mayBeSecond first second then 0 else if isContinuation third then 2 else 1)
  | 4, [second] => (replacement, if mayBeSecond first second then 1 else 0)
  | _, _ => (replacement, 0)

/-- The characters of the bytes, given the reversed characters before them. -/
def decodeLossyFrom (passed : List Char) : Bytes → List Char
  | [] => passed.reverse
  | first :: rest =>
    let (char, taken) := decodeFirst first rest
    decodeLossyFrom (char :: passed) (rest.drop taken)
termination_by bytes => bytes.length
decreasing_by grind

/-- Bytes read as text, with a replacement character for each malformed run. -/
def decodeLossy (bytes : Bytes) : String :=
  match Utf8.decode? bytes with
  | some text => text
  | none => String.ofList (decodeLossyFrom [] bytes)

end Text

end OriginServer
