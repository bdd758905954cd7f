import OriginServer.Text.Utf8

/-!
# Query parameters

A query is a list of fields separated by ampersands. A field is cut at its first equals sign into a
name and a value; in both a plus sign is a space and a percent sign before two hexadecimal digits
is the byte with that number. The bytes are read as text, each malformed run as one replacement
character.
-/
namespace OriginServer.Form

/-- The value of an ASCII hexadecimal digit. -/
def hexDigit? (byte : UInt8) : Option UInt8 :=
  if 0x30 ≤ byte && byte ≤ 0x39 then some (byte - 0x30)
  else if 0x41 ≤ byte && byte ≤ 0x46 then some (byte - 0x37)
  else if 0x61 ≤ byte && byte ≤ 0x66 then some (byte - 0x57)
  else none

/-- The byte written by two hexadecimal digits. -/
def hexByte? (high low : UInt8) : Option UInt8 := do
  some (16 * (← hexDigit? high) + (← hexDigit? low))

/-- The bytes with escapes replaced, given the reversed bytes before them. A percent sign that no
two hexadecimal digits follow stands for itself. -/
def percentDecodeFrom (passed : Bytes) : Bytes → Bytes
  | [] => passed.reverse
  | 0x25 :: high :: low :: rest =>
    match hexByte? high low with
    | some byte => percentDecodeFrom (byte :: passed) rest
    | none => percentDecodeFrom (0x25 :: passed) (high :: low :: rest)
  | byte :: rest => percentDecodeFrom (byte :: passed) rest

/-- The bytes in which every percent sign before two hexadecimal digits is replaced, once and from
left to right, by the byte that the digits write. -/
def percentDecode (bytes : Bytes) : Bytes := percentDecodeFrom [] bytes

/-- A name or a value: plus signs are spaces, escapes are replaced, malformed text is mended. -/
def component (bytes : Bytes) : String :=
  Text.decodeLossy (percentDecode (bytes.map fun byte => if byte = 0x2B then 0x20 else byte))

/-- A field, cut at its first equals sign; without one the value is empty. -/
def field (bytes : Bytes) : String × String :=
  (component (bytes.takeWhile (· != 0x3D)), component ((bytes.dropWhile (· != 0x3D)).drop 1))

/-- The fields of a query in order; empty fields are left out. -/
def fields (query : String) : List (String × String) :=
  (((Utf8.encode query).splitOn 0x26).filter (!·.isEmpty)).map field

end OriginServer.Form
