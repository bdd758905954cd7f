import OriginServer.Text.Utf8

/-!
# Media types of files

The media type of a file is decided by the extension of its name alone: what follows the last dot,
unless that dot is the first character. The case of ASCII letters does not matter.
-/
namespace OriginServer.MediaType

/-- The media type of a file whose extension is not listed. -/
def unknown : String := "application/octet-stream"

/-- The extensions that are known, with their media types. -/
def byExtension : List (String × String) :=
  [("htm", "text/html; charset=utf-8"), ("html", "text/html; charset=utf-8"), ("css", "text/css"),
   ("js", "application/javascript"), ("mjs", "application/javascript"),
   ("json", "application/json"), ("xml", "application/xml"), ("txt", "text/plain; charset=utf-8"),
   ("png", "image/png"), ("jpg", "image/jpeg"), ("jpeg", "image/jpeg"), ("gif", "image/gif"),
   ("svg", "image/svg+xml"), ("ico", "image/x-icon"), ("webp", "image/webp"),
   ("woff2", "font/woff2"), ("wasm", "application/wasm"), ("pdf", "application/pdf")]

/-- The name of the file at a path: its last segment that is neither empty nor a single dot. A
path that ends in two dots names no file. -/
def fileName? (path : Bytes) : Option Bytes :=
  match ((path.splitOn 0x2F).filter fun segment => segment != [] && segment != [0x2E]).getLast? with
  | some [0x2E, 0x2E] => none
  | found => found

/-- What follows the last dot of a file name. A name without a dot, or with its only dot in front,
has no extension. -/
def extension? (name : Bytes) : Option Bytes :=
  let reversed := name.reverse
  match reversed.dropWhile (· != 0x2E) with
  | _ :: _ :: _ => some (reversed.takeWhile (· != 0x2E)).reverse
  | _ => none

/-- An ASCII capital as a small letter; any other byte as it is. -/
def lowerByte (byte : UInt8) : UInt8 := if 0x41 ≤ byte && byte ≤ 0x5A then byte + 0x20 else byte

/-- The media type that belongs to an extension. -/
def ofExtension (extension : Bytes) : String :=
  match byExtension.find? fun entry => Utf8.encode entry.1 == extension.map lowerByte with
  | some entry => entry.2
  | none => unknown

/-- The media type of the file at a path. -/
def ofPath (path : Bytes) : String :=
  match (fileName? path).bind extension? with
  | some extension => ofExtension extension
  | none => unknown

end OriginServer.MediaType
