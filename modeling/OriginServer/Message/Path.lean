import OriginServer.Text.Chars
import OriginServer.Text.Utf8

/-!
# Request paths

`isIllegal` decides which paths are refused before any provider is asked: those that do not
begin with a slash, that hold a control character or a backslash, plain or escaped, or that have
a segment of two dots, whatever of it is escaped. A path that ends in a slash names a directory;
`directoryForm` makes any path such a one.
-/
namespace OriginServer.Path

/-- Whether a character is a control character. -/
def isControl (char : Char) : Bool := char.toNat < 0x20 || (0x7F ≤ char.toNat && char.toNat < 0xA0)

/-- Whether a text in small letters holds an escaped NUL or an escaped backslash. -/
def hasEscapedMark : List Char → Bool
  | [] => false
  | '%' :: '0' :: '0' :: _ => true
  | '%' :: '5' :: 'c' :: _ => true
  | _ :: rest => hasEscapedMark rest

/-- A text in small letters with its escaped dots and slashes replaced, given the reversed text
before it. -/
def plainFrom (passed : List Char) : List Char → List Char
  | [] => passed.reverse
  | '%' :: '2' :: 'e' :: rest => plainFrom ('.' :: passed) rest
  | '%' :: '2' :: 'f' :: rest => plainFrom ('/' :: passed) rest
  | char :: rest => plainFrom (char :: passed) rest

/-- The segments of a text in small letters between its slashes, escaped ones included. -/
def segments (text : List Char) : List (List Char) := (plainFrom [] text).splitOn '/'

/-- Whether a path is refused. -/
def isIllegal (path : String) : Bool :=
  let chars := path.toList
  let small := Text.lower chars
  chars.head? != some '/' || chars.any (fun char => isControl char || char = '\\') ||
    hasEscapedMark small || (segments small).contains ['.', '.']

/-- Whether a path ends in a slash. -/
def isDirectory (path : String) : Bool := path.toList.getLast? == some '/'

/-- A path with a slash at its end. -/
def directoryForm (path : String) : String := if isDirectory path then path else path ++ "/"

end OriginServer.Path
