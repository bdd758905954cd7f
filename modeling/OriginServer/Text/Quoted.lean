import OriginServer.Text.Chars
import OriginServer.Unicode.BinaryProperties
import OriginServer.Unicode.CategoryTables
import OriginServer.Unicode.CharSet

/-!
# Quoted text

Messages for developers show texts between quotes. Inside, a backslash stands before a quote and a
backslash, common control characters have an escape of one letter, and a character that cannot be
seen, or that would join with the one before it, is written by its number. A character can be seen
unless it is a control, a separator other than the space, a formatting character, or no assigned
character with a meaning of its own.
-/
namespace OriginServer

namespace Unicode

/-- The characters that cannot be seen. -/
def unprintable : CharSet :=
  let tables := [controlTable, formatTable, privateUseTable, unassignedTable, spaceSeparatorTable,
    lineSeparatorTable, paragraphSeparatorTable]
  (CharSet.unions (tables.map CharSet.ofTable)).difference (.singleton ' ')

/-- The characters that join with the one before them. -/
def graphemeExtenders : CharSet := .ofTable graphemeExtendTable

/-- Whether a character can be seen. -/
def isPrintable (char : Char) : Bool :=
  if 0x20 ≤ char.toNat && char.toNat < 0x7F then true else !unprintable.contains char

/-- Whether a character joins with the one before it. -/
def extendsGrapheme (char : Char) : Bool := 0x7F ≤ char.toNat && graphemeExtenders.contains char

end Unicode

namespace Text

/-- A character inside quotes. -/
def quotedChar (char : Char) : String :=
  match char with
  | '\x00' => "\\0"
  | '\t' => "\\t"
  | '\r' => "\\r"
  | '\n' => "\\n"
  | '\\' => "\\\\"
  | '"' => "\\\""
  | _ =>
    if Unicode.extendsGrapheme char || !Unicode.isPrintable char then
      "\\u\x7b" ++ hexText char.toNat ++ "\x7d"
    else char.toString

/-- A text between quotes. -/
def quoted (text : String) : String :=
  "\"" ++ String.join (text.toList.map quotedChar) ++ "\""

/-- A list of texts between brackets. -/
def bracketed (items : List String) : String := "[" ++ ", ".intercalate items ++ "]"

end Text

end OriginServer
