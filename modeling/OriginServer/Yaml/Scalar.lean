import OriginServer.Text.Chars
import OriginServer.Yaml.Source

/-!
# YAML scalars on one or more lines

Plain and quoted text runs over line ends: a single one reads as a space, several ones as one less,
and the blanks around them do not count. `Gap` holds what was passed since the last word, until it
is known whether another word follows. Readers return nothing where the text is malformed.
-/
namespace OriginServer.Yaml

/-- How a scalar is written. -/
inductive Style where
  /-- Without quotes. -/
  | plain
  /-- Between single or double quotes. -/
  | quoted
  /-- As a block whose lines are kept. -/
  | literal
  /-- As a block whose lines are folded. -/
  | folded
  deriving DecidableEq, Repr, Inhabited

/-- What was passed since the last word of a scalar. -/
inductive Gap where
  /-- Blanks on one line, the last one first. -/
  | blanks (chars : List Char)
  /-- A line end, unless it was escaped, and those after it, the last one first. -/
  | lines (first : Option Char) (more : List Char)
  deriving DecidableEq, Repr, Inhabited

namespace Gap

/-- Nothing was passed. -/
def none : Gap := blanks []

/-- Whether anything was passed. -/
def isSome : Gap → Bool
  | blanks chars => !chars.isEmpty
  | lines _ _ => true

/-- Whether a line end was passed. -/
def isLines : Gap → Bool
  | blanks _ => false
  | lines _ _ => true

/-- The gap after one more blank, which does not count after a line end. -/
def addBlank (char : Char) : Gap → Gap
  | blanks chars => blanks (char :: chars)
  | lines first more => lines first more

/-- The gap after one more line end. The blanks before the first one do not count. -/
def addBreak (char : Char) : Gap → Gap
  | blanks _ => lines (some char) []
  | lines first more => lines first (char :: more)

/-- Text, the last character first, with a gap closed after it. -/
def close (text : List Char) : Gap → List Char
  | blanks chars => chars ++ text
  | lines (some '\n') [] => ' ' :: text
  | lines (some '\n') more => more ++ text
  | lines first more => more ++ first.toList ++ text

end Gap

/-- One line end reads as a space, two as one line end, and an escaped one as nothing. -/
example : Gap.close ['a'] (.lines (some '\n') []) = [' ', 'a'] ∧
    Gap.close ['a'] (.lines (some '\n') ['\n']) = ['\n', 'a'] ∧
    Gap.close ['a'] (.lines Option.none []) = ['a'] := by decide

/-- Whether a colon begins the characters of a mapping's value. -/
def isValueMark (text : List Char) : Bool := text.head? = some ':' && endsWord (text.drop 1)

/-- The marks of flow collections. -/
def isFlowMark (char : Char) : Bool := ",[]\x7b\x7d".toList.contains char

/-- A scalar that was read. -/
structure Scanned where
  /-- Its characters, the last one first. -/
  text : List Char
  /-- What was passed after its last word. -/
  gap : Gap
  /-- Where reading goes on. -/
  cursor : Cursor

/-- The rest of a plain scalar. It ends before a comment, a marker, the colon of a value, a mark of
the flow collection around it, and outside of those at a line indented less than a margin. -/
def plainFrom (inFlow : Bool) (margin : Nat) (text : List Char) (gap : Gap) (place : Place) :
    List Char → Option Scanned
  | [] => some ⟨text, gap, ⟨place, []⟩⟩
  | char :: rest =>
    if isBreak char then
      plainFrom inFlow margin text (gap.addBreak char) (place.after char) rest
    else if isBlank char then
      if gap.isLines && place.column < margin && char = '\t' then none
      else plainFrom inFlow margin text (gap.addBlank char) (place.after char) rest
    else if (gap.isLines && !inFlow && place.column < margin) || (gap.isSome && char = '#') ||
        (place.column = 0 && isMarker (char :: rest)) || isValueMark (char :: rest) ||
        (inFlow && isFlowMark char) then
      some ⟨text, gap, ⟨place, char :: rest⟩⟩
    else if inFlow && char = ':' && rest.head?.any fun next => next = '?' || isFlowMark next then
      none
    else plainFrom inFlow margin (char :: gap.close text) .none (place.after char) rest

/-- The plain scalar at a cursor. -/
def readPlain (inFlow : Bool) (margin : Nat) (cursor : Cursor) : Option Scanned :=
  plainFrom inFlow margin [] .none cursor.place cursor.rest

/-- The character that a letter after a backslash stands for. -/
def escapedChar? : Char → Option Char
  | '0' => some '\x00'
  | 'a' => some '\x07'
  | 'b' => some '\x08'
  | 't' | '\t' => some '\t'
  | 'n' => some '\n'
  | 'v' => some '\x0b'
  | 'f' => some '\x0c'
  | 'r' => some '\r'
  | 'e' => some '\x1b'
  | ' ' => some ' '
  | '"' => some '"'
  | '/' => some '/'
  | '\\' => some '\\'
  | 'N' => some '\u0085'
  | '_' => some '\u00a0'
  | 'L' => some '\u2028'
  | 'P' => some '\u2029'
  | _ => none

/-- How many hexadecimal digits follow a letter after a backslash. -/
def escapeWidth : Char → Nat
  | 'x' => 2
  | 'u' => 4
  | 'U' => 8
  | _ => 0

/-- What an escape stands for, given the letter after the backslash and the characters after it, and
how many of those belong to it. -/
def readEscape (letter : Char) (rest : List Char) : Option (Char × Nat) :=
  let width := escapeWidth letter
  if width = 0 then (escapedChar? letter).map (·, 0)
  else if (rest.take width).length < width then none
  else do
    let char ← Text.charOfCode? (← Text.hexNumber? (rest.take width))
    some (char, width)

/-- The rest of a scalar between double quotes. -/
def doubleQuotedFrom (text : List Char) (gap : Gap) (place : Place) :
    List Char → Option (List Char × Cursor)
  | [] => none
  | char :: rest =>
    if isBreak char then doubleQuotedFrom text (gap.addBreak char) (place.after char) rest
    else if isBlank char then doubleQuotedFrom text (gap.addBlank char) (place.after char) rest
    else if place.column = 0 && isMarker (char :: rest) then none
    else if char = '"' then some (gap.close text, ⟨place.after char, rest⟩)
    else if char = '\\' then
      match rest with
      | [] => none
      | letter :: rest =>
        if isBreak letter then
          doubleQuotedFrom (gap.close text) (.lines .none []) ((place.after char).after letter) rest
        else match readEscape letter rest with
          | none => none
          | some (escaped, width) =>
            doubleQuotedFrom (escaped :: gap.close text) .none (place.plus (2 + width))
              (rest.drop width)
    else doubleQuotedFrom (char :: gap.close text) .none (place.after char) rest
termination_by rest => rest.length

/-- The rest of a scalar between single quotes, in which a quote is written twice. -/
def singleQuotedFrom (text : List Char) (gap : Gap) (place : Place) :
    List Char → Option (List Char × Cursor)
  | [] => none
  | '\'' :: '\'' :: rest =>
    singleQuotedFrom ('\'' :: gap.close text) .none (place.plus 2) rest
  | char :: rest =>
    if isBreak char then singleQuotedFrom text (gap.addBreak char) (place.after char) rest
    else if isBlank char then singleQuotedFrom text (gap.addBlank char) (place.after char) rest
    else if place.column = 0 && isMarker (char :: rest) then none
    else if char = '\'' then some (gap.close text, ⟨place.after char, rest⟩)
    else singleQuotedFrom (char :: gap.close text) .none (place.after char) rest

/-- The quoted scalar at a cursor, which stands at its first quote. -/
def readQuoted (cursor : Cursor) : Option (List Char × Cursor) :=
  if cursor.isAt '"' then doubleQuotedFrom [] .none cursor.next.place cursor.next.rest
  else singleQuotedFrom [] .none cursor.next.place cursor.next.rest

end OriginServer.Yaml
