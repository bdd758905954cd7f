/-!
# YAML source text

A document is read character by character from a place that knows its line and its column, because
indentation carries meaning. Only printable characters are admitted, and all spellings of a line
end are made one before anything is read; the line and paragraph separators break a line too, but
keep their identity, since they stay as they are in text that is folded.
-/
namespace OriginServer.Yaml

/-- The mark that may stand at the very beginning of a text and says nothing. -/
def byteOrderMark : Char := '\ufeff'

/-- Whether a character may occur in a document at all. -/
def isAdmitted (char : Char) : Bool :=
  char = '\t' || char = '\n' || char = '\r' || char = '\u0085' || (' ' ≤ char && char ≤ '~') ||
    ('\u00a0' ≤ char && char.toNat ≠ 0xFFFE && char.toNat ≠ 0xFFFF)

/-- Whether a character ends a line. -/
def isBreak (char : Char) : Bool := char = '\n' || char = '\u2028' || char = '\u2029'

/-- Whether a character is a space or a tab. -/
def isBlank (char : Char) : Bool := char = ' ' || char = '\t'

/-- Whether a word is over before some characters: they begin with a blank or a line end, or there
are none. -/
def endsWord : List Char → Bool
  | [] => true
  | char :: _ => isBlank char || isBreak char

/-- Whether a character can stand in the name of an anchor, a tag handle or a directive. -/
def isWordChar (char : Char) : Bool := char.isAlphanum || char = '-' || char = '_'

/-- The characters with each line end written as one line feed, given the reversed characters before
them. -/
def unifyBreaksFrom (passed : List Char) : List Char → List Char
  | [] => passed.reverse
  | '\r' :: '\n' :: rest => unifyBreaksFrom ('\n' :: passed) rest
  | char :: rest =>
    unifyBreaksFrom ((if char = '\r' || char = '\u0085' then '\n' else char) :: passed) rest

/-- The characters of a text as they are read, if all of them are admitted. -/
def sourceOf? (text : String) : Option (List Char) :=
  if text.toList.all isAdmitted then some (unifyBreaksFrom [] text.toList) else none

/-- A place in a text. -/
structure Place where
  /-- The number of characters before it. -/
  index : Nat
  /-- The number of lines before it. -/
  line : Nat
  /-- The number of characters before it on its line. -/
  column : Nat
  deriving DecidableEq, Repr, Inhabited

/-- The place after a character. -/
def Place.after (place : Place) (char : Char) : Place :=
  if isBreak char then ⟨place.index + 1, place.line + 1, 0⟩
  else ⟨place.index + 1, place.line, place.column + 1⟩

/-- The place after some characters of the same line. -/
def Place.plus (place : Place) (count : Nat) : Place :=
  { place with index := place.index + count, column := place.column + count }

/-- A place and the characters that follow it. -/
structure Cursor where
  /-- The place. -/
  place : Place
  /-- The characters from there on. -/
  rest : List Char
  deriving DecidableEq, Repr, Inhabited

namespace Cursor

/-- The beginning of a text. -/
def ofSource (source : List Char) : Cursor := ⟨⟨0, 0, 0⟩, source⟩

/-- The cursor after some characters of the same line. -/
def skip (count : Nat) (cursor : Cursor) : Cursor :=
  ⟨cursor.place.plus count, cursor.rest.drop count⟩

/-- The cursor after the next character, if there is one. -/
def next (cursor : Cursor) : Cursor :=
  match cursor.rest with
  | [] => cursor
  | char :: rest => ⟨cursor.place.after char, rest⟩

/-- The longest run of characters that pass a test and break no line, and the cursor after it. -/
def span (test : Char → Bool) (cursor : Cursor) : List Char × Cursor :=
  let (run, rest) := cursor.rest.span fun char => test char && !isBreak char
  (run, ⟨cursor.place.plus run.length, rest⟩)

/-- The cursor after the blanks that follow. -/
def skipBlanks (cursor : Cursor) : Cursor := (cursor.span isBlank).2

/-- Whether the character that follows is the given one. -/
def isAt (cursor : Cursor) (char : Char) : Bool := cursor.rest.head? = some char

/-- The cursor at the next line, if only blanks and a comment are left on this one. -/
def endLine? (cursor : Cursor) : Option Cursor :=
  let cursor := cursor.skipBlanks
  let cursor := if cursor.isAt '#' then (cursor.span fun _ => true).2 else cursor
  match cursor.rest with
  | [] => some cursor
  | char :: _ => if isBreak char then some cursor.next else none

end Cursor

/-- Whether some characters are the three hyphens or dots that part documents. They count only at
the beginning of a line. -/
def isMarker (text : List Char) : Bool :=
  (text.take 3 == ['-', '-', '-'] || text.take 3 == ['.', '.', '.']) && endsWord (text.drop 3)

end OriginServer.Yaml
