import OriginServer.Text.Chars
import OriginServer.Text.Utf8
import OriginServer.Yaml.Source

/-!
# YAML tags and directives

A tag names the type of a node: as a whole between angle brackets, or by a handle and the rest,
where a directive says what the handle stands for. Tags are written in ASCII; other characters are
escaped byte by byte.
-/
namespace OriginServer.Yaml

/-- A tag as it is written. -/
structure TagName where
  /-- The handle; empty if the tag is given as a whole. -/
  handle : String
  /-- What follows the handle. -/
  rest : Bytes
  deriving DecidableEq, Repr, Inhabited

/-- Whether a character stands for itself in a tag. -/
def isTagChar (isWhole : Bool) (char : Char) : Bool :=
  isWordChar char || ";/?:@&=+$.!~*'()".toList.contains char ||
    (isWhole && ",[]".toList.contains char)

/-- How many bytes a character takes whose first byte is given. -/
def byteCount? (byte : Nat) : Option Nat :=
  if byte < 0x80 then some 1
  else if 0xC0 ≤ byte && byte < 0xE0 then some 2
  else if 0xE0 ≤ byte && byte < 0xF0 then some 3
  else if 0xF0 ≤ byte && byte < 0xF8 then some 4
  else none

/-- How many further bytes are due after an escaped one, given how many are due before it. -/
def dueAfter? (due byte : Nat) : Option Nat :=
  if due = 0 then (byteCount? byte).map (· - 1)
  else if 0x80 ≤ byte && byte < 0xC0 then some (due - 1)
  else none

/-- A character of two bytes is escaped with two escapes. -/
example : dueAfter? 0 0xC3 = some 1 ∧ dueAfter? 1 0xA9 = some 0 ∧ dueAfter? 0 0xA9 = none := by
  decide

/-- The bytes of a tag, given those before in reverse and how many more have to be escaped. -/
def tagBytesFrom (isWhole : Bool) (due : Nat) (passed : Bytes) (place : Place) :
    List Char → Option (Bytes × Cursor)
  | '%' :: high :: low :: rest => do
    let byte ← Text.hexNumber? [high, low]
    tagBytesFrom isWhole (← dueAfter? due byte) (UInt8.ofNat byte :: passed) (place.plus 3) rest
  | char :: rest =>
    if due ≠ 0 || char = '%' then none
    else if isTagChar isWhole char then
      tagBytesFrom isWhole 0 (UInt8.ofNat char.toNat :: passed) (place.plus 1) rest
    else some (passed.reverse, ⟨place, char :: rest⟩)
  | [] => if due = 0 then some (passed.reverse, ⟨place, []⟩) else none

/-- The bytes of a tag. An escaped NUL ends it, whatever follows. -/
def readTagBytes (isWhole : Bool) (cursor : Cursor) : Option (Bytes × Cursor) :=
  tagBytesFrom isWhole 0 [] cursor.place cursor.rest

/-- The bytes of a tag of which there has to be one at least. -/
def readSomeTagBytes (isWhole : Bool) (cursor : Cursor) : Option (Bytes × Cursor) :=
  (readTagBytes isWhole cursor).filter (!·.1.isEmpty)

/-- The part of a tag that counts: what stands before an escaped NUL. -/
def untilNul (bytes : Bytes) : Bytes := bytes.takeWhile (· != 0)

/-- A handle: an exclamation mark and a word, and whether a second mark closes it. -/
def readHandle (cursor : Cursor) : String × Bool × Cursor :=
  let (word, cursor) := (cursor.skip 1).span isWordChar
  if cursor.isAt '!' then (String.ofList ('!' :: word ++ ['!']), true, cursor.skip 1)
  else (String.ofList ('!' :: word), false, cursor)

/-- A tag that is given as a whole, after its first angle bracket. -/
def readWholeTag (cursor : Cursor) : Option (TagName × Cursor) := do
  let (bytes, cursor) ← readSomeTagBytes true cursor
  if cursor.isAt '>' then some (⟨"", untilNul bytes⟩, cursor.skip 1) else none

/-- A tag with a handle. A word after a single mark is no handle but the tag's beginning, and a mark
alone is the whole tag. -/
def readHandleTag (cursor : Cursor) : Option (TagName × Cursor) :=
  match readHandle cursor with
  | (handle, true, cursor) =>
    (readSomeTagBytes false cursor).map fun (bytes, cursor) => (⟨handle, untilNul bytes⟩, cursor)
  | (handle, false, cursor) =>
    (readTagBytes false cursor).map fun (bytes, cursor) =>
      let bytes := untilNul (Utf8.encode handle ++ bytes)
      if bytes.length ≤ 1 then (⟨"", bytes⟩, cursor) else (⟨"!", bytes.drop 1⟩, cursor)

/-- The tag at a cursor, which stands at its exclamation mark. -/
def readTag (inFlow : Bool) (cursor : Cursor) : Option (TagName × Cursor) := do
  let (name, cursor) ←
    if (cursor.skip 1).isAt '<' then readWholeTag (cursor.skip 2) else readHandleTag cursor
  if endsWord cursor.rest || (inFlow && cursor.isAt ',') then some (name, cursor) else none

/-- What stands before the documents. -/
inductive Directive where
  /-- The version of the language. -/
  | version (major minor : Nat)
  /-- What a handle stands for. -/
  | handle (handle : String) (bytes : Bytes)
  deriving DecidableEq, Repr, Inhabited

/-- A number of at most nine digits. -/
def readNumber (cursor : Cursor) : Option (Nat × Cursor) :=
  let (digits, cursor) := cursor.span Char.isDigit
  if digits.isEmpty || 9 < digits.length then none
  else some (digits.foldl (fun number digit => 10 * number + (digit.toNat - '0'.toNat)) 0, cursor)

/-- A version, after the directive's name. -/
def readVersion (cursor : Cursor) : Option (Directive × Cursor) := do
  let (major, cursor) ← readNumber cursor.skipBlanks
  if !cursor.isAt '.' then none
  else
    let (minor, cursor) ← readNumber (cursor.skip 1)
    some (.version major minor, cursor)

/-- A handle and what it stands for, after the directive's name. -/
def readHandleMeaning (cursor : Cursor) : Option (Directive × Cursor) := do
  let cursor := cursor.skipBlanks
  if !cursor.isAt '!' then none
  else
    let (handle, closed, cursor) := readHandle cursor
    if (!closed && handle ≠ "!") || !cursor.rest.head?.any isBlank then none
    else
      let (bytes, cursor) ← readSomeTagBytes true cursor.skipBlanks
      if endsWord cursor.rest then some (.handle handle (untilNul bytes), cursor) else none

/-- The directive at a cursor, which stands at its percent sign. There is no other than these two.
-/
def readDirective (cursor : Cursor) : Option (Directive × Cursor) := do
  let (name, cursor) := (cursor.skip 1).span isWordChar
  if !endsWord cursor.rest then none
  else
    let (directive, cursor) ←
      if name = "YAML".toList then readVersion cursor
      else if name = "TAG".toList then readHandleMeaning cursor
      else none
    some (directive, ← cursor.endLine?)

end OriginServer.Yaml
