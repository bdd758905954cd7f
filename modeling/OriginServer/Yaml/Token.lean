import OriginServer.Yaml.Block
import OriginServer.Yaml.Tag

/-!
# YAML tokens

The tokens of a document in the order of the text. Blocks are told by indentation and a mapping's
key only by the colon after it, so some tokens stand for no characters of their own: those that
begin and end blocks, and the one before a key. `Layout` keeps what is needed to place them: the
columns of the open blocks, and the place where a key may have begun.
-/
namespace OriginServer.Yaml

/-- A token. -/
inductive Token where
  /-- A directive. -/
  | directive (directive : Directive)
  /-- The marker before a document. -/
  | documentStart
  /-- The marker after a document. -/
  | documentEnd
  /-- The beginning of a sequence in block form. -/
  | blockSequence
  /-- The beginning of a mapping in block form. -/
  | blockMapping
  /-- The end of a block. -/
  | blockEnd
  /-- An opening bracket. -/
  | flowSequence
  /-- A closing bracket. -/
  | flowSequenceEnd
  /-- An opening brace. -/
  | flowMapping
  /-- A closing brace. -/
  | flowMappingEnd
  /-- The hyphen before an item. -/
  | item
  /-- The comma between entries. -/
  | comma
  /-- The beginning of a key. -/
  | key
  /-- The colon before a value. -/
  | value
  /-- A reference to an anchor. -/
  | alias (name : String)
  /-- An anchor. -/
  | anchor (name : String)
  /-- A tag. -/
  | tag (name : TagName)
  /-- A scalar. -/
  | scalar (style : Style) (text : String)
  deriving DecidableEq, Repr, Inhabited

/-- Where a key may have begun. -/
structure KeyStart where
  /-- The number of tokens before it. -/
  token : Nat
  /-- Its place. -/
  place : Place
  /-- Whether nothing but a key can stand there. -/
  required : Bool

/-- The longest key that is told by the colon after it. -/
def maxKeyLength : Nat := 1024

/-- Whether no colon at a place can belong to the key any more: a key stands on one line and is not
too long. -/
def KeyStart.isPast (start : KeyStart) (place : Place) : Bool :=
  start.place.line < place.line || start.place.index + maxKeyLength < place.index

/-- How far a text was cut into tokens. -/
structure Layout where
  /-- Where reading goes on. -/
  cursor : Cursor
  /-- The tokens so far, the last one first. -/
  tokens : List Token
  /-- Their number. -/
  count : Nat
  /-- The columns of the open blocks, the innermost first. -/
  blocks : List Nat
  /-- Where a key may have begun in the innermost collection. -/
  key : Option KeyStart
  /-- The same for the collections around it, of which all but the outermost are in flow form. -/
  outerKeys : List (Option KeyStart)
  /-- Whether a key can begin at the cursor. -/
  keyAllowed : Bool

namespace Layout

/-- The beginning of a text. -/
def ofSource (source : List Char) : Layout := ⟨.ofSource source, [], 0, [], none, [], true⟩

/-- Whether the cursor is inside a flow collection. -/
def inFlow (layout : Layout) : Bool := !layout.outerKeys.isEmpty

/-- The column of the cursor. -/
def column (layout : Layout) : Nat := layout.cursor.place.column

/-- The least column of text that continues the innermost block. -/
def margin (layout : Layout) : Nat := (layout.blocks.head?.map (· + 1)).getD 0

/-- Add a token. -/
def add (token : Token) (layout : Layout) : Layout :=
  { layout with tokens := token :: layout.tokens, count := layout.count + 1 }

/-- Add a token that ends at another cursor. -/
def addTo (cursor : Cursor) (token : Token) (layout : Layout) : Layout :=
  { layout.add token with cursor }

/-- Insert tokens where a number of tokens stands before them. -/
def insertAt (place : Nat) (inserted : List Token) (layout : Layout) : Layout :=
  let later := layout.count - place
  { layout with
    tokens := layout.tokens.take later ++ inserted.reverse ++ layout.tokens.drop later
    count := layout.count + inserted.length }

/-- End the blocks that begin at a column or beyond. Indentation says nothing in flow form. -/
def closeBlocks (column : Nat) (layout : Layout) : Layout :=
  if layout.inFlow then layout
  else
    let (closed, blocks) := layout.blocks.span (column ≤ ·)
    { layout with
      tokens := closed.map (fun _ => .blockEnd) ++ layout.tokens
      count := layout.count + closed.length, blocks }

/-- Whether a block that begins at a column is a new one. -/
def opensBlock (column : Nat) (layout : Layout) : Bool :=
  !layout.inFlow && layout.blocks.head?.all (· < column)

/-- Begin a block at the cursor unless it goes on there. -/
def openBlock (token : Token) (layout : Layout) : Layout :=
  if layout.opensBlock layout.column then
    { layout.add token with blocks := layout.column :: layout.blocks }
  else layout

/-- Give up the place where a key may have begun, unless there has to be one. -/
def dropKey (layout : Layout) : Option Layout :=
  if layout.key.any (·.required) then none else some { layout with key := none }

/-- Give up the place where a key may have begun if it is too far back. -/
def dropPastKey (layout : Layout) : Option Layout :=
  if layout.key.any (·.isPast layout.cursor.place) then layout.dropKey else some layout

/-- Note that a key may begin at the cursor, if that is allowed. -/
def noteKey (layout : Layout) : Option Layout :=
  if layout.keyAllowed then
    layout.dropKey.map fun layout =>
      { layout with
        key := some ⟨layout.count, layout.cursor.place,
          !layout.inFlow && layout.blocks.head? = some layout.column⟩ }
  else some layout

/-- Say whether a key can begin after the cursor. -/
def allowKey (allowed : Bool) (layout : Layout) : Layout := { layout with keyAllowed := allowed }

/-- The place of the next token, after blanks, comments and empty lines, and whether a key can begin
there. A tab is passed only where no indentation is looked for. -/
def settleFrom (inFlow keyAllowed inComment : Bool) (place : Place) : List Char → Bool × Cursor
  | [] => (keyAllowed, ⟨place, []⟩)
  | char :: rest =>
    if isBreak char then settleFrom inFlow (keyAllowed || !inFlow) false (place.after char) rest
    else if inComment || char = '#' || char = ' ' || (char = '\t' && (inFlow || !keyAllowed)) ||
        (char = byteOrderMark && place.index = 0) then
      settleFrom inFlow keyAllowed (inComment || char = '#') (place.after char) rest
    else (keyAllowed, ⟨place, char :: rest⟩)

/-- Move the cursor to the next token. -/
def settle (layout : Layout) : Layout :=
  let (keyAllowed, cursor) :=
    settleFrom layout.inFlow layout.keyAllowed false layout.cursor.place layout.cursor.rest
  { layout with keyAllowed, cursor }

/-- A directive or a marker: everything before it is over. -/
def beginDocumentPart (layout : Layout) : Option Layout :=
  (layout.closeBlocks 0).dropKey.map (allowKey false)

/-- The directive at the cursor. -/
def addDirective (layout : Layout) : Option Layout := do
  let layout ← layout.beginDocumentPart
  let (directive, cursor) ← readDirective layout.cursor
  some (layout.addTo cursor (.directive directive))

/-- The marker at the cursor. -/
def addMarker (token : Token) (layout : Layout) : Option Layout :=
  layout.beginDocumentPart.map fun layout => layout.addTo (layout.cursor.skip 3) token

/-- The beginning of a flow collection at the cursor. -/
def addOpening (token : Token) (layout : Layout) : Option Layout :=
  layout.noteKey.map fun layout =>
    ({ layout with key := none, outerKeys := layout.key :: layout.outerKeys }.allowKey true).addTo
      (layout.cursor.skip 1) token

/-- The end of a flow collection at the cursor. -/
def addClosing (token : Token) (layout : Layout) : Option Layout :=
  layout.dropKey.map fun layout =>
    let layout := match layout.outerKeys with
      | [] => layout
      | key :: outerKeys => { layout with key, outerKeys }
    (layout.allowKey false).addTo (layout.cursor.skip 1) token

/-- The comma at the cursor. -/
def addComma (layout : Layout) : Option Layout :=
  layout.dropKey.map fun layout => (layout.allowKey true).addTo (layout.cursor.skip 1) .comma

/-- Begin a block at the cursor where it can begin. -/
def openBlockIfAllowed (token : Token) (layout : Layout) : Option Layout :=
  if layout.inFlow then some layout
  else if layout.keyAllowed then some (layout.openBlock token)
  else none

/-- The hyphen of an item at the cursor. -/
def addItem (layout : Layout) : Option Layout := do
  let layout ← layout.openBlockIfAllowed .blockSequence
  let layout ← layout.dropKey
  some ((layout.allowKey true).addTo (layout.cursor.skip 1) .item)

/-- The question mark of a key at the cursor. -/
def addKey (layout : Layout) : Option Layout := do
  let layout ← layout.openBlockIfAllowed .blockMapping
  let layout ← layout.dropKey
  some ((layout.allowKey (!layout.inFlow)).addTo (layout.cursor.skip 1) .key)

/-- The mapping that a key begins, unless the key belongs to the innermost block. -/
def insertKey (start : KeyStart) (layout : Layout) : Layout :=
  if layout.opensBlock start.place.column then
    { layout.insertAt start.token [.blockMapping, .key] with
      blocks := start.place.column :: layout.blocks }
  else layout.insertAt start.token [.key]

/-- The colon of a value at the cursor. The key before it is marked now if it was not before. -/
def addValue (layout : Layout) : Option Layout :=
  match layout.key with
  | some start =>
    some (({ layout.insertKey start with key := none }.allowKey false).addTo
      (layout.cursor.skip 1) .value)
  | none => do
    let layout ← layout.openBlockIfAllowed .blockMapping
    some ((layout.allowKey (!layout.inFlow)).addTo (layout.cursor.skip 1) .value)

/-- The anchor or alias at the cursor. -/
def addName (token : String → Token) (layout : Layout) : Option Layout := do
  let layout ← layout.noteKey
  let (name, cursor) := (layout.cursor.skip 1).span isWordChar
  if name.isEmpty || !(endsWord cursor.rest ||
      cursor.rest.head?.any fun char => "?:,]\x7d%@\x60".toList.contains char) then none
  else some ((layout.allowKey false).addTo cursor (token (String.ofList name)))

/-- The tag at the cursor. -/
def addTag (layout : Layout) : Option Layout := do
  let layout ← layout.noteKey
  let (name, cursor) ← readTag layout.inFlow layout.cursor
  some ((layout.allowKey false).addTo cursor (.tag name))

/-- The block scalar at the cursor. -/
def addBlock (layout : Layout) : Option Layout := do
  let layout ← layout.dropKey
  let (style, text, cursor) ← readBlock layout.margin layout.cursor
  some ((layout.allowKey true).addTo cursor (.scalar style (String.ofList text.reverse)))

/-- The quoted scalar at the cursor. -/
def addQuoted (layout : Layout) : Option Layout := do
  let layout ← layout.noteKey
  let (text, cursor) ← readQuoted layout.cursor
  some ((layout.allowKey false).addTo cursor (.scalar .quoted (String.ofList text.reverse)))

/-- The plain scalar at the cursor. If it ends with its line, a key can begin on the next. -/
def addPlain (layout : Layout) : Option Layout := do
  let layout ← layout.noteKey
  let scanned ← readPlain layout.inFlow layout.margin layout.cursor
  some ((layout.allowKey scanned.gap.isLines).addTo scanned.cursor
    (.scalar .plain (String.ofList scanned.text.reverse)))

/-- The characters that no plain scalar begins with. -/
def isIndicator (char : Char) : Bool := "-?:,[]\x7b\x7d#&*!|>'\"%@\x60".toList.contains char

/-- Whether a plain scalar begins with a character, given those after it. -/
def beginsPlain (inFlow : Bool) (char : Char) (rest : List Char) : Bool :=
  (!isIndicator char && !endsWord [char]) || (char = '-' && !rest.head?.any isBlank) ||
    (!inFlow && (char = '?' || char = ':') && !endsWord rest)

/-- Add the token that begins with a character at the cursor, given those after it. -/
def addNext (char : Char) (rest : List Char) (layout : Layout) : Option Layout :=
  if layout.column = 0 && char = '%' then layout.addDirective
  else if layout.column = 0 && isMarker (char :: rest) then
    layout.addMarker (if char = '-' then .documentStart else .documentEnd)
  else if char = '[' then layout.addOpening .flowSequence
  else if char = '\x7b' then layout.addOpening .flowMapping
  else if char = ']' then layout.addClosing .flowSequenceEnd
  else if char = '\x7d' then layout.addClosing .flowMappingEnd
  else if char = ',' then layout.addComma
  else if char = '-' && endsWord rest then layout.addItem
  else if char = '?' && (layout.inFlow || endsWord rest) then layout.addKey
  else if char = ':' && (layout.inFlow || endsWord rest) then layout.addValue
  else if char = '*' then layout.addName .alias
  else if char = '&' then layout.addName .anchor
  else if char = '!' then layout.addTag
  else if (char = '|' || char = '>') && !layout.inFlow then layout.addBlock
  else if char = '\'' || char = '"' then layout.addQuoted
  else if beginsPlain layout.inFlow char rest then layout.addPlain
  else none

/-- All tokens of a text, if it can be cut into tokens in a given number of steps. -/
def finish (layout : Layout) : Nat → Option (List Token)
  | 0 => none
  | steps + 1 => do
    let layout ← layout.settle.dropPastKey
    let layout := layout.closeBlocks (layout.column + 1)
    match layout.cursor.rest with
    | [] => (layout.closeBlocks 0).dropKey.map (·.tokens.reverse)
    | char :: rest => (← layout.addNext char rest).finish steps

end Layout

/-- The tokens of a text. Each step passes a character, so that one more step than there are
characters is enough. -/
def Token.ofText? (text : String) : Option (List Token) := do
  let source ← sourceOf? text
  (Layout.ofSource source).finish (source.length + 1)

/-- The mapping and its key are found at the colon, and the block ends with the text. -/
example : Token.ofText? "a: b" =
    some [.blockMapping, .key, .scalar .plain "a", .value, .scalar .plain "b", .blockEnd] := by
  decide +kernel

end OriginServer.Yaml
