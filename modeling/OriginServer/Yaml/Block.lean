import OriginServer.Yaml.Scalar

/-!
# YAML block scalars

A block scalar is a run of lines that are indented alike. Its header may fix the indentation and say
what happens to the line ends after the last line; a folded block joins neighbouring lines unless
one of them begins with a blank.
-/
namespace OriginServer.Yaml

/-- What happens to the line ends after the last line of a block. -/
inductive Chomping where
  /-- All are left out. -/
  | strip
  /-- The first one is kept. -/
  | clip
  /-- All are kept. -/
  | keep
  deriving DecidableEq, Repr, Inhabited

/-- The header of a block scalar. -/
structure BlockHeader where
  /-- What happens to the line ends at the end. -/
  chomping : Chomping
  /-- The indentation beyond that of the block around it; zero if it is found from the lines. -/
  indentation : Nat

/-- The chomping that a character asks for. -/
def chompingOf? : Char → Option Chomping
  | '+' => some .keep
  | '-' => some .strip
  | _ => none

/-- A mark for the chomping, if one follows. -/
def readChomping (cursor : Cursor) : Option Chomping × Cursor :=
  match cursor.rest.head?.bind chompingOf? with
  | some chomping => (some chomping, cursor.skip 1)
  | none => (none, cursor)

/-- A digit for the indentation, if one follows; it cannot be zero. -/
def readIndentation (cursor : Cursor) : Option (Nat × Cursor) :=
  match cursor.rest.head? with
  | some '0' => none
  | some digit =>
    if digit.isDigit then some (digit.toNat - '0'.toNat, cursor.skip 1) else some (0, cursor)
  | none => some (0, cursor)

/-- The header of a block scalar, in which chomping and indentation come in either order. -/
def readBlockHeader (cursor : Cursor) : Option (BlockHeader × Cursor) := do
  let (before, cursor) := readChomping cursor
  let (indentation, cursor) ← readIndentation cursor
  let (chomping, cursor) := match before with
    | some chomping => (chomping, cursor)
    | none => let (after, cursor) := readChomping cursor; (after.getD .clip, cursor)
  some (⟨chomping, indentation⟩, ← cursor.endLine?)

/-- The largest indentation of the empty lines that follow and of the first other line. A tab cannot
stand where it is looked for. -/
def indentationFrom (largest : Nat) (column : Nat) : List Char → Option Nat
  | [] => some (max largest column)
  | char :: rest =>
    if char = ' ' then indentationFrom largest (column + 1) rest
    else if char = '\t' then none
    else if isBreak char then indentationFrom (max largest column) 0 rest
    else some (max largest column)

/-- The part of a block scalar that was read. -/
structure BlockText where
  /-- Its lines so far, the last character first. -/
  text : List Char
  /-- The line end after the last line. -/
  lineEnd : Option Char
  /-- The line ends of the empty lines after it, the last one first. -/
  more : List Char
  /-- Whether the last line begins with a blank. -/
  blankFirst : Bool

namespace BlockText

/-- Nothing was read. -/
def empty : BlockText := ⟨[], none, [], false⟩

/-- The block with a further line begun. -/
def beginLine (isFolded : Bool) (char : Char) (block : BlockText) : BlockText :=
  let text :=
    if isFolded && block.lineEnd = some '\n' && !block.blankFirst && !isBlank char then
      if block.more.isEmpty then ' ' :: block.text else block.more ++ block.text
    else block.more ++ block.lineEnd.toList ++ block.text
  ⟨char :: text, none, [], isBlank char⟩

/-- The whole text, the last character first. -/
def finish (chomping : Chomping) (block : BlockText) : List Char :=
  match chomping with
  | .strip => block.text
  | .clip => block.lineEnd.toList ++ block.text
  | .keep => block.more ++ block.lineEnd.toList ++ block.text

end BlockText

/-- The lines of a block scalar with an indentation: those that reach it, and the empty ones between
and after them. -/
def blockFrom (isFolded : Bool) (indentation : Nat) (inLine : Bool) (block : BlockText)
    (place : Place) : List Char → Option (BlockText × Cursor)
  | [] => some (block, ⟨place, []⟩)
  | char :: rest =>
    let go := fun inLine block =>
      blockFrom isFolded indentation inLine block (place.after char) rest
    if inLine then
      if isBreak char then go false { block with lineEnd := some char }
      else go true { block with text := char :: block.text }
    else if place.column < indentation && char = ' ' then go false block
    else if place.column < indentation && char = '\t' then none
    else if isBreak char then go false { block with more := char :: block.more }
    else if place.column = indentation then go true (block.beginLine isFolded char)
    else some (block, ⟨place, char :: rest⟩)

/-- The block scalar at a cursor, which stands at its mark, given the least indentation that it can
have. -/
def readBlock (margin : Nat) (cursor : Cursor) : Option (Style × List Char × Cursor) := do
  let isFolded := cursor.isAt '>'
  let (header, cursor) ← readBlockHeader (cursor.skip 1)
  let indentation ←
    if header.indentation = 0 then
      (indentationFrom 0 cursor.place.column cursor.rest).map fun found => max found (max margin 1)
    else some (margin - 1 + header.indentation)
  let (block, cursor) ← blockFrom isFolded indentation false .empty cursor.place cursor.rest
  some (if isFolded then .folded else .literal, block.finish header.chomping, cursor)

/-- The indentation is the largest of the empty lines and the first other line. -/
example : indentationFrom 0 0 "\n   \n  a".toList = some 3 ∧
    indentationFrom 0 0 " \ta".toList = none := by decide

end OriginServer.Yaml
