import OriginServer.Yaml.Node

/-!
# Reading YAML documents

A text holds one document or none at all. Directives may stand before the marker that begins the
document; only after the end of the document may further markers follow.
-/
namespace OriginServer.Yaml

/-- What the handles stand for that no directive mentions. -/
def usualHandles : Handles :=
  [("!", Utf8.encode "!"), ("!!", Utf8.encode "tag:yaml.org,2002:")]

/-- What is known from directives. -/
structure Prologue where
  /-- Whether there was a version. -/
  hasVersion : Bool
  /-- The handles that were given a meaning. -/
  handles : Handles

namespace Prologue

/-- Add a directive. The version is given once at most and has to be known; so is the meaning of a
handle. -/
def add (prologue : Prologue) : Directive → Option Prologue
  | .version major minor =>
    if prologue.hasVersion || major ≠ 1 || (minor ≠ 1 && minor ≠ 2) then none
    else some { prologue with hasVersion := true }
  | .handle handle bytes =>
    if (prologue.handles.lookup handle).isSome then none
    else some { prologue with handles := (handle, bytes) :: prologue.handles }

/-- Take the directives from the beginning of tokens. -/
def take (prologue : Prologue) : List Token → Option (Prologue × List Token)
  | .directive directive :: rest => do (← prologue.add directive).take rest
  | rest => some (prologue, rest)

end Prologue

/-- Whether a document ends before a token, without content. -/
def Token.endsDocument : Option Token → Bool
  | none | some (.directive _) | some .documentStart | some .documentEnd => true
  | _ => false

/-- The document that tokens write, from its content on. Only markers of its end may follow. Of four
steps of building one passes a token at least. -/
def Document.ofContent? (handles : Handles) (mayLack : Bool) (tokens : List Token) :
    Option Document := do
  let start : Building := ⟨tokens, 0, [], []⟩
  let (root, building) ←
    if mayLack && Token.endsDocument tokens.head? then some (start.addMissing none)
    else buildNode handles true false start (4 * tokens.length + 4)
  if building.tokens.all (· = .documentEnd) then some ⟨root, building.anchors, building.events⟩
  else none

/-- The document of a text, or nothing if the text holds no more than blanks and comments; refused
if the text is malformed or holds several documents. -/
def Document.ofText? (text : String) : Option (Option Document) := do
  let tokens ← Token.ofText? text
  let (prologue, rest) ← Prologue.take ⟨false, []⟩ tokens
  let handles := prologue.handles ++ usualHandles
  match rest with
  | .documentStart :: rest => (Document.ofContent? handles true rest).map some
  | [] => if tokens.isEmpty then some none else none
  | _ =>
    if rest.length = tokens.length then (Document.ofContent? handles false rest).map some else none

end OriginServer.Yaml
