import OriginServer.Settings.Basic
import OriginServer.Yaml.Document

/-!
# Settings as a document

Settings are written as a YAML mapping. What is expected decides how a node is read: every scalar is
a text where a text is expected, only certain plain ones are a truth value, and where something may
be left out, a plain null leaves it out. Nothing at all stands for an empty mapping or sequence.
Unknown keys are passed over, but no known key may be repeated.
-/
namespace OriginServer.Yaml

/-- Reading a node, with the number of aliases that may still be followed. -/
abbrev Reading := StateT Nat Option

/-- How many aliases may be followed for each event of a document. -/
def aliasesPerEvent : Nat := 100

/-- The tag of truth values. -/
def truthTag : Bytes := Utf8.encode "tag:yaml.org,2002:bool"

/-- The tag of nulls. -/
def nullTag : Bytes := Utf8.encode "tag:yaml.org,2002:null"

/-- The truth value that a text writes. -/
def truthValue? (text : String) : Option Bool :=
  if ["true", "True", "TRUE"].contains text then some true
  else if ["false", "False", "FALSE"].contains text then some false
  else none

/-- Whether a text writes a null. -/
def isNull (text : String) : Bool := ["null", "Null", "NULL", "~"].contains text

namespace Document

variable (document : Document)

/-- The node that an alias means, or the node itself if it is none. -/
def follow (node : Node) : Reading Node := do
  match node with
  | .alias number =>
    match ← get with
    | 0 => failure
    | left + 1 =>
      set left
      document.anchored? number
  | node => return node

/-- Read a text. -/
def readText (node : Node) : Reading String := do
  match ← document.follow node with
  | .scalar _ _ text => return text
  | _ => failure

/-- Read a truth value. It is plain, or a literal block that is tagged as one. -/
def readTruth (node : Node) : Reading Bool := do
  match ← document.follow node with
  | .scalar style tag text =>
    if style = .plain || (style = .literal && tag = some truthTag) then truthValue? text
    else failure
  | _ => failure

/-- Read what may be null. A node with a tag is only null if the tag says so, and then it has to be
written as one. -/
def readOption {α : Type} (read : Node → Reading α) (node : Node) : Reading (Option α) := do
  let node ← document.follow node
  match node with
  | .scalar .plain none text =>
    if text.isEmpty || isNull text then return none else some <$> read node
  | .scalar .plain (some tag) text =>
    if tag ≠ nullTag then some <$> read node
    else if isNull text then return none
    else failure
  | _ => some <$> read node

/-- Read a sequence. -/
def readList {α : Type} (read : Node → Reading α) (node : Node) : Reading (List α) := do
  match ← document.follow node with
  | .sequence items => items.mapM read
  | .scalar .plain _ "" => return []
  | _ => failure

/-- Read a mapping, whose keys have to be texts. -/
def readFields (node : Node) : Reading (List (String × Node)) := do
  match ← document.follow node with
  | .mapping entries => entries.mapM fun (key, value) => return (← document.readText key, value)
  | .scalar .plain _ "" => return []
  | _ => failure

end Document

/-- Read the field with a name, if there is one. -/
def readField {α : Type} (fields : List (String × Node)) (name : String)
    (read : Node → Reading α) : Reading (Option α) :=
  match fields.filter (·.1 = name) with
  | [] => return none
  | [(_, node)] => some <$> read node
  | _ => failure

end OriginServer.Yaml

namespace OriginServer

open Yaml

/-- Read the documents that replace error pages. -/
def ErrorDocuments.read (document : Document) (node : Node) : Reading ErrorDocuments := do
  let fields ← document.readFields node
  let path := document.readOption document.readText
  return {
    notFound := (← readField fields "not_found" path).join
    forbidden := (← readField fields "forbidden" path).join }

/-- Read for which paths a filter is to run. Only the exceptions can be left out. -/
def FilterSettings.read (document : Document) (node : Node) : Reading FilterSettings := do
  let fields ← document.readFields node
  let some included ← readField fields "include" document.readText | failure
  let excluded ← readField fields "exclude" (document.readOption document.readText)
  let some filter ← readField fields "filter" document.readText | failure
  return ⟨included, excluded.join, filter⟩

namespace Settings

/-- Read settings. -/
def read (document : Document) (node : Node) : Reading Settings := do
  let fields ← document.readFields node
  let texts := document.readList document.readText
  return {
    listenAddress :=
      (← readField fields "listen_addr" document.readText).getD usual.listenAddress
    keepAlive := (← readField fields "keep_alive" document.readTruth).getD usual.keepAlive
    signature := (← readField fields "signature" document.readText).getD usual.signature
    supportedMethods := (← readField fields "supported_methods" texts).getD usual.supportedMethods
    directoryIndex := (← readField fields "directory_index" texts).getD usual.directoryIndex
    documentRoot :=
      (← readField fields "document_root" (document.readOption document.readText)).join
    errorDocuments :=
      (← readField fields "error_documents" (ErrorDocuments.read document)).getD
        usual.errorDocuments
    filters :=
      (← readField fields "filters" (document.readList (FilterSettings.read document))).getD
        usual.filters }

/-- The settings that a document writes. -/
def ofDocument? (document : Document) : Option Settings :=
  ((read document document.root).run (aliasesPerEvent * document.events)).map (·.1)

/-- The settings that a text writes, if it is a document of settings. A text without a document sets
nothing. -/
def ofText? (text : String) : Option Settings := do
  match ← Document.ofText? text with
  | none => some usual
  | some document => ofDocument? document

/-- A text without a document sets nothing; a repeated key is refused, an unknown one is not. -/
example : ofText? "# nothing" = some usual ∧ ofText? "a: 1\nkeep_alive: no" = none ∧
    ofText? "a: 1" = some usual ∧ ofText? "signature: a\nsignature: a" = none := by decide +kernel

end Settings

end OriginServer
