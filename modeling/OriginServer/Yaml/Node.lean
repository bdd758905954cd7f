import OriginServer.Yaml.Token

/-!
# YAML documents

A document is a tree of scalars, sequences and mappings, in which aliases refer to anchored nodes.
`Document.ofText?` builds it from the tokens of a text that holds one document at most.

An anchor is known by a number: how many different names had been given before it. A name that is
given again therefore gets a new number, which a later new name may get as well; an alias means the
node that got its number last, in the order in which the nodes begin.
-/
namespace OriginServer.Yaml

/-- A node of a document. -/
inductive Node where
  /-- A text, how it is written, and its tag. -/
  | scalar (style : Style) (tag : Option Bytes) (text : String)
  /-- Items. -/
  | sequence (items : List Node)
  /-- Keys with values. -/
  | mapping (entries : List (Node × Node))
  /-- Another node, by the number of its anchor. -/
  | alias (number : Nat)
  deriving Inhabited

/-- An anchored node. -/
structure Anchor where
  /-- Its number. -/
  number : Nat
  /-- How many events come before it: scalars, aliases, and beginnings and ends of collections. -/
  start : Nat
  /-- The node. -/
  node : Node

/-- A document. -/
structure Document where
  /-- The whole tree. -/
  root : Node
  /-- The anchored nodes; of two with one number, the one that counts comes first. -/
  anchors : List Anchor
  /-- How many events the document has. -/
  events : Nat

namespace Node

/-- The node that stands where nothing is written. -/
def missing (tag : Option Bytes) : Node := .scalar .plain tag ""

end Node

/-- The node that a number means. -/
def Document.anchored? (document : Document) (number : Nat) : Option Node :=
  (document.anchors.find? (·.number = number)).map (·.node)

/-- How far a document was built from its tokens. -/
structure Building where
  /-- The tokens from here on. -/
  tokens : List Token
  /-- The events so far. -/
  events : Nat
  /-- The names of anchors so far with their numbers. -/
  names : List (String × Nat)
  /-- The anchored nodes so far. -/
  anchors : List Anchor

namespace Building

/-- The building after its next token. -/
def pass (building : Building) : Building := { building with tokens := building.tokens.tail }

/-- The building after some more events. -/
def count (events : Nat) (building : Building) : Building :=
  { building with events := building.events + events }

/-- Give a name to the node that begins here. -/
def name (name : String) (building : Building) : Building :=
  { building with
    names := (name, building.names.length) :: building.names.filter (·.1 != name) }

/-- Enter an anchored node, unless a node that begins later has got its number. -/
def enter (anchor : Anchor) (building : Building) : Building :=
  if building.anchors.any fun other => other.number = anchor.number && anchor.start < other.start
  then building
  else { building with anchors := anchor :: building.anchors }

/-- A node without characters. -/
def addMissing (tag : Option Bytes) (building : Building) : Node × Building :=
  (.missing tag, building.count 1)

end Building

/-- The properties of a node: an anchor and a tag, in either order. -/
def takeProperties : List Token → Option String × Option TagName × List Token
  | .anchor name :: .tag tag :: rest => (some name, some tag, rest)
  | .tag tag :: .anchor name :: rest => (some name, some tag, rest)
  | .anchor name :: rest => (some name, none, rest)
  | .tag tag :: rest => (none, some tag, rest)
  | rest => (none, none, rest)

/-- What the handles of tags stand for. -/
abbrev Handles := List (String × Bytes)

/-- The whole tag, if its handle is known. -/
def TagName.resolve? (handles : Handles) (name : TagName) : Option Bytes :=
  if name.handle.isEmpty then some name.rest
  else (handles.lookup name.handle).map (· ++ name.rest)

/-- Whether nothing is written for a node of a block before a token. -/
def Token.endsBlockNode : Option Token → Bool
  | some .key | some .value | some .blockEnd => true
  | _ => false

/-- Whether nothing is written for a value in a flow mapping before a token. -/
def Token.endsFlowValue : Option Token → Bool
  | some .comma | some .flowMappingEnd => true
  | _ => false

/-- Whether nothing is written for a value in a flow sequence before a token. -/
def Token.endsFlowItem : Option Token → Bool
  | some .comma | some .flowSequenceEnd => true
  | _ => false

mutual

/-- Build a node in a number of steps. A node in block form can begin only where one is allowed;
where a mapping's key or value stands, a sequence need not be indented. -/
def buildNode (handles : Handles) (inBlock flat : Bool) (building : Building) :
    Nat → Option (Node × Building)
  | 0 => none
  | steps + 1 =>
    match building.tokens with
    | .alias name :: _ =>
      (building.names.lookup name).map fun number => (.alias number, building.pass.count 1)
    | tokens => do
      let (name, tagName, rest) := takeProperties tokens
      let tag ← match tagName with
        | none => some none
        | some tagName => (tagName.resolve? handles).map some
      let building := { building with tokens := rest }
      match name with
      | none => buildContent handles inBlock flat tag tagName.isSome building steps
      | some name =>
        let number := building.names.length
        let start := building.events
        let (node, building) ←
          buildContent handles inBlock flat tag true (building.name name) steps
        some (node, building.enter ⟨number, start, node⟩)

/-- Build a node after its properties. One that has properties can lack everything else. -/
def buildContent (handles : Handles) (inBlock flat : Bool) (tag : Option Bytes)
    (hasProperties : Bool) (building : Building) : Nat → Option (Node × Building)
  | 0 => none
  | steps + 1 =>
    match building.tokens.head? with
    | some (.scalar style text) => some (.scalar style tag text, building.pass.count 1)
    | some .flowSequence => buildFlowItems handles [] (building.pass.count 1) steps
    | some .flowMapping => buildFlowEntries handles [] (building.pass.count 1) steps
    | token =>
      if flat && token = some .item then buildFlatItems handles [] (building.count 1) steps
      else if inBlock && token = some .blockSequence then
        buildItems handles [] (building.pass.count 1) steps
      else if inBlock && token = some .blockMapping then
        buildEntries handles [] (building.pass.count 1) steps
      else if hasProperties then some (building.addMissing tag)
      else none

/-- Build the items of a sequence in block form, given those before in reverse. -/
def buildItems (handles : Handles) (items : List Node) (building : Building) :
    Nat → Option (Node × Building)
  | 0 => none
  | steps + 1 =>
    match building.tokens with
    | .item :: rest => do
      let building := building.pass
      let (item, building) ←
        if rest.head? = some .item || rest.head? = some .blockEnd then
          some (building.addMissing none)
        else buildNode handles true false building steps
      buildItems handles (item :: items) building steps
    | .blockEnd :: _ => some (.sequence items.reverse, building.pass.count 1)
    | _ => none

/-- Build the items of a sequence that is not indented, given those before in reverse. -/
def buildFlatItems (handles : Handles) (items : List Node) (building : Building) :
    Nat → Option (Node × Building)
  | 0 => none
  | steps + 1 =>
    match building.tokens with
    | .item :: rest => do
      let building := building.pass
      let (item, building) ←
        if rest.head? = some .item || Token.endsBlockNode rest.head? then
          some (building.addMissing none)
        else buildNode handles true false building steps
      buildFlatItems handles (item :: items) building steps
    | _ => some (.sequence items.reverse, building.count 1)

/-- Build the entries of a mapping in block form, given those before in reverse. -/
def buildEntries (handles : Handles) (entries : List (Node × Node)) (building : Building) :
    Nat → Option (Node × Building)
  | 0 => none
  | steps + 1 =>
    match building.tokens with
    | .key :: _ => do
      let (key, building) ← buildBlockPart handles building.pass steps
      let (value, building) ←
        if building.tokens.head? = some .value then buildBlockPart handles building.pass steps
        else some (building.addMissing none)
      buildEntries handles ((key, value) :: entries) building steps
    | .blockEnd :: _ => some (.mapping entries.reverse, building.pass.count 1)
    | _ => none

/-- Build a key or a value of a mapping in block form. -/
def buildBlockPart (handles : Handles) (building : Building) : Nat → Option (Node × Building)
  | 0 => none
  | steps + 1 =>
    if Token.endsBlockNode building.tokens.head? then some (building.addMissing none)
    else buildNode handles true true building steps

/-- Build the items of a sequence in flow form, given those before in reverse. An item that begins
with a key is a mapping with one entry. -/
def buildFlowItems (handles : Handles) (items : List Node) (building : Building) :
    Nat → Option (Node × Building)
  | 0 => none
  | steps + 1 =>
    let close := fun (building : Building) =>
      some (Node.sequence items.reverse, building.pass.count 1)
    if building.tokens.head? = some .flowSequenceEnd then close building
    else do
      let building ←
        if items.isEmpty then some building
        else if building.tokens.head? = some .comma then some building.pass
        else none
      if building.tokens.head? = some .flowSequenceEnd then close building
      else
        let (item, building) ←
          if building.tokens.head? = some .key then
            buildPair handles (building.pass.count 1) steps
          else buildNode handles false false building steps
        buildFlowItems handles (item :: items) building steps

/-- Build a mapping with one entry, after the beginning of its key. A key that is left out takes the
token after it with it. -/
def buildPair (handles : Handles) (building : Building) : Nat → Option (Node × Building)
  | 0 => none
  | steps + 1 => do
    let (key, building) ←
      if building.tokens.head? = some .value || Token.endsFlowItem building.tokens.head? then
        some (building.pass.addMissing none)
      else buildNode handles false false building steps
    let (value, building) ←
      if building.tokens.head? = some .value && !Token.endsFlowItem building.pass.tokens.head? then
        buildNode handles false false building.pass steps
      else if building.tokens.head? = some .value then some (building.pass.addMissing none)
      else some (building.addMissing none)
    some (.mapping [(key, value)], building.count 1)

/-- Build the entries of a mapping in flow form, given those before in reverse. -/
def buildFlowEntries (handles : Handles) (entries : List (Node × Node)) (building : Building) :
    Nat → Option (Node × Building)
  | 0 => none
  | steps + 1 =>
    let close := fun (building : Building) =>
      some (Node.mapping entries.reverse, building.pass.count 1)
    if building.tokens.head? = some .flowMappingEnd then close building
    else do
      let building ←
        if entries.isEmpty then some building
        else if building.tokens.head? = some .comma then some building.pass
        else none
      if building.tokens.head? = some .flowMappingEnd then close building
      else
        let (entry, building) ←
          if building.tokens.head? = some .key then
            buildFlowEntry handles building.pass steps
          else do
            let (key, building) ← buildNode handles false false building steps
            let (value, building) := building.addMissing none
            some ((key, value), building)
        buildFlowEntries handles (entry :: entries) building steps

/-- Build an entry of a mapping in flow form, after the beginning of its key. -/
def buildFlowEntry (handles : Handles) (building : Building) :
    Nat → Option ((Node × Node) × Building)
  | 0 => none
  | steps + 1 => do
    let (key, building) ←
      if building.tokens.head? = some .value || Token.endsFlowValue building.tokens.head? then
        some (building.addMissing none)
      else buildNode handles false false building steps
    let (value, building) ←
      if building.tokens.head? = some .value && !Token.endsFlowValue building.pass.tokens.head? then
        buildNode handles false false building.pass steps
      else if building.tokens.head? = some .value then some (building.pass.addMissing none)
      else some (building.addMissing none)
    some ((key, value), building)

end

end OriginServer.Yaml
