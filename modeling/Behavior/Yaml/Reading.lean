import Behavior.Yaml.Token

namespace Behavior.Yaml

/-- An anchored node is known by name; within itself it has no target yet. -/
structure Anchor where
  name : String
  number : Nat
  node : Option Node

/-- A reading is a node, the tokens behind it and the anchors known there. -/
structure Reading (Value : Type) where
  value : Value
  tokens : List Token
  anchors : List Anchor

namespace Reading

/-- The anchor of a node and its tag stand in front of it, in either order. -/
def properties : List Token → Option String × Option TypeTag × List Token
  | .anchor name :: .tag tag :: rest => (some name, some tag, rest)
  | .tag tag :: .anchor name :: rest => (some name, some tag, rest)
  | .anchor name :: rest => (some name, none, rest)
  | .tag tag :: rest => (none, some tag, rest)
  | tokens => (none, none, tokens)

def register (anchors : List Anchor) : Option String → List Anchor
  | some name => ⟨name, anchors.length, none⟩ :: anchors
  | none => anchors

def complete (number : Nat) (named : Option String) (node : Node) (anchors : List Anchor) :
    List Anchor :=
  if named.isSome then
    anchors.map fun anchor =>
      if anchor.number = number then { anchor with node := some node } else anchor
  else anchors

/-- An absent node reads as null. -/
def absent (tokens : List Token) (anchors : List Anchor) : Reading Node := ⟨.null, tokens, anchors⟩

def isOneOf (ends : List Token) (tokens : List Token) : Bool :=
  ends.contains (tokens.headD .streamEnd)

mutual

/-- A node is a reference, a scalar or a collection. Block collections are read only outside of
brackets, and entries without indentation only as the value of a key. -/
def node (block entries : Bool) :
    Nat → List Token → List Anchor → Option (Reading Node)
  | 0, _, _ => none
  | _ + 1, .reference name :: rest, anchors =>
      match anchors.find? fun anchor => anchor.name == name with
      | some anchor => some ⟨.reference anchor.node, rest, anchors⟩
      | none => none
  | fuel + 1, tokens, anchors => do
      let (named, tag, tokens) := properties tokens
      let reading ← content block entries tag named.isSome fuel tokens (register anchors named)
      some { reading with anchors := complete anchors.length named reading.value reading.anchors }

def content (block entries : Bool) (tag : Option TypeTag) (anchored : Bool) :
    Nat → List Token → List Anchor → Option (Reading Node)
  | 0, _, _ => none
  | _ + 1, .scalar style text :: rest, anchors => some ⟨.scalar style tag text, rest, anchors⟩
  | fuel + 1, .flowSequenceStart :: rest, anchors => do
      let reading ← flowItems true fuel rest anchors
      some { reading with value := .sequence reading.value }
  | fuel + 1, .flowMappingStart :: rest, anchors => do
      let reading ← flowEntries true fuel rest anchors
      some { reading with value := .mapping reading.value }
  | fuel + 1, token :: rest, anchors =>
      if entries && token = .blockEntry then do
        let reading ← looseItems fuel (token :: rest) anchors
        some { reading with value := .sequence reading.value }
      else if block && token = .blockSequenceStart then do
        let reading ← blockItems fuel rest anchors
        some { reading with value := .sequence reading.value }
      else if block && token = .blockMappingStart then do
        let reading ← blockEntries fuel rest anchors
        some { reading with value := .mapping reading.value }
      else if tag.isSome || anchored then
        some ⟨.scalar .plain tag "", token :: rest, anchors⟩
      else none
  | _ + 1, [], _ => none

/-- A node that may be absent is so in front of one of the ends. -/
def optional (block entries : Bool) (ends : List Token) :
    Nat → List Token → List Anchor → Option (Reading Node)
  | 0, _, _ => none
  | fuel + 1, tokens, anchors =>
      if isOneOf ends tokens then some (absent tokens anchors)
      else node block entries fuel tokens anchors

def blockItems : Nat → List Token → List Anchor → Option (Reading (List Node))
  | fuel + 1, .blockEntry :: rest, anchors => do
      let item ← optional true false [.blockEntry, .blockEnd] fuel rest anchors
      let items ← blockItems fuel item.tokens item.anchors
      some { items with value := item.value :: items.value }
  | _ + 1, .blockEnd :: rest, anchors => some ⟨[], rest, anchors⟩
  | _, _, _ => none

def looseItems : Nat → List Token → List Anchor → Option (Reading (List Node))
  | fuel + 1, .blockEntry :: rest, anchors => do
      let item ← optional true false [.blockEntry, .key, .value, .blockEnd] fuel rest anchors
      let items ← looseItems fuel item.tokens item.anchors
      some { items with value := item.value :: items.value }
  | _ + 1, tokens, anchors => some ⟨[], tokens, anchors⟩
  | 0, _, _ => none

/-- A key or a value of a block mapping may be absent. -/
def blockEntries : Nat → List Token → List Anchor → Option (Reading (List (Node × Node)))
  | fuel + 1, .key :: rest, anchors => do
      let key ← optional true true [.key, .value, .blockEnd] fuel rest anchors
      blockValue key.value fuel key.tokens key.anchors
  | fuel + 1, .value :: rest, anchors => blockValue .null fuel (.value :: rest) anchors
  | _ + 1, .blockEnd :: rest, anchors => some ⟨[], rest, anchors⟩
  | _, _, _ => none

def blockValue (key : Node) : Nat → List Token → List Anchor → Option (Reading (List (Node × Node)))
  | fuel + 1, .value :: rest, anchors => do
      let value ← optional true true [.key, .value, .blockEnd] fuel rest anchors
      let entries ← blockEntries fuel value.tokens value.anchors
      some { entries with value := (key, value.value) :: entries.value }
  | fuel + 1, tokens, anchors => do
      let entries ← blockEntries fuel tokens anchors
      some { entries with value := (key, .null) :: entries.value }
  | 0, _, _ => none

/-- Items within brackets are separated by commas, and a last comma may stand alone. -/
def flowItems (isFirst : Bool) : Nat → List Token → List Anchor → Option (Reading (List Node))
  | _ + 1, .flowSequenceEnd :: rest, anchors => some ⟨[], rest, anchors⟩
  | fuel + 1, tokens, anchors =>
      match isFirst, tokens with
      | false, .flowEntry :: rest => flowItem fuel rest anchors
      | false, _ => none
      | true, _ => flowItem fuel tokens anchors
  | 0, _, _ => none

/-- A key within a sequence makes a mapping of one entry. -/
def flowItem : Nat → List Token → List Anchor → Option (Reading (List Node))
  | _ + 1, .flowSequenceEnd :: rest, anchors => some ⟨[], rest, anchors⟩
  | fuel + 1, .key :: rest, anchors => do
      let key ←
        if isOneOf [.value, .flowEntry, .flowSequenceEnd] rest then
          some (absent (rest.drop 1) anchors)
        else node false false fuel rest anchors
      let value ← flowPairValue fuel key.tokens key.anchors
      let items ← flowItems false fuel value.tokens value.anchors
      some { items with value := .mapping [(key.value, value.value)] :: items.value }
  | fuel + 1, tokens, anchors => do
      let item ← node false false fuel tokens anchors
      let items ← flowItems false fuel item.tokens item.anchors
      some { items with value := item.value :: items.value }
  | 0, _, _ => none

def flowPairValue : Nat → List Token → List Anchor → Option (Reading Node)
  | fuel + 1, .value :: rest, anchors =>
      optional false false [.flowEntry, .flowSequenceEnd] fuel rest anchors
  | _ + 1, tokens, anchors => some (absent tokens anchors)
  | 0, _, _ => none

def flowEntries (isFirst : Bool) :
    Nat → List Token → List Anchor → Option (Reading (List (Node × Node)))
  | _ + 1, .flowMappingEnd :: rest, anchors => some ⟨[], rest, anchors⟩
  | fuel + 1, tokens, anchors =>
      match isFirst, tokens with
      | false, .flowEntry :: rest => flowEntry fuel rest anchors
      | false, _ => none
      | true, _ => flowEntry fuel tokens anchors
  | 0, _, _ => none

/-- A node without a key mark is a key without a value. -/
def flowEntry : Nat → List Token → List Anchor → Option (Reading (List (Node × Node)))
  | _ + 1, .flowMappingEnd :: rest, anchors => some ⟨[], rest, anchors⟩
  | fuel + 1, .key :: rest, anchors => do
      let key ← optional false false [.value, .flowEntry, .flowMappingEnd] fuel rest anchors
      flowValue key.value fuel key.tokens key.anchors
  | fuel + 1, .value :: rest, anchors => flowValue .null fuel (.value :: rest) anchors
  | fuel + 1, tokens, anchors => do
      let key ← node false false fuel tokens anchors
      let entries ← flowEntries false fuel key.tokens key.anchors
      some { entries with value := (key.value, .null) :: entries.value }
  | 0, _, _ => none

def flowValue (key : Node) : Nat → List Token → List Anchor → Option (Reading (List (Node × Node)))
  | fuel + 1, .value :: rest, anchors => do
      let value ← optional false false [.flowEntry, .flowMappingEnd] fuel rest anchors
      let entries ← flowEntries false fuel value.tokens value.anchors
      some { entries with value := (key, value.value) :: entries.value }
  | fuel + 1, tokens, anchors => do
      let entries ← flowEntries false fuel tokens anchors
      some { entries with value := (key, .null) :: entries.value }
  | 0, _, _ => none

end

def isDirective (token : Token) : Bool := token == .directive

def fuel (tokens : List Token) : Nat := 4 * tokens.length + 4

/-- An explicit document starts with its mark, which stands behind its directives. -/
def explicitDocument (tokens : List Token) : Option (Reading Node) :=
  match tokens.dropWhile isDirective with
  | .documentStart :: rest =>
      optional true false [.directive, .documentStart, .documentEnd, .streamEnd] (fuel rest) rest []
  | _ => none

/-- The first document may leave out its mark where no directive stands. -/
def firstDocument (tokens : List Token) : Option (Reading Node) :=
  if isOneOf [.directive, .documentStart] tokens then explicitDocument tokens
  else node true false (fuel tokens) tokens []

/-- The end of a document may be marked any number of times. -/
def laterDocuments : Nat → List Token → Option (List Node)
  | 0, _ => none
  | limit + 1, tokens =>
      let tokens := tokens.dropWhile (· == .documentEnd)
      if isOneOf [.streamEnd] tokens then some []
      else do
        let reading ← explicitDocument tokens
        let others ← laterDocuments limit reading.tokens
        some (reading.value :: others)

end Reading

/-- The documents of a text are readable only together. -/
def documents? (text : String) : Option (List Node) := do
  let tokens ← tokens? text
  if Reading.isOneOf [.streamEnd] tokens then some []
  else
    let reading ← Reading.firstDocument tokens
    let others ← Reading.laterDocuments tokens.length reading.tokens
    some (reading.value :: others)

end Behavior.Yaml
