import Behavior.Format
import Behavior.Yaml.Reading
import Behavior.Yaml.Writing

namespace Behavior

mutual

/-- Names and texts are quoted where they would read as something else. -/
def Datum.toNode : Datum → Yaml.Node
  | .null => .null
  | .integer value => .plain (toString value.toNat)
  | .string text => .ofText text
  | .sequence items => .sequence (Datum.toNodes items)
  | .mapping entries => .mapping (Datum.toEntries entries)

def Datum.toNodes : List Datum → List Yaml.Node
  | [] => []
  | item :: rest => item.toNode :: Datum.toNodes rest

def Datum.toEntries : List (String × Datum) → List (Yaml.Node × Yaml.Node)
  | [] => []
  | (name, value) :: rest => (.ofText name, value.toNode) :: Datum.toEntries rest

end

namespace Yaml

namespace Decoder

/-- What a node stands for is no reference itself. A reference may be followed any number of times,
but one within its own target stands for nothing. -/
def resolve : Node → Decoder Node
  | .reference target => Decoder.ofOption target
  | node => pure node

/-- A text is taken from a scalar of any style and type. -/
def text (node : Node) : Decoder String := do
  match ← resolve node with
  | .scalar _ _ text => pure text
  | _ => Decoder.mismatch

def value (node : Node) : Decoder Value := do
  match ← resolve node with
  | .scalar style tag text => Decoder.ofOption (Value.ofScalar style tag text)
  | _ => Decoder.mismatch

def bool (node : Node) : Decoder Bool := do
  match ← value node with
  | .boolean value => pure value
  | _ => Decoder.mismatch

/-- A natural number has to be below the bound. -/
def nat (bound : Nat) (node : Node) : Decoder Nat := do
  match ← value node with
  | .integer value =>
      if 0 ≤ value ∧ value.toNat < bound then pure value.toNat else Decoder.mismatch
  | _ => Decoder.mismatch

def word32 (node : Node) : Decoder UInt32 := do
  let value ← nat UInt32.size node
  pure value.toUInt32

/-- An integer is rounded once; a number is rounded to double precision first. -/
def single (node : Node) : Decoder Float32 := do
  match ← value node with
  | .integer value =>
      let magnitude := value.natAbs.toUInt64.toFloat32
      pure (if value < 0 then -magnitude else magnitude)
  | .number value => pure value.toFloat32
  | _ => Decoder.mismatch

def null (node : Node) : Decoder Unit := do
  match ← value node with
  | .null => pure ()
  | _ => Decoder.mismatch

/-- Only an untyped scalar, or one that is typed as null, stands for an absent value. -/
def isAbsent (node : Node) : Decoder Bool := do
  match ← resolve node with
  | .scalar .plain none text => pure (text = "~" || text = "null")
  | .scalar .plain (some tag) text =>
      if tag = ⟨"!!", "null"⟩ then
        if text = "~" || text = "null" then pure true else Decoder.mismatch
      else pure false
  | _ => pure false

def items (node : Node) : Decoder (List Node) := do
  match ← resolve node with
  | .sequence items => pure items
  | _ => Decoder.mismatch

def content (node : Node) : Decoder (Content Node) := do
  match ← resolve node with
  | .mapping entries => pure (.named entries)
  | .sequence items => pure (.ordered items)
  | _ => Decoder.mismatch

/-- A variant is named by a scalar, or by the only key of a mapping that holds its content. A
tag of one exclamation mark that names a variant leaves a scalar without one. -/
def variant (names : List String) (node : Node) : Decoder (String × Option Node) := do
  match ← resolve node with
  | .scalar _ tag text =>
      if names.any fun name => tag == some ⟨"!", name⟩ then Decoder.mismatch
      else if names.contains text then pure (text, none)
      else Decoder.mismatch
  | .mapping [] => throw .missingVariant
  | .mapping [(.scalar _ _ name, content)] =>
      if names.contains name then pure (name, some content) else Decoder.mismatch
  | _ => Decoder.mismatch

/-- A variant without content may hold null. -/
def unit : Option Node → Decoder Unit
  | some content => null content
  | none => pure ()

def unitVariant (names : List String) (node : Node) : Decoder String := do
  let (name, content) ← variant names node
  unit content
  pure name

end Decoder

/-- The format in which texts are written and read. -/
abbrev format : Format where
  Document := Node
  write datum := write datum.toNode
  documents? := documents?
  word32 := Decoder.word32
  text := Decoder.text
  variant := Decoder.unitVariant
  isAbsent := Decoder.isAbsent
  items := Decoder.items
  content := Decoder.content

end Yaml

end Behavior
