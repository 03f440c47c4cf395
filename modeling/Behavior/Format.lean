namespace Behavior

/-- Data that values are written as, whatever text a format makes of them. -/
inductive Datum where
  | null
  | integer (value : UInt32)
  | string (text : String)
  | sequence (items : List Datum)
  | mapping (entries : List (String × Datum))

/-- A document may nest this many collections. -/
def nestingLimit : Nat := 128

/-- A document may not fit a type. A mapping without entries fails in its own way to name a variant. -/
inductive DecodingError where
  | mismatch
  | missingVariant
  deriving DecidableEq, Repr

/-- A missing variant is no error that is returned, but a panic with this text. -/
def DecodingError.panic? : DecodingError → Option String
  | mismatch => none
  | missingVariant => some "unexpected end of mapping"

abbrev Decoder := Except DecodingError

namespace Decoder

def mismatch {Item : Type} : Decoder Item := throw .mismatch

def ofOption {Item : Type} : Option Item → Decoder Item
  | some item => pure item
  | none => mismatch

end Decoder

/-- A record gives its fields by name, or in order without their names. -/
inductive Content (Document : Type) where
  | named (entries : List (Document × Document))
  | ordered (items : List Document)

/-- A format writes data as a text and reads documents from one. What a document holds depends on
the type that it is asked for. A format carries no law of its own. -/
structure Format where
  Document : Type
  write : Datum → String
  documents? : String → Option (List Document)
  word32 : Document → Decoder UInt32
  text : Document → Decoder String
  variant : List String → Document → Decoder String
  isAbsent : Document → Decoder Bool
  items : Document → Decoder (List Document)
  content : Document → Decoder (Content Document)

namespace Format

variable (format : Format)

def option {Item : Type} (decode : format.Document → Decoder Item) (document : format.Document) :
    Decoder (Option Item) := do
  if ← format.isAbsent document then pure none
  else
    let item ← decode document
    pure (some item)

def list {Item : Type} (decode : format.Document → Decoder Item) (document : format.Document) :
    Decoder (List Item) := do
  let items ← format.items document
  items.mapM decode

/-- A field adds what its document holds to the parts of a record that are known. -/
structure Field (Parts : Type) where
  name : String
  decode : Parts → format.Document → Decoder Parts

variable {format} {Parts : Type}

/-- Entries are decoded in their order. A known name may stand only once, and an unknown one is
passed over. -/
def entries (fields : List (format.Field Parts)) (seen : List String) (parts : Parts) :
    List (format.Document × format.Document) → Decoder Parts
  | [] => pure parts
  | (key, document) :: rest => do
      let name ← format.text key
      match fields.find? fun field => field.name == name with
      | some field =>
          if seen.contains name then Decoder.mismatch
          else
            let parts ← field.decode parts document
            entries fields (name :: seen) parts rest
      | none => entries fields seen parts rest

/-- Without names the first items are the first fields. -/
def inOrder (parts : Parts) : List (format.Field Parts) → List format.Document → Decoder Parts
  | _, [] => pure parts
  | [], _ :: _ => Decoder.mismatch
  | field :: fields, document :: rest => do
      let parts ← field.decode parts document
      inOrder parts fields rest

/-- What is absent from a record is taken from the parts that such a record starts with. -/
def record (fields : List (format.Field Parts)) (named ordered : Parts)
    (document : format.Document) : Decoder Parts := do
  match ← format.content document with
  | .named content => entries fields [] named content
  | .ordered content => inOrder ordered fields content

variable (format)

/-- A text holds one document, which is decoded before a second one is refused. -/
def read {Item : Type} (decode : format.Document → Decoder Item) (text : String) : Decoder Item :=
  match format.documents? text with
  | some (first :: others) => do
      let item ← decode first
      if others.isEmpty then pure item else throw .mismatch
  | _ => throw .mismatch

end Format

end Behavior
