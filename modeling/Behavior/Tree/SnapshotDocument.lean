import Behavior.Tree.Snapshot
import Behavior.Yaml.Decoder

namespace Behavior

namespace Status

def toDatum (status : Status) : Datum := .string status.name

def names : List String := ["Success", "Failure", "Running"]

def ofName? (name : String) : Option Status :=
  [success, failure, running].find? fun status => status.name == name

def decode (format : Format) (document : format.Document) : Decoder Status := do
  let name ← format.variant names document
  Decoder.ofOption (ofName? name)

end Status

namespace Policy

/-- A quorum is a mapping with its count. -/
def toNode : Policy → Yaml.Node
  | any => .plain "Any"
  | all => .plain "All"
  | quorum count => .mapping [(.plain "N", .plain (toString count))]

def decode (node : Yaml.Node) : Decoder Policy := do
  let (name, content) ← Yaml.Decoder.variant ["Any", "All", "N"] node
  if name = "N" then
    let content ← Decoder.ofOption content
    let count ← Yaml.Decoder.nat UInt64.size content
    pure (quorum count)
  else
    Yaml.Decoder.unit content
    pure (if name = "Any" then any else all)

end Policy

namespace NodeId

def toDatum (id : NodeId) : Datum := .integer id.value

def decode (format : Format) (document : format.Document) : Decoder NodeId := do
  let value ← format.word32 document
  pure ⟨value⟩

end NodeId

namespace Snapshot

mutual

/-- A missing label and an empty list of children are left out. -/
def toDatum : Snapshot → Datum
  | ⟨id, kind, label, last, children⟩ =>
      .mapping
        ([("id", id.toDatum), ("kind", .string kind)] ++
          (label.map fun label => ("label", Datum.string label)).toList ++
          [("last_status", (last.map Status.toDatum).getD .null)] ++
          if children.isEmpty then [] else [("children", .sequence (toData children))])

def toData : List Snapshot → List Datum
  | [] => []
  | snapshot :: rest => snapshot.toDatum :: toData rest

end

/-- A draft is a snapshot whose indispensable fields may be missing. -/
structure Draft where
  id : Option NodeId
  kind : Option String
  label : Option String
  last : Option (Option Status)
  children : List Snapshot

namespace Draft

/-- The last status may be absent only among named fields. -/
def named : Draft := ⟨none, none, none, some none, []⟩

def ordered : Draft := ⟨none, none, none, none, []⟩

def fields (format : Format) (decodeChildren : format.Document → Decoder (List Snapshot)) :
    List (format.Field Draft) := [
  ⟨"id", fun draft document => do
    let id ← NodeId.decode format document
    pure { draft with id := some id }⟩,
  ⟨"kind", fun draft document => do
    let kind ← format.text document
    pure { draft with kind := some kind }⟩,
  ⟨"label", fun draft document => do
    let label ← format.option format.text document
    pure { draft with label }⟩,
  ⟨"last_status", fun draft document => do
    let last ← format.option (Status.decode format) document
    pure { draft with last := some last }⟩,
  ⟨"children", fun draft document => do
    let children ← decodeChildren document
    pure { draft with children }⟩]

def complete? (draft : Draft) : Option Snapshot := do
  let id ← draft.id
  let kind ← draft.kind
  let last ← draft.last
  some ⟨id, kind, draft.label, last, draft.children⟩

end Draft

variable (format : Format)

def decodeRecord (decodeChildren : format.Document → Decoder (List Snapshot))
    (document : format.Document) : Decoder Snapshot := do
  let draft ← Format.record (Draft.fields format decodeChildren) Draft.named Draft.ordered document
  Decoder.ofOption draft.complete?

/-- A record takes one level of nesting, and its list of children another. -/
def decodeWithin : Nat → format.Document → Decoder Snapshot
  | 0, _ => Decoder.mismatch
  | 1, document => decodeRecord format (fun _ => Decoder.mismatch) document
  | depth + 2, document => decodeRecord format (format.list (decodeWithin depth)) document

/-- A snapshot is written as a record in a format. -/
def serialize (snapshot : Snapshot) : String := format.write snapshot.toDatum

/-- A text is read as the snapshot that its only document holds. -/
def deserialize (text : String) : Decoder Snapshot :=
  format.read (decodeWithin format nestingLimit) text

def toYaml (snapshot : Snapshot) : String := serialize Yaml.format snapshot

def ofYaml (text : String) : Decoder Snapshot := deserialize Yaml.format text

end Snapshot

end Behavior
