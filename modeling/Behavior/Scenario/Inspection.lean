import Behavior.Scenario.View
import Behavior.Symbols

namespace Behavior.Scenario

/-- A context is shown without its place, and with the mere presence of its sink. -/
def contextLayout {D : Type} (context : Context D) : Text.Layout :=
  .record "TickContext" [
    ("delta_time", .atom (Decimal.Style.exact.write context.clock.deltaTime)),
    ("frame", .atom (toString context.clock.frame.toNat)),
    ("debug", .atom (toString context.sink.isSome))]

/-- A symbol is inspected by comparing it with all others and with its second use. -/
structure SymbolView where
  text : String
  first : Nat
  sameAgain : Bool
  equalsFirstWord : Bool
  bytes : Nat
  debug : String
  yaml : String
  info : String

def symbolView (words : List String) (symbols : List Symbol) (text : String) (position : Nat)
    (symbol again : Symbol) : SymbolView :=
  { text
    first := symbols.idxOf symbol
    sameAgain := symbol == again
    equalsFirstWord := words.head? == some text
    bytes := text.utf8ByteSize
    debug := Text.quote text
    yaml := Yaml.format.write (.string text)
    info := NodeInfo.text ⟨⟨position.toUInt32⟩, .action, some text⟩ }

def symbolViews (words : List String) (symbols : List Symbol) :
    Nat → List String → List (Symbol × Symbol) → List SymbolView
  | position, text :: texts, (symbol, again) :: rest =>
      symbolView words symbols text position symbol again ::
        symbolViews words symbols (position + 1) texts rest
  | _, _, _ => []

/-- All words are interned twice. The number is the growth of the table in the second round. -/
def inspectSymbols (words : List String) : Nat × List SymbolView :=
  let (symbols, table) := SymbolTable.empty.internAll words
  let (again, grown) := table.internAll words
  (grown.count - table.count, symbolViews words symbols 0 words (symbols.zip again))

inductive DocumentType where
  | status
  | policy
  | nodeId
  | symbol
  | snapshot

inductive DocumentView where
  | value (debug yaml : String)
  | snapshot (debug : String) (view : SnapshotView)

/-- A document is read as a value of the type, and the value is shown and written again. -/
def inspectDocument (type : DocumentType) (text : String) : Decoder DocumentView := do
  match type with
  | .status => do
      let status ← Yaml.format.read (Status.decode Yaml.format) text
      pure (.value status.name (Yaml.format.write status.toDatum))
  | .policy => do
      let policy ← Yaml.format.read Policy.decode text
      pure (.value policy.text (Yaml.write policy.toNode))
  | .nodeId => do
      let id ← Yaml.format.read (NodeId.decode Yaml.format) text
      pure (.value id.layout.flat (Yaml.format.write id.toDatum))
  | .symbol => do
      let symbol ← Yaml.format.read Yaml.format.text text
      pure (.value (Text.quote symbol) (Yaml.format.write (.string symbol)))
  | .snapshot => do
      let snapshot ← Snapshot.ofYaml text
      pure (.snapshot snapshot.layout.flat (.of snapshot))

end Behavior.Scenario
