import Behavior.Tree.Settings
import Behavior.Yaml.Decoder

namespace Behavior

namespace Settings

def toNode (settings : Settings) : Yaml.Node :=
  .mapping [
    (.plain "name", .ofText settings.name),
    (.plain "reset_on_complete", .plain (toString settings.resetOnComplete)),
    (.plain "max_delta_time",
      match settings.maxDeltaTime with
      | some seconds => .plain (Decimal.Style.document.write seconds)
      | none => .null),
    (.plain "trace_ticks", .plain (toString settings.traceTicks))]

def fields : List (Yaml.format.Field Settings) := [
  ⟨"name", fun settings node => do
    let name ← Yaml.Decoder.text node
    pure { settings with name }⟩,
  ⟨"reset_on_complete", fun settings node => do
    let resetOnComplete ← Yaml.Decoder.bool node
    pure { settings with resetOnComplete }⟩,
  ⟨"max_delta_time", fun settings node => do
    let maxDeltaTime ← Yaml.format.option Yaml.Decoder.single node
    pure { settings with maxDeltaTime }⟩,
  ⟨"trace_ticks", fun settings node => do
    let traceTicks ← Yaml.Decoder.bool node
    pure { settings with traceTicks }⟩]

/-- A field that is absent keeps its standard value. -/
def decode (node : Yaml.Node) : Decoder Settings := Format.record fields standard standard node

def toYaml (settings : Settings) : String := Yaml.write settings.toNode

/-- Settings that are read are also validated. -/
def ofYaml (text : String) : Except SettingsError Settings :=
  match Yaml.format.read decode text with
  | .ok settings => settings.validate.map fun _ => settings
  | .error _ => .error .unreadable

end Settings

end Behavior
