import Behavior.Decimal.Bits
import Behavior.Tree.SettingsDocument
import Behavior.Tree.SnapshotDocument

namespace Behavior.Scenario

variable {A : Agent}

def fieldText : Record.Field → String
  | .text text => text
  | .seconds seconds => Decimal.bits seconds

/-- A record is shown with its level, its message and its fields. -/
def recordLine (record : Record) : String :=
  " ".intercalate
    (["trace", record.level.name, record.message] ++
      record.fields.map fun field => field.1 ++ "=" ++ fieldText field.2)

def statusText (status : Option Status) : String := (status.map Status.name).getD "-"

def positionText (position : Option Nat) : String := (position.map toString).getD "-"

def leafDetail : Leaf A → String
  | .asyncAction _ pending => " pending=" ++ toString pending.isSome
  | _ => ""

def decoratorDetail : Decorator A → String
  | .repeating _ count => " count=" ++ toString count
  | .retrying _ attempts => " attempts=" ++ toString attempts
  | .timeout limit elapsed =>
      " seconds=" ++ Decimal.bits limit ++ " elapsed=" ++ Decimal.bits elapsed
  | .cooldown period remaining =>
      " seconds=" ++ Decimal.bits period ++ " remaining=" ++ Decimal.bits remaining
  | _ => ""

def compositeDetail (children : Nat) : Composite → String
  | .selector running => " running=" ++ positionText running
  | .sequence running => " running=" ++ positionText running
  | .reactiveSequence running => " running=" ++ positionText running
  | .reactiveSelector running => " running=[" ++ ",".intercalate (running.list.map toString) ++ "]"
  | .parallel policy _ =>
      " policy=" ++ policy.text ++ " threshold=" ++ toString (policy.threshold children)

def bodyDetail {Child : Type} : Body A Child → String
  | .leaf own => leafDetail own
  | .decorator own _ => decoratorDetail own
  | .choice own _ _ => " switch=" ++ own.switch.text
  | .composite own children => compositeDetail children.length own

/-- Each node of the preorder takes one line, with its depth and what it remembers. -/
def stateLines (node : Node A) : List String :=
  node.fold (fun tag body (depth : Nat) =>
    (toString depth ++ " " ++ NodeInfo.text ⟨tag.id, body.kind, tag.label⟩ ++ " " ++
        statusText tag.last ++ bodyDetail body) ::
      body.children.flatMap fun part => part.value (depth + 1)) 0

def labelText (label : Option String) : String :=
  match label with
  | some label => "Some(" ++ Text.quote label ++ ")"
  | none => "None"

def nodeText (node : Node A) : String :=
  node.info.text ++ " id=" ++ toString node.id.value.toNat ++ " kind=" ++ node.kind.name ++
    " label=" ++ labelText node.label ++ " last=" ++ statusText node.last ++ " running=" ++
    toString node.isRunning ++ " children=" ++ toString node.children.length

/-- A comparison with what was written and read again may fail in the reading. -/
inductive Comparison where
  | same (same : Bool)
  | unreadable
  | invalid

structure SnapshotView where
  yaml : String
  nodes : List Snapshot
  again : Comparison

def SnapshotView.of (snapshot : Snapshot) : SnapshotView :=
  let yaml := snapshot.toYaml
  let again := match Snapshot.ofYaml yaml with
    | .ok other => .same (snapshot.same other)
    | .error _ => .unreadable
  ⟨yaml, snapshot.iterate, again⟩

structure SettingsView where
  settings : Settings
  valid : Except SettingsError Unit
  yaml : String
  again : Comparison
  text : String

def SettingsView.of (settings : Settings) : SettingsView :=
  let yaml := settings.toYaml
  let again := match Settings.ofYaml yaml with
    | .ok other => .same (settings.same other)
    | .error .unreadable => .unreadable
    | .error (.invalidMaxDeltaTime _) => .invalid
  ⟨settings, settings.validate, yaml, again, settings.layout.flat⟩

end Behavior.Scenario
