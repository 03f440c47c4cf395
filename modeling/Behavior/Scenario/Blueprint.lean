import Behavior.Node.Build
import Behavior.Scenario.Script
import Behavior.Tree.Settings

namespace Behavior.Scenario

/-- The composites whose construction never fails. -/
inductive Row where
  | selector
  | sequence
  | reactiveSelector
  | reactiveSequence

inductive Gate where
  | guard
  | whileTrue
  | reactiveGuard

inductive Wrapper where
  | invert
  | forceSuccess
  | forceFailure
  | repeating (times : Nat)
  | retrying (times : Nat)

inductive Timer where
  | timeout
  | cooldown

/-- A blueprint may ask for a construction that panics instead of returning its error. A label
and further children are given to a node once it is built. Each member of a list comes with the
number of its copies, which are built separately. -/
inductive Blueprint where
  | condition (plan : PredicatePlan)
  | action (plan : ActionPlan)
  | asyncAction (plan : StarterPlan)
  | row (kind : Row) (members : List (Nat × Blueprint))
  | parallel (panics : Bool) (policy : Policy) (members : List (Nat × Blueprint))
  | gate (kind : Gate) (plan : PredicatePlan) (child : Blueprint)
  | ifElse (plan : PredicatePlan) (switch : BranchSwitch) (yes : Blueprint) (no : Option Blueprint)
  | wrapper (kind : Wrapper) (child : Blueprint)
  | timer (kind : Timer) (panics : Bool) (seconds : Float32) (child : Blueprint)
  | labelled (label : String) (blueprint : Blueprint)
  | extended (blueprint : Blueprint) (additions : List (Nat × Blueprint))

/-- A refusal tells why nothing was built, and whether the construction panicked. -/
inductive Refusal where
  | build (panics : Bool) (error : BuildError)
  | settings (panics : Bool) (error : SettingsError)

def Refusal.panics : Refusal → Bool
  | build panics _ => panics
  | settings panics _ => panics

def Refusal.message : Refusal → String
  | build _ error => error.message
  | settings _ error => error.message

/-- A building adds a counter to the blackboard for each leaf. -/
abbrev Building := StateT Blackboard (Except Refusal)

namespace Blueprint

def place {Plan : Type} (plan : Plan) : Building (Scripted Plan) := fun board =>
  let (slot, board) := board.newCounter 0
  .ok (⟨plan, slot⟩, board)

def accept (panics : Bool) (built : Except BuildError (Node scripted)) : Building (Node scripted) :=
  fun board =>
    match built with
    | .ok node => .ok (node, board)
    | .error error => .error (.build panics error)

def ofRow : Row → List (Node scripted) → Node scripted
  | .selector => Node.selector
  | .sequence => Node.sequence
  | .reactiveSelector => Node.reactiveSelector
  | .reactiveSequence => Node.reactiveSequence

def ofGate (predicate : Scripted PredicatePlan) : Gate → Node scripted → Node scripted
  | .guard => Node.guard (A := scripted) predicate
  | .whileTrue => Node.whileTrue (A := scripted) predicate
  | .reactiveGuard => Node.reactiveGuard (A := scripted) predicate

def ofWrapper : Wrapper → Node scripted → Node scripted
  | .invert => Node.invert
  | .forceSuccess => Node.forceSuccess
  | .forceFailure => Node.forceFailure
  | .repeating times => Node.repeating times
  | .retrying times => Node.retrying times

def ofTimer (seconds : Float32) : Timer → Node scripted → Except BuildError (Node scripted)
  | .timeout => Node.timeout seconds
  | .cooldown => Node.cooldown seconds

def copies (build : Building (Node scripted)) : Nat → Building (List (Node scripted))
  | 0 => pure []
  | count + 1 => do
      let node ← build
      let others ← copies build count
      pure (node :: others)

mutual

/-- Children are built before their parent, from left to right, and all additions before the
first of them is added. -/
def build : Blueprint → Building (Node scripted)
  | .condition plan => do
      let predicate ← place plan
      pure (Node.condition (A := scripted) predicate)
  | .action plan => do
      let deed ← place plan
      pure (Node.action (A := scripted) deed)
  | .asyncAction plan => do
      let starter ← place plan
      pure (Node.asyncAction (A := scripted) starter)
  | .row kind members => do
      let nodes ← buildList members
      pure (ofRow kind nodes)
  | .parallel panics policy members => do
      let nodes ← buildList members
      accept panics (Node.parallel policy nodes)
  | .gate kind plan child => do
      let node ← build child
      let predicate ← place plan
      pure (ofGate predicate kind node)
  | .ifElse plan switch yes no => do
      let yesNode ← build yes
      let noNode ← buildOption no
      let predicate ← place plan
      pure (Node.ifElse (A := scripted) predicate switch yesNode noNode)
  | .wrapper kind child => do
      let node ← build child
      pure (ofWrapper kind node)
  | .timer kind panics seconds child => do
      let node ← build child
      accept panics (ofTimer seconds kind node)
  | .labelled label blueprint => do
      let node ← build blueprint
      pure (node.withLabel label)
  | .extended blueprint additions => do
      let node ← build blueprint
      let nodes ← buildList additions
      nodes.foldlM (fun node child => accept false (node.addChild child)) node

def buildOption : Option Blueprint → Building (Option (Node scripted))
  | some blueprint => do
      let node ← build blueprint
      pure (some node)
  | none => pure none

def buildList : List (Nat × Blueprint) → Building (List (Node scripted))
  | [] => pure []
  | (count, blueprint) :: rest => do
      let nodes ← copies (build blueprint) count
      let others ← buildList rest
      pure (nodes ++ others)

end

end Blueprint

end Behavior.Scenario
