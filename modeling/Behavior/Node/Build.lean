import Behavior.Decimal.Style
import Behavior.Node.Basic

namespace Behavior

/-- A build error tells what is wrong with a node under construction. -/
inductive BuildError where
  | invalidDuration (kind : Kind) (seconds : Float32)
  | invalidPolicy (policy : Policy) (children : Nat)
  | tooManyNodes (kind : Kind)

def BuildError.message : BuildError → String
  | invalidDuration kind seconds =>
      kind.name ++ " requires a finite, non-negative duration, got " ++
        Decimal.Style.plain.write seconds
  | invalidPolicy policy children =>
      "Parallel policy " ++ policy.text ++ " cannot be satisfied by " ++ toString children ++
        " children"
  | tooManyNodes kind => "Attempted to add too many nodes to " ++ kind.name

/-- A duration is finite and not negative. -/
def IsDuration (seconds : Float32) : Prop := seconds.isFinite = true ∧ 0 ≤ seconds

instance (seconds : Float32) : Decidable (IsDuration seconds) :=
  inferInstanceAs (Decidable (_ ∧ _))

namespace Node

variable {A : Agent}

/-- A new node has the number zero, no label and no last status. -/
def ofBody (body : Body A (Node A)) : Node A := ⟨⟨⟨0⟩, none, none⟩, body⟩

def withLabel (node : Node A) (label : String) : Node A :=
  { node with tag := { node.tag with label := some label } }

def condition (predicate : A.Predicate) : Node A := ofBody (.leaf (.condition predicate))

def action (action : A.Action) : Node A := ofBody (.leaf (.action action))

def asyncAction (starter : A.Starter) : Node A := ofBody (.leaf (.asyncAction starter none))

def selector (children : List (Node A)) : Node A := ofBody (.composite (.selector none) children)

def sequence (children : List (Node A)) : Node A := ofBody (.composite (.sequence none) children)

def reactiveSelector (children : List (Node A)) : Node A :=
  ofBody (.composite (.reactiveSelector .empty) children)

def reactiveSequence (children : List (Node A)) : Node A :=
  ofBody (.composite (.reactiveSequence none) children)

/-- A quorum of none, or of more children than there are, is refused. -/
def parallel (policy : Policy) (children : List (Node A)) : Except BuildError (Node A) :=
  if policy.Satisfiable children.length then
    .ok (ofBody (.composite (.parallel policy []) children))
  else .error (.invalidPolicy policy children.length)

def guard (predicate : A.Predicate) (child : Node A) : Node A :=
  ofBody (.decorator (.guard predicate) child)

def ifElse (predicate : A.Predicate) (switch : BranchSwitch) (yes : Node A) (no : Option (Node A)) :
    Node A :=
  ofBody (.choice ⟨predicate, switch, none⟩ yes no)

def invert (child : Node A) : Node A := ofBody (.decorator .invert child)

def forceSuccess (child : Node A) : Node A := ofBody (.decorator .forceSuccess child)

def forceFailure (child : Node A) : Node A := ofBody (.decorator .forceFailure child)

def repeating (times : Nat) (child : Node A) : Node A :=
  ofBody (.decorator (.repeating times 0) child)

def retrying (times : Nat) (child : Node A) : Node A :=
  ofBody (.decorator (.retrying times 0) child)

def timeout (seconds : Float32) (child : Node A) : Except BuildError (Node A) :=
  if IsDuration seconds then .ok (ofBody (.decorator (.timeout seconds 0) child))
  else .error (.invalidDuration .timeout seconds)

def cooldown (seconds : Float32) (child : Node A) : Except BuildError (Node A) :=
  if IsDuration seconds then .ok (ofBody (.decorator (.cooldown seconds 0) child))
  else .error (.invalidDuration .cooldown seconds)

def whileTrue (predicate : A.Predicate) (child : Node A) : Node A :=
  ofBody (.decorator (.whileTrue predicate) child)

def reactiveGuard (predicate : A.Predicate) (child : Node A) : Node A :=
  ofBody (.decorator (.reactiveGuard predicate) child)

/-- Only a composite takes more children. They never make a quorum harder to reach. -/
def addChild (node child : Node A) : Except BuildError (Node A) :=
  match node.body with
  | .composite own children => .ok { node with body := .composite own (children ++ [child]) }
  | _ => .error (.tooManyNodes node.kind)

end Node

end Behavior
