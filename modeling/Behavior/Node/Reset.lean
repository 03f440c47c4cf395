import Behavior.Node.Basic
import Behavior.Sink

namespace Behavior

variable {A : Agent} {D : Type}

/-- The remaining time of a cooldown limits a rate and is no state of a run, so it stays. -/
def Decorator.forget : Decorator A → Decorator A
  | .repeating times _ => .repeating times 0
  | .retrying times _ => .retrying times 0
  | .timeout limit _ => .timeout limit 0
  | own => own

def Choice.forget (choice : Choice A) : Choice A := { choice with active := none }

def Composite.forget : Composite → Composite
  | .selector _ => .selector none
  | .sequence _ => .sequence none
  | .parallel policy _ => .parallel policy []
  | .reactiveSelector _ => .reactiveSelector .empty
  | .reactiveSequence _ => .reactiveSequence none

/-- A tag that had a status is cleared, and the trace tells of it. -/
def Tag.clear (place : Place) (tag : Tag) : Run A D Tag := do
  if tag.last.isSome then Run.enter place .cleared
  pure tag.idle

/-- A pending operation is cancelled and given up. -/
def Leaf.cancel (place : Place) : Leaf A → Run A D (Leaf A)
  | .asyncAction starter (some operation) => do
      Run.call place (A.cancel operation) fun _ => .cancelled operation
      pure (.asyncAction starter none)
  | own => pure own

namespace Body

variable {Child : Type}

/-- A body forgets its own state and leaves its children alone. -/
def forget : Body A Child → Body A Child
  | .leaf own => .leaf own
  | .decorator own child => .decorator own.forget child
  | .choice own yes no => .choice own.forget yes no
  | .composite own children => .composite own.forget children

def cancel (place : Place) : Body A Child → Run A D (Body A Child)
  | .leaf own => return .leaf (← own.cancel place)
  | own => pure own

@[simp] theorem forget_map {Other : Type} (change : Child → Other) (body : Body A Child) :
    (body.map change).forget = body.forget.map change := by
  cases body <;> rfl

@[simp] theorem cancel_map {Other : Type} (change : Child → Other) (body : Body A Child)
    (place : Place) :
    ((body.map change).cancel place : Run A D (Body A Other)) =
      (do pure ((← body.cancel place).map change)) := by
  cases body <;> simp [map, cancel]

end Body

namespace Node

/-- A reset clears the state of the node and of its descendants. -/
def reset : Node A → Place → Run A D (Node A) :=
  fold fun tag body place => do
    let tag ← tag.clear place
    let body ← body.cancel place
    let body ← body.forget.visit fun position part => part.value (position :: place)
    pure ⟨tag, body⟩

/-- A reset clears the tag, cancels what is pending, and then resets the children. -/
theorem reset_eq (tag : Tag) (body : Body A (Node A)) (place : Place) :
    (reset ⟨tag, body⟩ place : Run A D (Node A)) = (do
      let tag ← tag.clear place
      let body ← body.cancel place
      let body ← body.forget.visit fun position child => child.reset (position :: place)
      pure ⟨tag, body⟩) := by
  rw [reset, fold_eq]
  simp [Body.visit_map]

/-- An abort aborts the children first and then resets the whole node. -/
def abort : Node A → Place → Run A D (Node A) :=
  fold fun tag body place => do
    let tag ← tag.clear place
    let body ← body.visit fun position part => part.value (position :: place)
    let body ← body.cancel place
    let body ← body.forget.visit fun position child => child.reset (position :: place)
    pure ⟨tag, body⟩

/-- An abort reaches the children before it cancels and resets. -/
theorem abort_eq (tag : Tag) (body : Body A (Node A)) (place : Place) :
    (abort ⟨tag, body⟩ place : Run A D (Node A)) = (do
      let tag ← tag.clear place
      let body ← body.visit fun position child => child.abort (position :: place)
      let body ← body.cancel place
      let body ← body.forget.visit fun position child => child.reset (position :: place)
      pure ⟨tag, body⟩) := by
  rw [abort, fold_eq]
  simp [Body.visit_map]

/-- The abort of a node is reported only if the node is running. -/
def reportAbort (context : Context D) (node : Node A) : Run A D (Except Panic Unit) :=
  if node.isRunning then do
    Run.write context.place (.aborting node.info context.clock.frame)
    context.notify (.aborted node.info)
  else pure (.ok ())

/-- An abort within a tick is reported before it happens. -/
def abortIn (context : Context D) (node : Node A) : Run A D (Attempt (Node A) Unit) := do
  match ← node.reportAbort context with
  | .error panic => pure ⟨node, .error panic⟩
  | .ok () => do
      let node ← node.abort context.place
      pure ⟨node, .ok ()⟩

end Node

end Behavior
