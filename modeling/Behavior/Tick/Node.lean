import Behavior.Tick.Choice
import Behavior.Tick.Composite
import Behavior.Tick.Parallel

namespace Behavior

variable {A : Agent} {D : Type}

def Composite.tick (context : Context D) (arms : List (Arm A D)) :
    Composite → Run A D (Attempt (Composite × List (Node A)) Status)
  | .selector running => resume context .selector .failure running arms
  | .sequence running => resume context .sequence .success running arms
  | .parallel policy outcomes => tickParallel context policy outcomes arms
  | .reactiveSelector running =>
      rescan context .failure running.list (.reactiveSelector running) (.reactiveSelector running)
        (fun stop => .reactiveSelector (running.replace (runningOf stop))) arms
  | .reactiveSequence running =>
      rescan context .success running.toList (.reactiveSequence running) (.reactiveSequence none)
        (fun stop => .reactiveSequence (runningOf stop)) arms

/-- The body is evaluated between the two notices of the node. -/
def Body.tick (info : NodeInfo) (context : Context D) :
    Body A (Arm A D) → Run A D (Attempt (Body A (Node A)) Status)
  | .leaf own => do
      let ticked ← own.tick info context
      pure (ticked.map .leaf)
  | .decorator own arm => do
      let ticked ← own.tick info context arm
      pure (ticked.map fun after => .decorator after.1 after.2)
  | .choice own yes no => own.tick info context yes no
  | .composite own arms => do
      let ticked ← own.tick context arms
      pure (ticked.map fun after => .composite after.1 after.2)

/-- A tick is announced before the sink may pause it. -/
def Context.enter (context : Context D) (info : NodeInfo) : Run A D (Except Panic Unit) := do
  match ← context.notify (.entered info context.clock) with
  | .error panic => pure (.error panic)
  | .ok () => context.pauseBefore info

namespace Node

/-- The status is remembered before the sink learns of it. -/
def tickStep (tag : Tag) (body : Body A (Arm A D)) (context : Context D) :
    Run A D (Attempt (Node A) Status) := do
  let info : NodeInfo := ⟨tag.id, body.kind, tag.label⟩
  match ← context.enter info with
  | .error panic => pure ⟨⟨tag, body.map Part.node⟩, .error panic⟩
  | .ok () => do
      let ticked ← body.tick info context
      match ticked.result with
      | .error panic => pure ⟨⟨tag, ticked.after⟩, .error panic⟩
      | .ok status => do
          let left ← context.notify (.left info status context.clock)
          pure ⟨⟨{ tag with last := some status }, ticked.after⟩, left.map fun _ => status⟩

/-- A tick evaluates the node once. When a panic cuts it short, the node stays as the
unwinding has left it. -/
def tick : Node A → Context D → Run A D (Attempt (Node A) Status) := fold tickStep

/-- A tick of a node is one step over the ticks of its children. -/
theorem tick_eq (tag : Tag) (body : Body A (Node A)) :
    (tick ⟨tag, body⟩ : Context D → Run A D (Attempt (Node A) Status)) =
      tickStep tag (body.map fun node => ⟨node, node.tick⟩) :=
  fold_eq tickStep tag body

end Node

end Behavior
