import Behavior.Tick.Decorator

namespace Behavior

variable {A : Agent} {D : Type}

namespace Choice

/-- A branch is abandoned if it was active and the choice aborts on a switch. -/
def Abandons (choice : Choice A) (branch : Branch) : Prop :=
  choice.active = some branch ∧ choice.switch = .abort

instance (choice : Choice A) (branch : Branch) : Decidable (choice.Abandons branch) :=
  inferInstanceAs (Decidable (_ ∧ _))

/-- The branch that the tick does not route to is aborted if the choice abandons it. -/
def abandon (context : Context D) (choice : Choice A) (branch : Branch) (node : Node A) :
    Run A D (Attempt (Node A) Unit) :=
  if choice.Abandons branch then node.abortIn (context.child branch.position)
  else pure ⟨node, .ok ()⟩

def abandonOption (context : Context D) (choice : Choice A) (branch : Branch) :
    Option (Node A) → Run A D (Attempt (Option (Node A)) Unit)
  | some node => do
      let abandoned ← choice.abandon context branch node
      pure (abandoned.map some)
  | none => pure ⟨none, .ok ()⟩

/-- Only a running branch stays active. -/
def activate (choice : Choice A) (branch : Branch) : Except Panic Status → Choice A
  | .ok .running => { choice with active := some branch }
  | _ => { choice with active := none }

/-- The condition routes the tick, an abandoned branch is aborted, and the chosen one is ticked.
A missing branch fails. -/
def tick (info : NodeInfo) (context : Context D) (choice : Choice A) (yes : Arm A D)
    (no : Option (Arm A D)) : Run A D (Attempt (Body A (Node A)) Status) := do
  match ← context.ask info choice.predicate with
  | .error panic => pure ⟨.choice choice yes.node (no.map Part.node), .error panic⟩
  | .ok true => do
      let other ← choice.abandonOption context .no (no.map Part.node)
      match other.result with
      | .error panic => pure ⟨.choice choice.forget yes.node other.after, .error panic⟩
      | .ok () => do
          let ticked ← yes.value (context.child Branch.yes.position)
          pure ⟨.choice (choice.activate .yes ticked.result) ticked.after other.after,
            ticked.result⟩
  | .ok false => do
      let other ← choice.abandon context .yes yes.node
      match other.result with
      | .error panic => pure ⟨.choice choice.forget other.after (no.map Part.node), .error panic⟩
      | .ok () =>
          match no with
          | some arm => do
              let ticked ← arm.value (context.child Branch.no.position)
              pure ⟨.choice (choice.activate .no ticked.result) other.after (some ticked.after),
                ticked.result⟩
          | none => pure ⟨.choice choice.forget other.after none, .ok .failure⟩

end Choice

end Behavior
