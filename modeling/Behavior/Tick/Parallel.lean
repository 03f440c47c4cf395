import Behavior.Tick.Decorator

namespace Behavior

variable {A : Agent} {D : Type}

namespace Policy

/-- A verdict is reached once enough children have succeeded, or too many have failed. -/
def verdict (policy : Policy) (children successes failures : Nat) : Option Status :=
  if policy.threshold children ≤ successes then some .success
  else if children - failures < policy.threshold children then some .failure
  else none

end Policy

namespace Composite

/-- Only a finished status is an outcome. -/
def outcomeOf : Status → Option Status
  | .running => none
  | status => some status

/-- Children that were appended since the last tick have no outcome yet. -/
def padded (outcomes : List (Option Status)) (children : Nat) : List (Option Status) :=
  (outcomes ++ List.replicate (children - outcomes.length) none).take children

/-- An advance ticks each child without an outcome and remembers the new outcomes. -/
def advance (context : Context D) :
    Nat → List (Arm A D) → List (Option Status) →
      Run A D (Attempt (List (Node A) × List (Option Status)) Unit)
  | position, arm :: arms, none :: outcomes => do
      let ticked ← arm.value (context.child position)
      match ticked.result with
      | .error panic =>
          pure ⟨(ticked.after :: arms.map Part.node, none :: outcomes), .error panic⟩
      | .ok status => do
          let rest ← advance context (position + 1) arms outcomes
          pure ⟨(ticked.after :: rest.after.1, outcomeOf status :: rest.after.2), rest.result⟩
  | position, arm :: arms, some outcome :: outcomes => do
      let rest ← advance context (position + 1) arms outcomes
      pure ⟨(arm.node :: rest.after.1, some outcome :: rest.after.2), rest.result⟩
  | _, arms, outcomes => pure ⟨(arms.map Part.node, outcomes), .ok ()⟩

/-- A finalization gives up the outcomes and aborts each child without one. -/
def finalize (context : Context D) :
    Nat → List (Node A) → List (Option Status) →
      Run A D (Attempt (List (Node A) × List (Option Status)) Unit)
  | position, node :: nodes, none :: outcomes => do
      let aborted ← node.abortIn (context.child position)
      match aborted.result with
      | .error panic => pure ⟨(aborted.after :: nodes, none :: outcomes), .error panic⟩
      | .ok () => do
          let rest ← finalize context (position + 1) nodes outcomes
          pure ⟨(aborted.after :: rest.after.1, none :: rest.after.2), rest.result⟩
  | position, node :: nodes, some _ :: outcomes => do
      let rest ← finalize context (position + 1) nodes outcomes
      pure ⟨(node :: rest.after.1, none :: rest.after.2), rest.result⟩
  | _, nodes, outcomes => pure ⟨(nodes, outcomes), .ok ()⟩

/-- A parallel node advances all unfinished children and finalizes on a verdict. -/
def tickParallel (context : Context D) (policy : Policy) (outcomes : List (Option Status))
    (arms : List (Arm A D)) : Run A D (Attempt (Composite × List (Node A)) Status) := do
  let advanced ← advance context 0 arms (padded outcomes arms.length)
  let (nodes, outcomes) := advanced.after
  match advanced.result with
  | .error panic => pure ⟨(.parallel policy outcomes, nodes), .error panic⟩
  | .ok () =>
      let successes := outcomes.count (some .success)
      let failures := outcomes.count (some .failure)
      match policy.verdict nodes.length successes failures with
      | none => pure ⟨(.parallel policy outcomes, nodes), .ok .running⟩
      | some status => do
          Run.write context.place (.parallelFinalized status successes failures policy)
          let finalized ← finalize context 0 nodes outcomes
          let (nodes, outcomes) := finalized.after
          match finalized.result with
          | .error panic => pure ⟨(.parallel policy outcomes, nodes), .error panic⟩
          | .ok () => pure ⟨(.parallel policy [], nodes), .ok status⟩

end Composite

end Behavior
