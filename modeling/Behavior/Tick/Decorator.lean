import Behavior.Tick.Leaf

namespace Behavior

variable {A : Agent} {D : Type}

/-- An arm is a child together with its tick. -/
abbrev Arm (A : Agent) (D : Type) := Part A (Context D → Run A D (Attempt (Node A) Status))

namespace Decorator

/-- A transparent decorator changes only the status of its child. -/
def pass (context : Context D) (own : Decorator A) (change : Status → Status) (arm : Arm A D) :
    Run A D (Attempt (Decorator A × Node A) Status) := do
  let ticked ← arm.value (context.child 0)
  pure ⟨(own, ticked.after), ticked.result.map change⟩

/-- A held child is ticked only if the predicate is true; otherwise it is left as it is. -/
def hold (info : NodeInfo) (context : Context D) (own : Decorator A) (predicate : A.Predicate)
    (arm : Arm A D) : Run A D (Attempt (Decorator A × Node A) Status) := do
  match ← context.ask info predicate with
  | .error panic => pure ⟨(own, arm.node), .error panic⟩
  | .ok true => pass context own (fun status => status) arm
  | .ok false => pure ⟨(own, arm.node), .ok .failure⟩

/-- A watched child is aborted when the predicate turns false and reset when it has finished. -/
def watch (info : NodeInfo) (context : Context D) (own : Decorator A) (predicate : A.Predicate)
    (arm : Arm A D) : Run A D (Attempt (Decorator A × Node A) Status) := do
  match ← context.ask info predicate with
  | .error panic => pure ⟨(own, arm.node), .error panic⟩
  | .ok false =>
      if arm.node.isRunning then do
        let aborted ← arm.node.abortIn (context.child 0)
        pure ⟨(own, aborted.after), aborted.result.map fun _ => .failure⟩
      else pure ⟨(own, arm.node), .ok .failure⟩
  | .ok true => do
      let ticked ← arm.value (context.child 0)
      match ticked.result with
      | .error panic => pure ⟨(own, ticked.after), .error panic⟩
      | .ok .running => pure ⟨(own, ticked.after), .ok .running⟩
      | .ok status => do
          let child ← ticked.after.reset (0 :: context.place)
          pure ⟨(own, child), .ok status⟩

/-- An iteration ends when its child has returned the goal often enough, or has finished
otherwise. Between two rounds the child is reset and the iteration is running. -/
def iterate (context : Context D) (own : Nat → Decorator A) (goal : Status) (times count : Nat)
    (arm : Arm A D) : Run A D (Attempt (Decorator A × Node A) Status) := do
  if times = 0 then pure ⟨(own count, arm.node), .ok goal⟩
  else do
    let ticked ← arm.value (context.child 0)
    match ticked.result with
    | .error panic => pure ⟨(own count, ticked.after), .error panic⟩
    | .ok .running => pure ⟨(own count, ticked.after), .ok .running⟩
    | .ok status =>
        if status = goal then
          if times ≤ count + 1 then pure ⟨(own 0, ticked.after), .ok goal⟩
          else do
            let child ← ticked.after.reset (0 :: context.place)
            pure ⟨(own (count + 1), child), .ok .running⟩
        else pure ⟨(own 0, ticked.after), .ok status⟩

/-- The child is aborted as soon as the accumulated time reaches the limit. -/
def expire (context : Context D) (limit elapsed : Float32) (arm : Arm A D) :
    Run A D (Attempt (Decorator A × Node A) Status) := do
  let elapsed := elapsed + context.clock.deltaTime
  if limit ≤ elapsed then do
    Run.write context.place (.timeoutExpired context.clock.frame elapsed limit)
    let aborted ← arm.node.abortIn (context.child 0)
    pure ⟨(.timeout limit 0, aborted.after), aborted.result.map fun _ => .failure⟩
  else do
    let ticked ← arm.value (context.child 0)
    match ticked.result with
    | .error panic => pure ⟨(.timeout limit elapsed, ticked.after), .error panic⟩
    | .ok .running => pure ⟨(.timeout limit elapsed, ticked.after), .ok .running⟩
    | .ok status => pure ⟨(.timeout limit 0, ticked.after), .ok status⟩

/-- The child is blocked as long as time remains since its last success. -/
def cool (context : Context D) (period remaining : Float32) (arm : Arm A D) :
    Run A D (Attempt (Decorator A × Node A) Status) := do
  if 0 < remaining then
    pure ⟨(.cooldown period (remaining - context.clock.deltaTime), arm.node), .ok .failure⟩
  else do
    let ticked ← arm.value (context.child 0)
    match ticked.result with
    | .error panic => pure ⟨(.cooldown period remaining, ticked.after), .error panic⟩
    | .ok .success => pure ⟨(.cooldown period period, ticked.after), .ok .success⟩
    | .ok status => pure ⟨(.cooldown period remaining, ticked.after), .ok status⟩

def tick (info : NodeInfo) (context : Context D) (arm : Arm A D) :
    Decorator A → Run A D (Attempt (Decorator A × Node A) Status)
  | .guard predicate => hold info context (.guard predicate) predicate arm
  | .invert => pass context .invert .invert arm
  | .forceSuccess => pass context .forceSuccess (.force .success) arm
  | .forceFailure => pass context .forceFailure (.force .failure) arm
  | .repeating times count => iterate context (.repeating times) .success times count arm
  | .retrying times attempts => iterate context (.retrying times) .failure times attempts arm
  | .timeout limit elapsed => expire context limit elapsed arm
  | .cooldown period remaining => cool context period remaining arm
  | .whileTrue predicate => hold info context (.whileTrue predicate) predicate arm
  | .reactiveGuard predicate => watch info context (.reactiveGuard predicate) predicate arm

end Decorator

end Behavior
