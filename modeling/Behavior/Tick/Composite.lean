import Behavior.Tick.Decorator

namespace Behavior

variable {A : Agent} {D : Type}

namespace Composite

/-- A stop is the position and the status of the child at which a scan has ended. -/
abbrev Stop := Nat × Status

/-- A scan ticks children in order as long as they return the skipped status. -/
def scan (skip : Status) (context : Context D) :
    Nat → List (Arm A D) → Run A D (Attempt (List (Node A)) (Option Stop))
  | _, [] => pure ⟨[], .ok none⟩
  | position, arm :: arms => do
      let ticked ← arm.value (context.child position)
      match ticked.result with
      | .error panic => pure ⟨ticked.after :: arms.map Part.node, .error panic⟩
      | .ok status =>
          if status = skip then do
            let rest ← scan skip context (position + 1) arms
            pure ⟨ticked.after :: rest.after, rest.result⟩
          else pure ⟨ticked.after :: arms.map Part.node, .ok (some (position, status))⟩

/-- The running position is the stop of a scan that ended at a running child. -/
def runningOf : Option Stop → Option Nat
  | some (position, .running) => some position
  | _ => none

/-- A scan without a stop gives the skipped status. -/
def statusOf (skip : Status) : Option Stop → Status
  | some (_, status) => status
  | none => skip

/-- A resumed scan starts at the child that was running. -/
def resume (context : Context D) (own : Option Nat → Composite) (skip : Status)
    (running : Option Nat) (arms : List (Arm A D)) :
    Run A D (Attempt (Composite × List (Node A)) Status) := do
  let start := running.getD 0
  if arms.length < start then
    pure ⟨(own running, arms.map Part.node), .error (.outOfRange start arms.length)⟩
  else do
    let scanned ← scan skip context start (arms.drop start)
    let nodes := (arms.take start).map Part.node ++ scanned.after
    match scanned.result with
    | .error panic => pure ⟨(own running, nodes), .error panic⟩
    | .ok stop => pure ⟨(own (runningOf stop), nodes), .ok (statusOf skip stop)⟩

/-- Each child that was running is aborted unless the scan has selected it again. -/
def preempt (context : Context D) (stop : Option Stop) :
    List Nat → List (Node A) → Run A D (Attempt (List (Node A)) Unit)
  | [], nodes => pure ⟨nodes, .ok ()⟩
  | position :: rest, nodes =>
      if stop.map Prod.fst = some position then preempt context stop rest nodes
      else
        match nodes[position]? with
        | some node => do
            let aborted ← node.abortIn (context.child position)
            let nodes := nodes.set position aborted.after
            match aborted.result with
            | .error panic => pure ⟨nodes, .error panic⟩
            | .ok () => preempt context stop rest nodes
        | none => pure ⟨nodes, .error (.outOfRange position nodes.length)⟩

/-- A reactive scan starts at the first child on every tick. The composite is kept when the scan
panics, unwound when the report of a preemption does, and settled after a stop. -/
def rescan (context : Context D) (skip : Status) (running : List Nat) (kept unwound : Composite)
    (settled : Option Stop → Composite) (arms : List (Arm A D)) :
    Run A D (Attempt (Composite × List (Node A)) Status) := do
  let scanned ← scan skip context 0 arms
  match scanned.result with
  | .error panic => pure ⟨(kept, scanned.after), .error panic⟩
  | .ok stop => do
      let preempted ← preempt context stop running scanned.after
      match preempted.result with
      | .error panic => pure ⟨(unwound, preempted.after), .error panic⟩
      | .ok () => pure ⟨(settled stop, preempted.after), .ok (statusOf skip stop)⟩

end Composite

end Behavior
