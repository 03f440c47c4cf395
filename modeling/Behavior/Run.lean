import Behavior.Trace

namespace Behavior

/-- A stage holds the state of the agent and the state of its debugger. -/
structure Stage (A : Agent) (D : Type) where
  agent : A.State
  debugger : D

structure Outcome (A : Agent) (D Value : Type) where
  value : Value
  stage : Stage A D
  trace : Trace A

/-- A run changes the stage, gives a value and leaves a trace. -/
def Run (A : Agent) (D Value : Type) := Stage A D → Outcome A D Value

namespace Run

variable {A : Agent} {D Value Next : Type}

protected def pure (value : Value) : Run A D Value := fun stage => ⟨value, stage, []⟩

/-- The trace of the first run stands before the trace of the second. -/
protected def bind (run : Run A D Value) (next : Value → Run A D Next) :
    Run A D Next := fun stage =>
  let first := run stage
  let second := next first.value first.stage
  ⟨second.value, second.stage, first.trace.join second.trace⟩

instance : Monad (Run A D) where
  pure := Run.pure
  bind := Run.bind

@[simp] theorem pure_apply (value : Value) (stage : Stage A D) :
    (pure value : Run A D Value) stage = ⟨value, stage, []⟩ := rfl

@[simp] theorem bind_apply (run : Run A D Value) (next : Value → Run A D Next) (stage : Stage A D) :
    (run >>= next) stage =
      ⟨(next (run stage).value (run stage).stage).value,
        (next (run stage).value (run stage).stage).stage,
        (run stage).trace ++ (next (run stage).value (run stage).stage).trace⟩ := by
  change Run.bind run next stage = _
  simp [Run.bind]

@[simp] theorem map_apply (change : Value → Next) (run : Run A D Value) (stage : Stage A D) :
    (change <$> run) stage = ⟨change (run stage).value, (run stage).stage, (run stage).trace⟩ := by
  change Run.bind run (fun value => Run.pure (change value)) stage = _
  simp [Run.bind, Run.pure]

instance : LawfulMonad (Run A D) :=
  LawfulMonad.mk' (Run A D)
    (fun run => by
      funext stage
      change Run.bind run (fun value => Run.pure (id value)) stage = run stage
      simp [Run.bind, Run.pure])
    (fun _ _ => by
      funext stage
      simp)
    (fun _ _ _ => by
      funext stage
      simp)

/-- An entry in the trace changes nothing else. -/
def enter (place : Place) (event : Event A) : Run A D Unit := fun stage =>
  ⟨(), stage, [⟨place, event⟩]⟩

/-- A record is written by the tree itself. -/
def write (place : Place) (record : Record) : Run A D Unit :=
  enter place (.output (.record record))

/-- A call uses the agent and enters itself before the lines that the agent wrote. -/
def call (place : Place) (reply : A.State → Reply A.State Value) (describe : Value → Call A) :
    Run A D Value := fun stage =>
  let answer := reply stage.agent
  ⟨answer.value, { stage with agent := answer.state },
    ⟨place, .call (describe answer.value)⟩ ::
      answer.lines.map fun line => ⟨place, .output (.line line)⟩⟩

end Run

end Behavior
