import Behavior.Proofs.Lockstep.Correspondence

namespace Behavior

variable {A : Agent} {D : Type}

/-- Nobody sees a clearing. -/
def Event.isVisible : Event A → Bool
  | .cleared => false
  | _ => true

namespace Trace

/-- The visible part of a trace. -/
def visible (trace : Trace A) : Trace A := trace.filter fun entry => entry.event.isVisible

@[simp] theorem visible_append (first second : Trace A) :
    visible (first ++ second) = visible first ++ visible second :=
  List.filter_append _ _

/-- A view of a trace is the same on its visible part if it leaves clearings out. -/
theorem filterMap_visible {Value : Type} {view : Entry A → Option Value}
    (blind : ∀ place, view ⟨place, .cleared⟩ = none) (trace : Trace A) :
    trace.visible.filterMap view = trace.filterMap view := by
  rw [visible, List.filterMap_filter]
  congr 1
  funext ⟨place, event⟩
  cases event <;> simp [Event.isVisible, blind]

/-- All calls are visible. -/
theorem calls_visible (trace : Trace A) : trace.visible.calls = trace.calls :=
  filterMap_visible (fun _ => rfl) trace

/-- All notices are visible. -/
theorem notices_visible (trace : Trace A) : trace.visible.notices = trace.notices :=
  filterMap_visible (fun _ => rfl) trace

/-- All outputs are visible. -/
theorem outputs_visible (trace : Trace A) : trace.visible.outputs = trace.outputs :=
  filterMap_visible (fun _ => rfl) trace

end Trace

/-- Outcomes agree if nobody can tell them apart by the stage, by the visible trace or by their
values, which are related. -/
structure Outcome.Agree {Value Other : Type} (Related : Value → Other → Prop)
    (first : Outcome A D Value) (second : Outcome A D Other) : Prop where
  value : Related first.value second.value
  stage : first.stage = second.stage
  visible : first.trace.visible = second.trace.visible

namespace Run

variable {Value Other Next Following Subject Twin : Type} {Related : Value → Other → Prop}
  {Final : Next → Following → Prop} {run : Run A D Value} {other : Run A D Other}
  {next : Value → Run A D Next} {following : Other → Run A D Following}

/-- Two runs are coupled if their outcomes agree from every stage. -/
def Coupled (Related : Value → Other → Prop) (run : Run A D Value) (other : Run A D Other) : Prop :=
  ∀ stage, Outcome.Agree Related (run stage) (other stage)

theorem coupled_pure {value : Value} {twin : Other} (related : Related value twin) :
    Coupled Related (pure value : Run A D Value) (pure twin) :=
  fun _ => ⟨related, rfl, rfl⟩

/-- Every run is coupled with itself. -/
theorem coupled_self (run : Run A D Value) : Coupled Eq run run :=
  fun _ => ⟨rfl, rfl, rfl⟩

/-- Coupled runs are continued by coupled runs. -/
theorem Coupled.bind (first : Coupled Related run other)
    (rest : ∀ value twin, Related value twin → Coupled Final (next value) (following twin)) :
    Coupled Final (run >>= next) (other >>= following) := by
  intro stage
  obtain ⟨related, stages, traces⟩ := first stage
  obtain ⟨final, ends, later⟩ := rest _ _ related (run stage).stage
  rw [bind_apply, bind_apply, ← stages]
  exact ⟨final, ends, by rw [Trace.visible_append, Trace.visible_append, traces, later]⟩

/-- The same run is continued by coupled runs. -/
theorem coupled_bind_self {following : Value → Run A D Following}
    (rest : ∀ value, Coupled Final (next value) (following value)) :
    Coupled Final (run >>= next) (run >>= following) :=
  (coupled_self run).bind fun value _ same => same ▸ rest value

/-- Attempts that agree are continued from the same result. -/
theorem Coupled.attempt {Related : Subject → Twin → Prop} {run : Run A D (Attempt Subject Value)}
    {other : Run A D (Attempt Twin Value)} {next : Attempt Subject Value → Run A D Next}
    {following : Attempt Twin Value → Run A D Following}
    (first : Coupled (Attempt.Agree Related) run other)
    (rest : ∀ after twin result, Related after twin →
      Coupled Final (next ⟨after, result⟩) (following ⟨twin, result⟩)) :
    Coupled Final (run >>= next) (other >>= following) := by
  refine first.bind ?_
  rintro ⟨after, result⟩ ⟨twin, _⟩ ⟨related, rfl⟩
  exact rest after twin result related

theorem coupled_attempt {Related : Subject → Twin → Prop} {after : Subject} {twin : Twin}
    {result : Except Panic Value} (related : Related after twin) :
    Coupled (Attempt.Agree Related) (pure ⟨after, result⟩ : Run A D (Attempt Subject Value))
      (pure ⟨twin, result⟩) :=
  coupled_pure ⟨related, rfl⟩

/-- A run that is coupled with a mere value may be left out. -/
theorem Coupled.absorb {twin : Other} {following : Run A D Following}
    (first : Coupled Related run (pure twin))
    (rest : ∀ value, Related value twin → Coupled Final (next value) following) :
    Coupled Final (run >>= next) following := by
  intro stage
  obtain ⟨related, stages, traces⟩ := first stage
  obtain ⟨final, ends, later⟩ := rest _ related stage
  rw [bind_apply, stages]
  exact ⟨final, ends, by rw [Trace.visible_append, traces]; exact later⟩

/-- Coupled runs stay coupled with what all values of the first are known to be. -/
theorem Coupled.known {Known : Value → Prop} (coupled : Coupled Related run other)
    (known : ∀ stage, Known (run stage).value) :
    Coupled (fun value twin => Known value ∧ Related value twin) run other :=
  fun stage => ⟨⟨known stage, (coupled stage).value⟩, (coupled stage).stage, (coupled stage).visible⟩

end Run

end Behavior
