import Behavior.Sink

namespace Behavior.Run

variable {A : Agent} {D Value Next : Type}

/-- What follows a run may rely on the values that the run gives. -/
theorem bind_congr_value {run : Run A D Value} {next other : Value → Run A D Next}
    (same : ∀ stage, next (run stage).value = other (run stage).value) :
    run >>= next = run >>= other := by
  funext stage
  simp only [bind_apply, same stage]

/-- A run leads from one stage to another, with a trace and a value. -/
def Leads (run : Run A D Value) (before : Stage A D) (trace : Trace A) (value : Value)
    (after : Stage A D) : Prop :=
  run before = ⟨value, after, trace⟩

/-- Every run leads somewhere. -/
theorem leads_self (run : Run A D Value) (before : Stage A D) :
    run.Leads before (run before).trace (run before).value (run before).stage := rfl

@[simp] theorem leads_pure {result : Value} {before after : Stage A D} {trace : Trace A}
    {value : Value} :
    (pure result : Run A D Value).Leads before trace value after ↔
      value = result ∧ trace = [] ∧ after = before := by
  simp only [Leads, pure_apply, Outcome.mk.injEq]
  grind

/-- An attempt that is given leads to itself. -/
theorem leads_attempt {Subject : Type} {subject changed : Subject}
    {given result : Except Panic Value} {before after : Stage A D} {trace : Trace A} :
    (pure ⟨subject, given⟩ : Run A D (Attempt Subject Value)).Leads before trace ⟨changed, result⟩
        after ↔
      changed = subject ∧ result = given ∧ trace = [] ∧ after = before := by
  simp [and_assoc]

/-- An attempt of a pair that is given leads to itself. -/
theorem leads_pair {Own Subject : Type} {own next : Own} {subject changed : Subject}
    {given result : Except Panic Value} {before after : Stage A D} {trace : Trace A} :
    (pure ⟨(own, subject), given⟩ : Run A D (Attempt (Own × Subject) Value)).Leads before trace
        ⟨(next, changed), result⟩ after ↔
      next = own ∧ changed = subject ∧ result = given ∧ trace = [] ∧ after = before := by
  simp [and_assoc]

/-- A sequence of runs passes through the stage between them. -/
theorem leads_bind {run : Run A D Value} {next : Value → Run A D Next} {before after : Stage A D}
    {trace : Trace A} {value : Next} :
    (run >>= next).Leads before trace value after ↔
      ∃ first middle earlier later, run.Leads before earlier first middle ∧
        (next first).Leads middle later value after ∧ trace = earlier ++ later := by
  simp only [Leads, bind_apply, Outcome.mk.injEq]
  constructor
  · rintro ⟨rfl, rfl, rfl⟩
    exact ⟨_, _, _, _, rfl, rfl, rfl⟩
  · rintro ⟨first, middle, earlier, later, started, ended, rfl⟩
    simp [started, ended]

/-- A run that is followed by a mere value passes through nothing else. -/
theorem leads_bind_pure {run : Run A D Value} {change : Value → Next} {before after : Stage A D}
    {trace : Trace A} {value : Next} :
    (run >>= fun first => pure (change first)).Leads before trace value after ↔
      ∃ first, run.Leads before trace first after ∧ value = change first := by
  rw [leads_bind]
  constructor
  · rintro ⟨first, _, _, _, started, ended, rfl⟩
    obtain ⟨rfl, rfl, rfl⟩ := leads_pure.1 ended
    exact ⟨first, by rwa [List.append_nil], rfl⟩
  · rintro ⟨first, started, rfl⟩
    exact ⟨first, after, trace, [], started, leads_pure.2 ⟨rfl, rfl, rfl⟩, by rw [List.append_nil]⟩

/-- An attempt after a run leads where the run does. -/
theorem leads_bind_attempt {Subject : Type} {run : Run A D Value} {subject : Value → Subject}
    {given : Value → Except Panic Next} {changed : Subject} {result : Except Panic Next}
    {before after : Stage A D} {trace : Trace A} :
    (run >>= fun first => (pure ⟨subject first, given first⟩ : Run A D (Attempt Subject Next))).Leads
        before trace ⟨changed, result⟩ after ↔
      ∃ first, run.Leads before trace first after ∧ changed = subject first ∧
        result = given first := by
  rw [leads_bind_pure]
  simp only [Attempt.mk.injEq]

/-- An attempt of a pair after a run leads where the run does. -/
theorem leads_bind_pair {Own Subject : Type} {run : Run A D Value} {own : Value → Own}
    {subject : Value → Subject} {given : Value → Except Panic Next} {next : Own}
    {changed : Subject} {result : Except Panic Next} {before after : Stage A D} {trace : Trace A} :
    (run >>= fun first =>
        (pure ⟨(own first, subject first), given first⟩ : Run A D (Attempt (Own × Subject) Next))).Leads
        before trace ⟨(next, changed), result⟩ after ↔
      ∃ first, run.Leads before trace first after ∧ next = own first ∧ changed = subject first ∧
        result = given first := by
  rw [leads_bind_pure]
  simp only [Attempt.mk.injEq, Prod.mk.injEq, and_assoc]

/-- One entry is written, and the stage stays. -/
theorem leads_enter {place : Place} {event : Event A} {before after : Stage A D}
    {trace : Trace A} {value : Unit} :
    (enter place event : Run A D Unit).Leads before trace value after ↔
      trace = [⟨place, event⟩] ∧ after = before := by
  simp only [Leads, enter, Outcome.mk.injEq, true_and]
  grind

/-- One record is written, and the stage stays. -/
theorem leads_write {place : Place} {record : Record} {before after : Stage A D}
    {trace : Trace A} {value : Unit} :
    (write place record : Run A D Unit).Leads before trace value after ↔
      trace = [⟨place, .output (.record record)⟩] ∧ after = before :=
  leads_enter

/-- A call enters itself and the lines that the agent wrote. -/
theorem Leads.trace_of_call {place : Place} {reply : A.State → Reply A.State Value}
    {describe : Value → Call A} {before after : Stage A D} {trace : Trace A} {value : Value}
    (called : (call place reply describe).Leads before trace value after) :
    ∃ lines : List String, trace = ⟨place, .call (describe value)⟩ ::
      lines.map fun line => ⟨place, .output (.line line)⟩ := by
  simp only [Leads, call, Outcome.mk.injEq] at called
  obtain ⟨rfl, _, rfl⟩ := called
  exact ⟨_, rfl⟩

end Behavior.Run

namespace Behavior.Context

variable {A : Agent} {D : Type}

theorem place_child (context : Context D) (position : Nat) :
    (context.child position).place = position :: context.place := rfl

/-- A notice is told where it stands before whatever the sink writes about it. -/
def Tells (context : Context D) (notice : Notice) (trace : Trace A) : Prop :=
  ∃ outputs : List Output, trace = ⟨context.place, .notice notice⟩ ::
    outputs.map fun output => ⟨context.place, .output output⟩

/-- A hook writes nothing but outputs. -/
theorem trace_of_react {context : Context D} {hook : D → Reaction D} {before after : Stage A D}
    {trace : Trace A} {result : Except Panic Unit}
    (reacted : (context.react hook).Leads before trace result after) :
    ∃ outputs : List Output, trace = outputs.map fun output => ⟨context.place, .output output⟩ := by
  simp only [Run.Leads, react, Outcome.mk.injEq] at reacted
  exact ⟨_, reacted.2.2.symm⟩

/-- With or without a sink, a notification is told. -/
theorem tells_of_notify {context : Context D} {notice : Notice} {before after : Stage A D}
    {trace : Trace A} {result : Except Panic Unit}
    (notified : (context.notify notice).Leads before trace result after) :
    context.Tells notice trace := by
  obtain ⟨_, _, earlier, later, entered, observed, rfl⟩ := Run.leads_bind.1 notified
  obtain ⟨rfl, rfl⟩ := Run.leads_enter.1 entered
  cases sink : context.sink with
  | none =>
      rw [sink] at observed
      obtain ⟨_, rfl, _⟩ := Run.leads_pure.1 observed
      exact ⟨[], rfl⟩
  | some _ =>
      rw [sink] at observed
      obtain ⟨outputs, rfl⟩ := trace_of_react observed
      exact ⟨outputs, rfl⟩

/-- A pause writes nothing but outputs. -/
theorem trace_of_pauseBefore {context : Context D} {node : NodeInfo} {before after : Stage A D}
    {trace : Trace A} {result : Except Panic Unit}
    (paused : (context.pauseBefore node).Leads before trace result after) :
    ∃ outputs : List Output, trace = outputs.map fun output => ⟨context.place, .output output⟩ := by
  unfold pauseBefore at paused
  cases installed : context.sink with
  | none =>
      rw [installed] at paused
      obtain ⟨_, rfl, _⟩ := Run.leads_pure.1 paused
      exact ⟨[], rfl⟩
  | some sink =>
      simp only [installed, Run.Leads] at paused
      split at paused
      · replace paused : (context.react sink.pause).Leads _ trace result after := paused
        exact trace_of_react paused
      · exact ⟨[], (congrArg Outcome.trace paused).symm⟩

end Behavior.Context
