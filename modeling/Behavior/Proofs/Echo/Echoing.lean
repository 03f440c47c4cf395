import Behavior.Proofs.Lockstep.Ticking
import Behavior.Proofs.Node.Numbering
import Behavior.Proofs.Trace.Made

namespace Behavior

variable {A : Agent} {D E : Type}

/-- Outcomes echo each other if they leave the same agent after the same calls and give related
values. -/
structure Outcome.Echoes {Value Other : Type} (Related : Value → Other → Prop)
    (first : Outcome A D Value) (second : Outcome A E Other) : Prop where
  value : Related first.value second.value
  agent : first.stage.agent = second.stage.agent
  made : first.trace.made = second.trace.made

/-- A harmless context has no sink that panics. -/
def Context.Harmless (context : Context D) : Prop :=
  ∀ sink, context.sink = some sink → (∀ notice debugger, (sink.observe notice debugger).panic = none) ∧
    ∀ debugger, (sink.pause debugger).panic = none

namespace Run

variable {Value Other Next Following : Type} {Related : Value → Other → Prop}
  {Final : Next → Following → Prop} {run : Run A D Value} {other : Run A E Other}
  {next : Value → Run A D Next} {following : Other → Run A E Following} {value : Value} {twin : Other}

/-- Two runs echo each other if their outcomes do from all stages with the same agent. -/
def Echoes (Related : Value → Other → Prop) (run : Run A D Value) (other : Run A E Other) : Prop :=
  ∀ stage twin, stage.agent = twin.agent → Outcome.Echoes Related (run stage) (other twin)

theorem echoes_pure (related : Related value twin) :
    Echoes Related (pure value : Run A D Value) (pure twin : Run A E Other) :=
  fun _ _ same => ⟨related, same, rfl⟩

/-- Runs that echo each other are continued by runs that do. -/
theorem Echoes.bind (first : Echoes Related run other)
    (rest : ∀ value twin, Related value twin → Echoes Final (next value) (following twin)) :
    Echoes Final (run >>= next) (other >>= following) := by
  intro stage twin same
  obtain ⟨related, agents, calls⟩ := first stage twin same
  obtain ⟨final, ends, later⟩ := rest _ _ related _ _ agents
  rw [bind_apply, bind_apply]
  exact ⟨final, ends, by rw [Trace.made_append, Trace.made_append, calls, later]⟩

/-- A weaker relation is echoed too. -/
theorem Echoes.imp {Weaker : Value → Other → Prop} (echoes : Echoes Related run other)
    (implies : ∀ value twin, Related value twin → Weaker value twin) : Echoes Weaker run other :=
  fun stage twin same =>
    ⟨implies _ _ (echoes stage twin same).value, (echoes stage twin same).agent,
      (echoes stage twin same).made⟩

/-- Echoes go both ways. -/
theorem Echoes.flip (echoes : Echoes Related run other) :
    Echoes (fun twin value => Related value twin) other run := by
  intro stage counter same
  obtain ⟨related, agents, calls⟩ := echoes counter stage same.symm
  exact ⟨related, agents.symm, calls.symm⟩

/-- A call of the agent echoes the same call from elsewhere. -/
theorem echoes_call (place counter : Place) (reply : A.State → Reply A.State Value)
    (describe : Value → Call A) :
    Echoes Eq (call place reply describe : Run A D Value) (call counter reply describe : Run A E Value) := by
  intro stage twin same
  have told (place : Place) (agent : A.State) :
      Trace.made (⟨place, .call (describe (reply agent).value)⟩ ::
        (reply agent).lines.map fun line => (⟨place, .output (.line line)⟩ : Entry A)) =
          [describe (reply agent).value] := by
    have written : Trace.made (((reply agent).lines.map Output.line).map fun output =>
        (⟨place, .output output⟩ : Entry A)) = [] := Trace.made_outputs _
    rw [List.map_map] at written
    exact congrArg (List.cons _) written
  obtain ⟨agent, debugger⟩ := stage
  obtain rfl : agent = twin.agent := same
  exact ⟨rfl, rfl, (told place _).trans (told counter _).symm⟩

/-- A silent run gives a value and leaves the agent alone. -/
def Silent (run : Run A D Value) (value : Value) : Prop :=
  ∀ stage, (run stage).value = value ∧ (run stage).stage.agent = stage.agent ∧
    (run stage).trace.made = []

theorem silent_pure (value : Value) : (pure value : Run A D Value).Silent value :=
  fun _ => ⟨rfl, rfl, rfl⟩

/-- A silent run is continued silently. -/
theorem Silent.bind {final : Next} (silent : run.Silent value) (rest : (next value).Silent final) :
    (run >>= next).Silent final := by
  intro stage
  obtain ⟨rfl, kept, quiet⟩ := silent stage
  obtain ⟨same, stays, still⟩ := rest (run stage).stage
  rw [bind_apply]
  exact ⟨same, stays.trans kept, by rw [Trace.made_append, quiet, still, List.append_nil]⟩

/-- Silent runs echo each other whatever they note. -/
theorem Silent.echoes (silent : run.Silent value) (quiet : other.Silent twin)
    (related : Related value twin) : Echoes Related run other := by
  intro stage counter same
  obtain ⟨rfl, kept, none⟩ := silent stage
  obtain ⟨rfl, left, nothing⟩ := quiet counter
  exact ⟨related, kept.trans (same.trans left.symm), none.trans nothing.symm⟩

/-- A silent run may be left out on the one side. -/
theorem Silent.left {counter : Run A E Following} (silent : run.Silent value)
    (rest : Echoes Final (next value) counter) : Echoes Final (run >>= next) counter := by
  intro stage twin same
  obtain ⟨rfl, kept, none⟩ := silent stage
  obtain ⟨final, ends, later⟩ := rest (run stage).stage twin (kept.trans same)
  rw [bind_apply]
  exact ⟨final, ends, by rw [Trace.made_append, none, List.nil_append, later]⟩

/-- A silent run may be left out on the other side. -/
theorem Silent.right {counter : Run A D Next} (silent : other.Silent twin)
    (rest : Echoes Final counter (following twin)) : Echoes Final counter (other >>= following) := by
  intro stage twin same
  obtain ⟨rfl, kept, none⟩ := silent twin
  obtain ⟨final, ends, later⟩ := rest stage (other twin).stage (same.trans kept.symm)
  rw [bind_apply]
  exact ⟨final, ends, by rw [Trace.made_append, none, List.nil_append, later]⟩

/-- Records are silent. -/
theorem silent_write (place : Place) (record : Record) :
    (write place record : Run A D Unit).Silent () :=
  fun _ => ⟨rfl, rfl, rfl⟩

end Run

namespace Context

variable {context : Context D} {counter : Context E}

theorem Harmless.child (harmless : context.Harmless) (position : Nat) :
    (context.child position).Harmless := harmless

/-- A hook that raises nothing is silent. -/
theorem silent_react {hook : D → Reaction D} (harmless : ∀ debugger, (hook debugger).panic = none) :
    (context.react hook : Run A D (Except Panic Unit)).Silent (.ok ()) := by
  intro stage
  refine ⟨?_, rfl, Trace.made_outputs _⟩
  simp only [react, harmless]

/-- A harmless sink may be told anything. -/
theorem Harmless.silent_notify (harmless : context.Harmless) (notice : Notice) :
    (context.notify notice : Run A D (Except Panic Unit)).Silent (.ok ()) := by
  have entered : (Run.enter context.place (.notice notice) : Run A D Unit).Silent () :=
    fun _ => ⟨rfl, rfl, rfl⟩
  refine entered.bind ?_
  cases installed : context.sink with
  | none => exact Run.silent_pure _
  | some sink => exact silent_react ((harmless sink installed).1 notice)

/-- A harmless sink pauses in front of a node without a call. -/
theorem Harmless.silent_pause (harmless : context.Harmless) (info : NodeInfo) :
    (context.pauseBefore info : Run A D (Except Panic Unit)).Silent (.ok ()) := by
  unfold pauseBefore
  cases installed : context.sink with
  | none => exact Run.silent_pure _
  | some sink =>
      intro stage
      dsimp only
      split
      · exact silent_react (harmless sink installed).2 _
      · exact ⟨rfl, rfl, rfl⟩

/-- A node is entered under a harmless sink without a call. -/
theorem Harmless.silent_enter (harmless : context.Harmless) (info : NodeInfo) :
    (context.enter info : Run A D (Except Panic Unit)).Silent (.ok ()) :=
  (harmless.silent_notify _).bind (harmless.silent_pause info)

/-- Contexts in which trees echo each other have the same clock and are harmless. -/
structure Parallel (context : Context D) (counter : Context E) : Prop where
  clock : context.clock = counter.clock
  left : context.Harmless
  right : counter.Harmless

end Context

/-- Visits of related children echo each other if they do so child by child, wherever the children
stand. -/
theorem Body.echoes_visitFrom {Child Other Changed Twin : Type} {Related : Child → Other → Prop}
    {Final : Changed → Twin → Prop} {go : Nat → Child → Run A D Changed}
    {tour : Nat → Other → Run A E Twin} {children : List Child} {others : List Other}
    (visits : ∀ {child other}, Related child other → ∀ position counter,
      Run.Echoes Final (go position child) (tour counter other))
    (related : List.Forall₂ Related children others) (position counter : Nat) :
    Run.Echoes (fun changed twins => List.Forall₂ Final changed twins ∧
        changed.length = children.length)
      (visitFrom go position children) (visitFrom tour counter others) := by
  induction related generalizing position counter with
  | nil => exact Run.echoes_pure ⟨.nil, rfl⟩
  | cons first _ inductionHypothesis =>
      refine (visits first position counter).bind fun _ _ changed => ?_
      refine (inductionHypothesis (position + 1) (counter + 1)).bind fun _ _ rest => ?_
      exact Run.echoes_pure ⟨.cons changed rest.1, congrArg (· + 1) rest.2⟩

/-- A last status is forgotten without a call. -/
theorem Tag.silent_clear (tag : Tag) (place : Place) :
    (tag.clear place : Run A D Tag).Silent tag.idle := by
  intro stage
  unfold clear
  split <;> exact ⟨rfl, rfl, rfl⟩

/-- An abort is reported without a call. -/
theorem Node.silent_reportAbort {context : Context D} (harmless : context.Harmless) (node : Node A) :
    (node.reportAbort context : Run A D (Except Panic Unit)).Silent (.ok ()) := by
  unfold reportAbort
  split
  · exact (Run.silent_write _ _).bind (harmless.silent_notify _)
  · exact Run.silent_pure _

/-- Trees that are the same but for their numbers echo each other. -/
def echoes : Lockstep A D E where
  Matches := Run.Echoes
  Alike node twin := node.unnumbered = twin.unnumbered
  Tags tag other := ({ tag with id := ⟨0⟩ } : Tag) = { other with id := ⟨0⟩ }
  Infos _ _ := True
  Meets := Context.Parallel
  pure := Run.echoes_pure
  bind := Run.Echoes.bind
  alike_iff := by
    rintro ⟨tag, body⟩ ⟨other, twin⟩
    rw [Node.unnumbered_eq, Node.unnumbered_eq, Node.mk.injEq, Body.map_eq_iff]
  running := by
    intro tag other same
    rw [(Tag.mk.inj same).2.2]
  returned := by
    intro tag other same status
    rw [(Tag.mk.inj same).2.1]
  infos _ _ := trivial
  child meets position := ⟨meets.clock, meets.left.child position, meets.right.child position⟩
  clock meets := meets.clock
  clear := by
    intro context twin tag other _ same
    refine (tag.silent_clear _).echoes (other.silent_clear _) ?_
    rw [Tag.idle, Tag.idle, (Tag.mk.inj same).2.1]
  call _ _ := Run.echoes_call _ _ _ _
  write _ _ _ := (Run.silent_write _ _).echoes (Run.silent_write _ _) rfl
  notify meets _ _ _ := (meets.left.silent_notify _).echoes (meets.right.silent_notify _) rfl
  enter meets _ := (meets.left.silent_enter _).echoes (meets.right.silent_enter _) rfl

end Behavior
