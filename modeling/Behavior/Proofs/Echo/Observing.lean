import Behavior.Proofs.Echo.Driving
import Behavior.Proofs.Handoff.Visiting
import Behavior.Scenario.Session

namespace Behavior

variable {A : Agent} {D E : Type}

/-- Outcomes tally if they leave the same agent after the same calls at the same places and give
related values. -/
structure Outcome.Tallies {Value Other : Type} (Related : Value → Other → Prop)
    (first : Outcome A D Value) (second : Outcome A E Other) : Prop where
  value : Related first.value second.value
  agent : first.stage.agent = second.stage.agent
  calls : first.trace.calls = second.trace.calls

namespace Run

variable {Value Other Next Following : Type} {Related : Value → Other → Prop}
  {Final : Next → Following → Prop} {run : Run A D Value} {other : Run A E Other}
  {next : Value → Run A D Next} {following : Other → Run A E Following} {value : Value} {twin : Other}

/-- Two runs tally if their outcomes do from all stages with the same agent. -/
def Tallies (Related : Value → Other → Prop) (run : Run A D Value) (other : Run A E Other) : Prop :=
  ∀ stage twin, stage.agent = twin.agent → Outcome.Tallies Related (run stage) (other twin)

theorem tallies_pure (related : Related value twin) :
    Tallies Related (pure value : Run A D Value) (pure twin : Run A E Other) :=
  fun _ _ same => ⟨related, same, rfl⟩

/-- Runs with the same tally are continued by runs with the same one. -/
theorem Tallies.bind (first : Tallies Related run other)
    (rest : ∀ value twin, Related value twin → Tallies Final (next value) (following twin)) :
    Tallies Final (run >>= next) (other >>= following) := by
  intro stage twin same
  obtain ⟨related, agents, calls⟩ := first stage twin same
  obtain ⟨final, ends, later⟩ := rest _ _ related _ _ agents
  rw [bind_apply, bind_apply]
  exact ⟨final, ends, by rw [Trace.calls_append, Trace.calls_append, calls, later]⟩

/-- Attempts that agree are followed from the same result. -/
theorem Tallies.attempt {Subject Twin : Type} {Related : Subject → Twin → Prop}
    {run : Run A D (Attempt Subject Value)} {other : Run A E (Attempt Twin Value)}
    {next : Attempt Subject Value → Run A D Next} {following : Attempt Twin Value → Run A E Following}
    (first : Tallies (Attempt.Agree Related) run other)
    (rest : ∀ after twin result, Related after twin →
      Tallies Final (next ⟨after, result⟩) (following ⟨twin, result⟩)) :
    Tallies Final (run >>= next) (other >>= following) := by
  refine first.bind ?_
  rintro ⟨after, result⟩ ⟨twin, _⟩ ⟨related, rfl⟩
  exact rest after twin result related

/-- A call is the same whoever watches it. -/
theorem tallies_call (place : Place) (reply : A.State → Reply A.State Value)
    (describe : Value → Call A) :
    Tallies Eq (call place reply describe : Run A D Value)
      (call place reply describe : Run A E Value) := by
  rintro ⟨agent, _⟩ ⟨_, _⟩ rfl
  exact ⟨rfl, rfl, rfl⟩

/-- Silent runs call nothing, wherever they are. -/
theorem Silent.tallies (silent : run.Silent value) (quiet : other.Silent twin)
    (related : Related value twin) : Tallies Related run other := by
  intro stage counter same
  obtain ⟨rfl, kept, none⟩ := silent stage
  obtain ⟨rfl, left, nothing⟩ := quiet counter
  refine ⟨related, kept.trans (same.trans left.symm), ?_⟩
  rw [List.map_eq_nil_iff.1 none, List.map_eq_nil_iff.1 nothing]

end Run

/-- Contexts are abreast if they are parallel at the same place. -/
structure Context.Abreast (context : Context D) (counter : Context E) : Prop
    extends context.Parallel counter where
  place : context.place = counter.place

/-- The runs of one tree tally in contexts that differ in quiet sinks. -/
def tallies : Lockstep A D E where
  Matches := Run.Tallies
  Alike := Eq
  Tags tag other := other = tag
  Infos info other := other = info
  Meets := Context.Abreast
  pure := Run.tallies_pure
  bind := Run.Tallies.bind
  alike_iff := by
    rintro ⟨tag, body⟩ ⟨other, twin⟩
    rw [Node.mk.injEq, Body.corresponds_eq_iff, eq_comm]
  running same := by rw [same]
  returned same _ := by rw [same]
  infos same _ := by rw [same]
  child meets position :=
    ⟨⟨meets.clock, meets.left.child position, meets.right.child position⟩,
      congrArg (List.cons position) meets.place⟩
  clock meets := meets.clock
  clear := by
    rintro context twin _ tag _ rfl
    exact (tag.silent_clear _).tallies (tag.silent_clear _) rfl
  call := by
    intro context twin _ _ _ meets _
    rw [meets.place]
    exact Run.tallies_call _ _ _
  write _ _ _ := (Run.silent_write _ _).tallies (Run.silent_write _ _) rfl
  notify meets _ _ _ := (meets.left.silent_notify _).tallies (meets.right.silent_notify _) rfl
  enter meets _ := (meets.left.silent_enter _).tallies (meets.right.silent_enter _) rfl

/-- A quiet sink, or none, at the root of a tree. -/
theorem Context.abreast_of_quiet {sink counter : Option (Sink D)} (clock : Clock)
    (quiet : ∀ installed ∈ sink, installed.Quiet)
    (hushed : ∀ installed ∈ counter, installed.Quiet) :
    Context.Abreast (⟨clock, sink, Tree.rootPlace⟩ : Context D) ⟨clock, counter, Tree.rootPlace⟩ :=
  ⟨⟨rfl, quiet, hushed⟩, rfl⟩

/-- A tree is equipped with a sink, or with none. -/
def Tree.equip (tree : Tree A D) : Option (Sink D) → Tree A D
  | some sink => tree.setSink sink
  | none => tree.clearSink

/-- A planned sink is quiet if no panic is planned for it. -/
theorem Scenario.SinkPlan.quiet (plan : Scenario.SinkPlan) (calm : plan.panicOn = none) :
    ∀ sink ∈ plan.sink?, sink.Quiet := by
  obtain ⟨kind, _⟩ := plan
  cases calm
  cases kind with
  | absent => exact fun _ installed => nomatch installed
  | silent | recording | lines | breakpoints =>
      rintro _ ⟨⟩
      exact ⟨fun _ _ => rfl, fun _ => rfl⟩

/-- A lookout tells for each of a series of errands which sink is in place, and what has become of the
debugger since the errand before. -/
abbrev Lookout (D : Type) := Nat → Option (Sink D) × (D → D)

/-- A lookout is quiet if all of its sinks are. -/
def Lookout.Quiet (lookout : Lookout D) : Prop :=
  ∀ index, ∀ sink ∈ (lookout index).1, sink.Quiet

namespace Host

/-- A host runs an errand while a sink is in place. -/
def runWatched (sink : Option (Sink D)) :
    Host A D → Errand → Run A D (Attempt (Host A D) (Option Status))
  | .bare node, .tick clock => do
      let ticked ← node.tick ⟨clock, sink, Tree.rootPlace⟩
      pure ⟨.bare ticked.after, ticked.result.map some⟩
  | .bare node, errand => (Host.bare node).run errand
  | .planted tree, errand => (Host.planted (tree.equip sink)).run errand

/-- A host is driven by errands while a lookout watches it. Before each errand the application may
change the agent. -/
def driveWatched (lookout : Lookout D) (host : Host A D) :
    List ((A.State → A.State) × Errand) → Stage A D →
      List (Outcome A D (Attempt (Host A D) (Option Status)))
  | [], _ => []
  | (change, errand) :: rest, stage =>
      let (sink, adjust) := lookout 0
      let outcome := host.runWatched sink errand ⟨change stage.agent, adjust stage.debugger⟩
      outcome ::
        outcome.value.after.driveWatched (fun index => lookout (index + 1)) rest outcome.stage

/-- What a host is apart from its sink: its nodes, and the name, settings and frame of its tree. -/
def unwatched : Host A D → Host A D
  | .bare node => .bare node
  | .planted tree => .planted tree.clearSink

/-- Hosts are the same if they differ at most in their sinks. -/
def SameUnwatched (host twin : Host A D) : Prop := host.unwatched = twin.unwatched

end Host

namespace Tree

variable {name : String} {root : Node A} {settings : Settings} {frame : UInt64}
  {sink counter : Option (Sink D)}

/-- A tick is the same under any two quiet sinks. -/
theorem tallies_tick (quiet : ∀ installed ∈ sink, installed.Quiet)
    (hushed : ∀ installed ∈ counter, installed.Quiet) (deltaTime : Float32) :
    Run.Tallies (Attempt.Agree fun tree other => tree.clearSink = other.clearSink)
      (tick ⟨name, root, settings, frame, sink⟩ deltaTime)
      (tick (A := A) ⟨name, root, settings, frame, counter⟩ deltaTime) := by
  have abreast := Context.abreast_of_quiet ⟨settings.clamp deltaTime, frame⟩ quiet hushed
  refine (tallies.tick abreast (Eq.refl root)).attempt fun after _ result same => ?_
  cases same
  match result with
  | .error panic => exact Run.tallies_pure ⟨rfl, rfl⟩
  | .ok status =>
      refine ((Run.silent_write _ _).tallies (Run.silent_write _ _) (Eq.refl ())).bind fun _ _ _ => ?_
      dsimp only
      split
      · refine (tallies.reset abreast (Eq.refl after)).bind fun _ _ renewed => ?_
        cases renewed
        exact Run.tallies_pure ⟨rfl, rfl⟩
      · exact Run.tallies_pure ⟨rfl, rfl⟩

/-- An errand has the same outcome under any two quiet sinks. -/
theorem tallies_obey (quiet : ∀ installed ∈ sink, installed.Quiet)
    (hushed : ∀ installed ∈ counter, installed.Quiet) (errand : Errand) :
    Run.Tallies (Attempt.Agree fun tree other => tree.clearSink = other.clearSink)
      (obey ⟨name, root, settings, frame, sink⟩ errand.order)
      (obey (A := A) ⟨name, root, settings, frame, counter⟩ errand.order) := by
  have abreast := Context.abreast_of_quiet ⟨0, frame⟩ quiet hushed
  cases errand with
  | tick clock =>
      refine (tallies_tick quiet hushed clock.deltaTime).attempt fun _ _ _ ticked => ?_
      exact Run.tallies_pure ⟨ticked, rfl⟩
  | reset =>
      refine Run.Tallies.bind ?_ fun _ _ renewed => Run.tallies_pure ⟨renewed, rfl⟩
      refine (tallies.reset abreast (Eq.refl root)).bind fun _ _ renewed => ?_
      cases renewed
      exact Run.tallies_pure rfl
  | abort =>
      have stopped : Run.Tallies (Attempt.Agree fun tree other => tree.clearSink = other.clearSink)
          (abort ⟨name, root, settings, frame, sink⟩)
          (abort (A := A) ⟨name, root, settings, frame, counter⟩) := by
        refine (tallies.abortIn abreast (Eq.refl root)).attempt fun _ _ _ aborted => ?_
        cases aborted
        exact Run.tallies_pure ⟨rfl, rfl⟩
      exact stopped.attempt fun _ _ _ aborted => Run.tallies_pure ⟨aborted, rfl⟩

end Tree

namespace Host

variable {host twin : Host A D} {sink counter : Option (Sink D)}

/-- Hosts that differ in their sinks run an errand alike, whatever quiet sinks are put in place. -/
theorem tallies_run (same : host.SameUnwatched twin)
    (quiet : ∀ installed ∈ sink, installed.Quiet)
    (hushed : ∀ installed ∈ counter, installed.Quiet) (errand : Errand) :
    Run.Tallies (Attempt.Agree SameUnwatched) (host.runWatched sink errand)
      (twin.runWatched counter errand) := by
  match host, twin, same with
  | .bare node, .bare _, same =>
      cases same
      have abreast (clock : Clock) := Context.abreast_of_quiet clock quiet hushed
      cases errand with
      | tick clock =>
          refine (tallies.tick (abreast clock) (Eq.refl node)).attempt fun _ _ _ ticked => ?_
          cases ticked
          exact Run.tallies_pure ⟨rfl, rfl⟩
      | reset =>
          refine (tallies.reset (abreast .zero) (Eq.refl node)).bind fun _ _ renewed => ?_
          cases renewed
          exact Run.tallies_pure ⟨rfl, rfl⟩
      | abort =>
          dsimp only [runWatched, run]
          rw [Node.abort_eq_reset]
          refine (tallies.reset (abreast .zero) (Eq.refl node)).bind fun _ _ renewed => ?_
          cases renewed
          exact Run.tallies_pure ⟨rfl, rfl⟩
  | .planted ⟨name, root, settings, frame, _⟩, .planted ⟨_, _, _, _, _⟩, same =>
      cases same
      have equipped (sink : Option (Sink D)) (other : Option (Sink D)) :
          (⟨name, root, settings, frame, other⟩ : Tree A D).equip sink =
            ⟨name, root, settings, frame, sink⟩ := by
        cases sink <;> rfl
      dsimp only [runWatched]
      rw [equipped, equipped]
      refine (Tree.tallies_obey quiet hushed errand).attempt fun _ _ _ obeyed => ?_
      exact Run.tallies_pure ⟨congrArg Host.planted obeyed, rfl⟩

/-- A host is driven by the same errands twice, from the same state of its nodes and with the same
agent, while different sinks are in place, none of which panics. Each errand ends with the same result
both times, after the same calls with the same clocks at the same nodes, and leaves the same host but
for its sink. -/
theorem sinks_only_observe {first second : Lookout D} (quiet : first.Quiet)
    (hushed : second.Quiet) {host twin : Host A D} (same : host.unwatched = twin.unwatched)
    (moves : List ((A.State → A.State) × Errand)) {stage counter : Stage A D}
    (agents : stage.agent = counter.agent) :
    List.Forall₂
      (Outcome.Tallies (Attempt.Agree fun host twin => host.unwatched = twin.unwatched))
      (host.driveWatched first moves stage) (twin.driveWatched second moves counter) := by
  induction moves generalizing first second host twin stage counter with
  | nil => exact .nil
  | cons move rest inductionHypothesis =>
      obtain ⟨change, errand⟩ := move
      have tallied := tallies_run same (quiet 0) (hushed 0) errand
        ⟨change stage.agent, (first 0).2 stage.debugger⟩
        ⟨change counter.agent, (second 0).2 counter.debugger⟩ (congrArg change agents)
      exact .cons tallied (inductionHypothesis (fun index => quiet (index + 1))
        (fun index => hushed (index + 1)) tallied.value.after tallied.agent)

/-- The sample root in a tree whose sinks may look up breakpoints. -/
def observable : Tree Sample.agent Breakpoints :=
  ⟨"main", (Sample.root.number.run 0).1, Settings.standard, 0, none⟩

/-- The application ticks with the flag up, aborts, and ticks with the flag down. -/
def observedMoves : List ((Bool → Bool) × Errand) :=
  [(fun _ => true, .tick .zero), (id, .abort), (fun _ => false, .tick .zero)]

/-- Nobody watches. -/
def unmanned : Lookout Breakpoints := fun _ => (none, id)

/-- A debugger pauses the first tick before the root, and its successor records the rest. -/
def relieved : Lookout Breakpoints
  | 0 => (Scenario.SinkPlan.sink? ⟨.breakpoints, none⟩, fun debugger => debugger.mark ⟨0⟩)
  | _ => (some .recording, id)

/-- A move from one sink to another changes no outcome of the sample. -/
theorem sinks_only_observe_in_sample :
    List.Forall₂
      (Outcome.Tallies (Attempt.Agree fun host twin => host.unwatched = twin.unwatched))
      ((planted observable).driveWatched unmanned observedMoves ⟨true, .empty⟩)
      ((planted observable).driveWatched relieved observedMoves ⟨true, .empty⟩) := by
  have absent : unmanned.Quiet := fun _ _ installed => nomatch installed
  have present : relieved.Quiet := by
    rintro (_ | _) sink installed
    · exact Scenario.SinkPlan.quiet ⟨.breakpoints, none⟩ rfl sink installed
    · obtain rfl := Option.some.inj installed
      exact Scenario.SinkPlan.quiet ⟨.recording, none⟩ rfl _ rfl
  exact sinks_only_observe (A := Sample.agent) absent present rfl observedMoves rfl

end Host

end Behavior
