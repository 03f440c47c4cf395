import Behavior.Proofs.Echo.Echoing
import Behavior.Proofs.History

namespace Behavior

variable {A : Agent} {D E : Type}

/-- An errand is one use of a host without a sink. A tree keeps its own count of frames. -/
inductive Errand where
  | tick (clock : Clock)
  | reset
  | abort

def Errand.order : Errand → Order D
  | tick clock => .tick clock.deltaTime
  | reset => .reset
  | abort => .abort

namespace Host

/-- A host runs an errand. Only a tick gives a status. -/
def run : Host A D → Errand → Run A D (Attempt (Host A D) (Option Status))
  | .bare node, .tick clock => do
      let ticked ← node.tick ⟨clock, none, Tree.rootPlace⟩
      pure ⟨.bare ticked.after, ticked.result.map some⟩
  | .bare node, .reset => do
      let node ← node.reset Tree.rootPlace
      pure ⟨.bare node, .ok none⟩
  | .bare node, .abort => do
      let node ← node.abort Tree.rootPlace
      pure ⟨.bare node, .ok none⟩
  | .planted tree, errand => do
      let obeyed ← tree.obey errand.order
      pure ⟨.planted obeyed.after, obeyed.result⟩

/-- A host is driven by errands. Before each of them the application may change the agent. -/
def drive (host : Host A D) :
    List ((A.State → A.State) × Errand) → Stage A D →
      List (Outcome A D (Attempt (Host A D) (Option Status)))
  | [], _ => []
  | (change, errand) :: rest, stage =>
      let outcome := host.run errand { stage with agent := change stage.agent }
      outcome :: outcome.value.after.drive rest outcome.stage

end Host

/-- Attempts accord if they have the same result and leave related subjects, which a panic may have
torn apart. -/
inductive Attempt.Accords {Subject Other Value : Type} (Related Torn : Subject → Other → Prop) :
    Attempt Subject Value → Attempt Other Value → Prop
  | returned {after : Subject} {twin : Other} (value : Value) (related : Related after twin) :
      Accords Related Torn ⟨after, .ok value⟩ ⟨twin, .ok value⟩
  | unwound {after : Subject} {twin : Other} (panic : Panic) (torn : Torn after twin) :
      Accords Related Torn ⟨after, .error panic⟩ ⟨twin, .error panic⟩

/-- Attempts that tear nothing apart agree. -/
theorem Attempt.accords_self {Subject Other Value : Type} {Related : Subject → Other → Prop}
    {first : Attempt Subject Value} {second : Attempt Other Value} :
    first.Accords Related Related second ↔ first.Agree Related second := by
  constructor
  · rintro (⟨_, related⟩ | ⟨_, related⟩)
    · exact ⟨related, rfl⟩
    · exact ⟨related, rfl⟩
  · obtain ⟨after, result⟩ := first
    obtain ⟨twin, _⟩ := second
    rintro ⟨related, rfl⟩
    cases result with
    | error panic => exact .unwound panic related
    | ok value => exact .returned value related

/-- Nothing has torn attempts apart that return. -/
theorem Attempt.Accords.of_returns {Subject Other Value : Type} {Related Torn : Subject → Other → Prop}
    {first : Attempt Subject Value} {second : Attempt Other Value} {value : Value}
    (accords : first.Accords Related Torn second) (returns : first.result = .ok value) :
    first.Accords Related Related second := by
  cases accords with
  | returned value related => exact .returned value related
  | unwound => cases returns

/-- What accordant attempts leave and give may be wrapped alike. -/
theorem Attempt.Accords.map {Subject Other Changed Twin Value Given : Type}
    {Related Torn : Subject → Other → Prop} {Final Broken : Changed → Twin → Prop}
    {first : Attempt Subject Value} {second : Attempt Other Value} {wrap : Subject → Changed}
    {cover : Other → Twin} (accords : first.Accords Related Torn second)
    (related : ∀ {after twin}, Related after twin → Final (wrap after) (cover twin))
    (torn : ∀ {after twin}, Torn after twin → Broken (wrap after) (cover twin))
    (give : Value → Given) :
    Accords Final Broken ⟨wrap first.after, first.result.map give⟩
      ⟨cover second.after, second.result.map give⟩ := by
  cases accords with
  | returned value here => exact .returned (give value) (related here)
  | unwound panic here => exact .unwound panic (torn here)

/-- An outcome returns if no panic has cut its attempt short. -/
def Outcome.Returns {Subject Value : Type} (outcome : Outcome A D (Attempt Subject Value)) : Prop :=
  ∃ value, outcome.value.result = .ok value

/-- Outcomes with these results all return. -/
theorem Outcome.forall_returns {Subject Value : Type}
    {outcomes : List (Outcome A D (Attempt Subject Value))} (values : List Value)
    (results : outcomes.map (fun outcome => outcome.value.result) = values.map .ok) :
    ∀ outcome ∈ outcomes, outcome.Returns := by
  intro outcome member
  have given := List.mem_map_of_mem (f := fun outcome => outcome.value.result) member
  rw [results, List.mem_map] at given
  obtain ⟨value, _, same⟩ := given
  exact ⟨value, same.symm⟩

namespace Node

/-- A simulation relates nodes whose ticks and resets echo each other and keep them related. -/
structure Simulation (D E : Type) (Related : Node A → Node A → Prop) : Prop where
  tick : ∀ {node twin : Node A} {context : Context D} {counter : Context E}, Related node twin →
    context.Parallel counter →
      Run.Echoes (Attempt.Agree Related) (node.tick context) (twin.tick counter)
  reset : ∀ {node twin : Node A}, Related node twin →
    Run.Echoes Related (node.reset Tree.rootPlace : Run A D (Node A))
      (twin.reset Tree.rootPlace : Run A E (Node A))

/-- A calm simulation keeps nodes related as long as nothing panics. -/
structure CalmSimulation (D E : Type) (Related Torn : Node A → Node A → Prop) : Prop where
  tick : ∀ {node twin : Node A} {context : Context D} {counter : Context E}, Related node twin →
    context.Parallel counter →
      Run.Echoes (Attempt.Accords Related Torn) (node.tick context) (twin.tick counter)
  reset : ∀ {node twin : Node A}, Related node twin →
    Run.Echoes Related (node.reset Tree.rootPlace : Run A D (Node A))
      (twin.reset Tree.rootPlace : Run A E (Node A))

/-- What no panic tears apart is calm. -/
theorem Simulation.calm {Related : Node A → Node A → Prop} (simulation : Simulation D E Related) :
    CalmSimulation D E Related Related where
  tick related parallel :=
    (simulation.tick related parallel).imp fun _ _ agree => Attempt.accords_self.2 agree
  reset := simulation.reset

end Node

/-- Trees match if their roots are related and they tick and reset them alike. -/
structure Tree.Matches (Related : Node A → Node A → Prop) (tree : Tree A D) (other : Tree A E) :
    Prop where
  root : Related tree.root other.root
  settings : tree.settings = other.settings
  parallel : ∀ deltaTime, (tree.context deltaTime).Parallel (other.context deltaTime)

/-- Hosts match if both are nodes or trees, with related roots. -/
inductive Host.Matches (Related : Node A → Node A → Prop) : Host A D → Host A E → Prop
  | bare {node twin : Node A} (related : Related node twin) :
      Matches Related (.bare node) (.bare twin)
  | planted {tree : Tree A D} {other : Tree A E} (trees : tree.Matches Related other) :
      Matches Related (.planted tree) (.planted other)

/-- Hosts that match have roots that are related. -/
theorem Host.Matches.roots {Related : Node A → Node A → Prop} {host : Host A D} {twin : Host A E}
    (hosts : host.Matches Related twin) : Related host.root twin.root := by
  cases hosts with
  | bare related => exact related
  | planted trees => exact trees.root

namespace Tree

variable {Related Torn : Node A → Node A → Prop} {tree : Tree A D} {other : Tree A E}

/-- Trees that are built with the same settings match without their sinks if their roots are related. -/
theorem matches_of_build {node twin : Node A} {settings : Settings} {before middle : Stage A D}
    {counter ready : Stage A E} {first second : Trace A}
    (builds : (build node settings).Leads before first (.ok tree) middle)
    (rebuilds : (build twin settings).Leads counter second (.ok other) ready)
    (related : Related (node.number.run 0).1 (twin.number.run 0).1) :
    tree.clearSink.Matches Related other.clearSink := by
  obtain rfl := eq_of_build builds
  obtain rfl := eq_of_build rebuilds
  exact ⟨related, rfl, fun _ => ⟨rfl, nofun, nofun⟩⟩

/-- A simulation of nodes carries ticks of a tree over to those of another. -/
theorem echoes_tick (simulation : Node.CalmSimulation D E Related Torn)
    (trees : tree.Matches Related other) (deltaTime : Float32) :
    Run.Echoes (Attempt.Accords (Matches Related) (Matches Torn)) (tree.tick deltaTime)
      (other.tick deltaTime) := by
  obtain ⟨_, root, _, frame, sink⟩ := tree
  obtain ⟨_, twin, _, count, counterSink⟩ := other
  obtain ⟨related, rfl, parallel⟩ := trees
  have harmless := parallel 0
  obtain rfl : frame = count := congrArg Clock.frame harmless.clock
  have next (frame : UInt64) (deltaTime : Float32) :
      Context.Parallel (⟨⟨deltaTime, frame⟩, sink, rootPlace⟩ : Context D)
        (⟨⟨deltaTime, frame⟩, counterSink, rootPlace⟩ : Context E) :=
    ⟨rfl, harmless.left, harmless.right⟩
  refine (simulation.tick related (parallel _)).bind ?_
  intro _ _ ticked
  cases ticked with
  | unwound panic torn => exact Run.echoes_pure (.unwound panic ⟨torn, rfl, parallel⟩)
  | returned status roots =>
      refine (Run.silent_write _ _).left ((Run.silent_write _ _).right ?_)
      dsimp only
      split
      · refine (simulation.reset roots).bind fun _ _ renewed => ?_
        exact Run.echoes_pure (.returned status ⟨renewed, rfl, next _⟩)
      · exact Run.echoes_pure (.returned status ⟨roots, rfl, next _⟩)

/-- A simulation of nodes carries resets of a tree over to those of another. -/
theorem echoes_reset (simulation : Node.CalmSimulation D E Related Torn)
    (trees : tree.Matches Related other) :
    Run.Echoes (Matches Related) tree.reset other.reset :=
  (simulation.reset trees.root).bind fun _ _ renewed =>
    Run.echoes_pure { trees with root := renewed }

/-- An abort resets both roots, and no sink panics when it is told so. -/
theorem echoes_abort (simulation : Node.CalmSimulation D E Related Torn)
    (trees : tree.Matches Related other) :
    Run.Echoes (Attempt.Accords (Matches Related) (Matches Torn)) tree.abort other.abort := by
  have harmless := trees.parallel 0
  unfold abort Node.abortIn
  rw [bind_assoc, bind_assoc]
  refine (Node.silent_reportAbort harmless.left tree.root).left ?_
  refine (Node.silent_reportAbort harmless.right other.root).right ?_
  simp only [Node.abort_eq_reset, bind_assoc, pure_bind]
  refine (simulation.reset trees.root).bind fun _ _ renewed => ?_
  exact Run.echoes_pure (.returned () { trees with root := renewed })

/-- A simulation of nodes lets both trees answer an errand alike. -/
theorem echoes_obey (simulation : Node.CalmSimulation D E Related Torn)
    (trees : tree.Matches Related other) (errand : Errand) :
    Run.Echoes (Attempt.Accords (Matches Related) (Matches Torn)) (tree.obey errand.order)
      (other.obey errand.order) := by
  cases errand with
  | tick clock =>
      refine (echoes_tick simulation trees _).bind fun _ _ ticked => ?_
      exact Run.echoes_pure (ticked.map id id some)
  | reset =>
      refine (echoes_reset simulation trees).bind fun _ _ renewed => ?_
      exact Run.echoes_pure (.returned none renewed)
  | abort =>
      refine (echoes_abort simulation trees).bind fun _ _ aborted => ?_
      exact Run.echoes_pure (aborted.map id id fun _ => none)

end Tree

namespace Host

variable {Related Torn : Node A → Node A → Prop} {host : Host A D} {twin : Host A E}
  {moves : List ((A.State → A.State) × Errand)} {stage : Stage A D} {counter : Stage A E}

/-- Hosts that match run every errand alike. -/
theorem echoes_run (simulation : Node.CalmSimulation D E Related Torn)
    (hosts : host.Matches Related twin) (errand : Errand) :
    Run.Echoes (Attempt.Accords (Matches Related) (Matches Torn)) (host.run errand)
      (twin.run errand) := by
  cases hosts with
  | bare related =>
      cases errand with
      | tick clock =>
          have parallel : Context.Parallel (⟨clock, none, Tree.rootPlace⟩ : Context D)
              (⟨clock, none, Tree.rootPlace⟩ : Context E) := ⟨rfl, nofun, nofun⟩
          refine (simulation.tick related parallel).bind fun _ _ ticked => ?_
          exact Run.echoes_pure (ticked.map .bare .bare some)
      | reset =>
          exact (simulation.reset related).bind fun _ _ renewed =>
            Run.echoes_pure (.returned none (.bare renewed))
      | abort =>
          dsimp only [run]
          rw [Node.abort_eq_reset, Node.abort_eq_reset]
          exact (simulation.reset related).bind fun _ _ renewed =>
            Run.echoes_pure (.returned none (.bare renewed))
  | planted trees =>
      refine (Tree.echoes_obey simulation trees errand).bind fun _ _ obeyed => ?_
      cases obeyed with
      | returned status kept => exact Run.echoes_pure (.returned status (.planted kept))
      | unwound panic torn => exact Run.echoes_pure (.unwound panic (.planted torn))

/-- Hosts that match are driven alike as long as no panic tears them apart. -/
theorem drive_accords (simulation : Node.CalmSimulation D E Related Torn)
    (hosts : host.Matches Related twin) (same : stage.agent = counter.agent)
    (whole : ∀ outcome ∈ host.drive moves stage, outcome.Returns ∨ Torn = Related) :
    List.Forall₂ (Outcome.Echoes (Attempt.Agree (Matches Related))) (host.drive moves stage)
      (twin.drive moves counter) := by
  induction moves generalizing host twin stage counter with
  | nil => exact .nil
  | cons move rest inductionHypothesis =>
      obtain ⟨change, errand⟩ := move
      obtain ⟨here, below⟩ := List.forall_mem_cons.1 whole
      have echoes := echoes_run simulation hosts errand { stage with agent := change stage.agent }
        { counter with agent := change counter.agent } (congrArg change same)
      have accords := echoes.value
      have agree := Attempt.accords_self.1 <| show Attempt.Accords (Matches Related) _ _ _ by
        rcases here with ⟨status, returns⟩ | rfl
        · exact accords.of_returns returns
        · exact accords
      exact .cons ⟨agree, echoes.agent, echoes.made⟩
        (inductionHypothesis agree.after echoes.agent below)

/-- Hosts that match echo each other for as long as they are driven. -/
theorem drive_echoes (simulation : Node.Simulation D E Related) (hosts : host.Matches Related twin)
    (same : stage.agent = counter.agent) :
    List.Forall₂ (Outcome.Echoes (Attempt.Agree (Matches Related))) (host.drive moves stage)
      (twin.drive moves counter) :=
  drive_accords simulation.calm hosts same fun _ _ => .inr rfl

end Host

end Behavior
