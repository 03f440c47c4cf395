import Behavior.Proofs.Idle.Suspension
import Behavior.Proofs.Twin.Ticking

namespace Behavior

variable {A : Agent} {D : Type}

/-- A status that is not running may be forgotten. -/
theorem Fades.forget {last other : Option Status} (fades : Fades last other)
    (idle : last ≠ some .running) : Fades none other := by
  cases fades with
  | same =>
      cases last with
      | none => exact .same none
      | some status => exact .forgotten status fun running => idle (by rw [running])
  | forgotten status finished => exact .forgotten status finished

/-- A finished status may be forgotten unseen. -/
theorem Tag.coupled_forget {tag other : Tag} (tags : tag.Alike other)
    (idle : tag.last ≠ some .running) (place : Place) :
    Run.Coupled Tag.Alike (tag.clear place : Run A D Tag) (pure other) := by
  intro stage
  have cleared : tag.idle.Alike other := ⟨tags.id, tags.label, tags.last.forget idle⟩
  have unseen := unseen_clear (A := A) tag place stage
  exact ⟨by rw [clear_value]; exact cleared, unseen.1, unseen.2⟩

namespace Node

variable {node twin : Node A}

/-- The reset of a node at rest is not seen, and the node stays like its twin. -/
theorem coupled_forget (rests : node.Everywhere Rests) (alike : node.Alike twin) (place : Place) :
    Run.Coupled Alike (node.reset place : Run A D (Node A)) (pure twin) := by
  induction node using Node.induction generalizing twin place with
  | step tag body inductionHypothesis =>
      cases alike with
      | @alike _ other _ twinBody tags bodies =>
          obtain ⟨idle, settled⟩ := rests.here
          have rested : body.rested = body := (Body.settled_iff body).1 settled
          have cancelled : (body.cancel place : Run A D (Body A (Node A))) = pure body := by
            rw [← rested, Body.cancel_rested]
          have forgotten : body.forget = body := by
            rw [← rested, Body.forget_rested]
          have kept : (pure ⟨other, twinBody⟩ : Run A D (Node A)) = (do
              let tag ← pure other
              let body ← twinBody.visit fun _ child => pure child
              pure ⟨tag, body⟩) := by
            rw [Body.visit_unmoved fun _ _ _ => rfl, pure_bind, pure_bind]
          rw [reset_eq, kept, cancelled]
          refine (Tag.coupled_forget tags idle place).bind fun _ _ tags => ?_
          rw [pure_bind, forgotten]
          refine (twins.visit bodies ?_).bind fun _ _ cleared =>
            Run.coupled_pure (.alike tags cleared)
          intro child member other alike position
          exact inductionHypothesis child member (rests.child member) alike (position :: place)

/-- A coherent attempt leaves a node at rest if it has finished. -/
def RestsWhenFinished (attempt : Attempt (Node A) Status) : Prop :=
  ∀ status, attempt.result = .ok status → status ≠ .running → attempt.after.Everywhere Rests

/-- A supervised node that has finished is at rest. -/
theorem restsWhenFinished_of_tick (supervised : node.Supervised)
    (coherent : node.Everywhere Coherent) (context : Context D) (stage : Stage A D) :
    RestsWhenFinished (node.tick context stage).value := by
  intro status returned finished
  have ticks := Run.leads_self (node.tick context) stage
  generalize (node.tick context stage).value = ticked at returned ticks ⊢
  obtain ⟨after, _⟩ := ticked
  cases returned
  exact rests_of_tick ticks supervised coherent finished

end Node

/-- Trees are alike if only the first resets when it has finished, and if their roots are alike. -/
structure Tree.Alike (tree other : Tree A D) : Prop where
  name : tree.name = other.name
  frame : tree.frame = other.frame
  sink : tree.sink = other.sink
  resets : tree.settings.resetOnComplete = true
  settings : other.settings = { tree.settings with resetOnComplete := false }
  root : tree.root.Alike other.root

namespace Tree

variable {tree other : Tree A D}

/-- The tick of a coherent tree does not show whether the tree resets when its root has finished. -/
theorem coupled_tick (alike : tree.Alike other) (supervised : tree.root.Supervised)
    (coherent : tree.root.Everywhere Node.Coherent) (deltaTime : Float32) :
    Run.Coupled (Attempt.Agree Alike) (tree.tick deltaTime) (other.tick deltaTime) := by
  obtain ⟨name, root, settings, frame, sink⟩ := tree
  obtain ⟨_, twin, _, _, _⟩ := other
  obtain ⟨rfl, rfl, rfl, resets, rfl, roots⟩ := alike
  have ticking := (Node.coupled_tick roots
    ⟨⟨settings.clamp deltaTime, frame⟩, sink, rootPlace⟩).known
      (Node.restsWhenFinished_of_tick supervised coherent _)
  refine ticking.bind ?_
  rintro ⟨root, result⟩ ⟨twin, _⟩ ⟨rests, roots, rfl⟩
  match result with
  | .error panic => exact Run.coupled_attempt ⟨rfl, rfl, rfl, resets, rfl, roots⟩
  | .ok status =>
      refine Run.coupled_bind_self fun _ => ?_
      have spared : ¬ (status ≠ .running ∧ false = true) := fun both => Bool.false_ne_true both.2
      dsimp only
      rw [if_neg spared]
      split
      case isFalse => exact Run.coupled_attempt ⟨rfl, rfl, rfl, resets, rfl, roots⟩
      case isTrue completed =>
        refine (Node.coupled_forget (rests status rfl completed.1) roots rootPlace).absorb ?_
        exact fun _ roots => Run.coupled_attempt ⟨rfl, rfl, rfl, resets, rfl, roots⟩

/-- Alike trees obey every order alike. -/
theorem coupled_obey (alike : tree.Alike other) (supervised : tree.root.Supervised)
    (coherent : tree.root.Everywhere Node.Coherent) (order : Order D) :
    Run.Coupled (Attempt.Agree Alike) (tree.obey order) (other.obey order) := by
  cases order with
  | tick deltaTime =>
      refine (coupled_tick alike supervised coherent deltaTime).attempt fun _ _ _ ticked => ?_
      exact Run.coupled_attempt ticked
  | reset =>
      refine Run.Coupled.bind ?_ fun _ _ renewed => Run.coupled_attempt renewed
      exact (Node.coupled_reset alike.root rootPlace).bind fun _ _ roots =>
        Run.coupled_pure { alike with root := roots }
  | abort =>
      have context : tree.context 0 = other.context 0 := by
        unfold Tree.context
        rw [alike.frame, alike.sink]
      refine Run.Coupled.attempt ?_ fun _ _ _ aborted => Run.coupled_attempt aborted
      unfold Tree.abort
      rw [context]
      exact (Node.coupled_abortIn alike.root _).attempt fun _ _ _ roots =>
        Run.coupled_attempt { alike with root := roots }
  | setSink sink => exact Run.coupled_attempt { alike with sink := rfl }
  | clearSink => exact Run.coupled_attempt { alike with sink := rfl }

/-- A tree is driven by orders. Before each of them the application may change the agent and the
debugger. -/
def drive (tree : Tree A D) :
    List ((Stage A D → Stage A D) × Order D) → Stage A D →
      List (Outcome A D (Attempt (Tree A D) (Option Status)))
  | [], _ => []
  | (change, order) :: rest, stage =>
      let outcome := tree.obey order (change stage)
      outcome :: outcome.value.after.drive rest outcome.stage

/-- Alike trees are driven alike as long as nothing panics. -/
theorem drive_alike {moves : List ((Stage A D → Stage A D) × Order D)} {stage : Stage A D}
    (alike : tree.Alike other) (supervised : tree.root.Supervised)
    (coherent : tree.root.Everywhere Node.Coherent)
    (calm : ∀ outcome ∈ tree.drive moves stage, Host.Calm outcome.value.result) :
    List.Forall₂ (Outcome.Agree (Attempt.Agree Alike)) (tree.drive moves stage)
      (other.drive moves stage) := by
  induction moves generalizing tree other stage with
  | nil => exact .nil
  | cons move rest inductionHypothesis =>
      obtain ⟨change, order⟩ := move
      obtain ⟨here, below⟩ := List.forall_mem_cons.1 calm
      have agree := coupled_obey alike supervised coherent order (change stage)
      have steps : Host.RootSteps D (fun child => child.Built ∧ child.Supervised) tree.root _ _ _ :=
        Host.rootSteps_of_obey (Run.leads_self (tree.obey order) (change stage))
      obtain ⟨supervised, coherent⟩ := steps.coherent here supervised coherent
      have continued := inductionHypothesis agree.value.after supervised coherent below
      rw [drive, drive]
      refine .cons agree ?_
      rwa [← agree.stage]

/-- Of two trees that are built from the same root, without dangling nodes, only one resets when its
root has finished. Whatever both are asked to do, as long as nothing panics, they give the same
results, leave the same stages and visible traces, and differ at most in finished statuses that the
one has forgotten. -/
theorem completion_unobserved {root : Node A} {settings : Settings} {before middle ready : Stage A D}
    {first second : Trace A} {moves : List ((Stage A D → Stage A D) × Order D)} {stage : Stage A D}
    (built : root.Built) (supervised : root.Supervised)
    (builds : (build root { settings with resetOnComplete := true }).Leads before first (.ok tree)
      middle)
    (rebuilds : (build root { settings with resetOnComplete := false }).Leads before second
      (.ok other) ready)
    (calm : ∀ outcome ∈ tree.drive moves stage, Host.Calm outcome.value.result) :
    tree.Alike other ∧ List.Forall₂ (Outcome.Agree (Attempt.Agree Alike)) (tree.drive moves stage)
      (other.drive moves stage) := by
  obtain rfl := eq_of_build builds
  obtain rfl := eq_of_build rebuilds
  have same := root.unnumbered_number 0
  have coherent := Node.coherent_of_unnumbered same (Node.coherent_of_rests built.rests)
  refine ⟨?alike, drive_alike ?alike (supervised.of_unnumbered same) coherent calm⟩
  exact {
    name := rfl
    frame := rfl
    sink := rfl
    resets := rfl
    settings := rfl
    root := Node.alike_self _ }

/-- The sample root in a tree that resets when it has finished, or not. -/
def sample (resetOnComplete : Bool) : Tree Sample.agent Unit :=
  ⟨"main", (Sample.root.number.run 0).1, { Settings.standard with resetOnComplete }, 0, none⟩

/-- The sample is ticked with the flag up and then with the flag down. -/
def sampleMoves : List ((Stage Sample.agent Unit → Stage Sample.agent Unit) × Order Unit) :=
  [(fun _ => ⟨true, ()⟩, .tick 0), (fun _ => ⟨false, ()⟩, .tick 0)]

/-- The sample is built with either setting. -/
theorem builds_sample (resetOnComplete : Bool) (stage : Stage Sample.agent Unit) :
    ∃ trace, (build Sample.root { Settings.standard with resetOnComplete }).Leads stage trace
      (.ok (sample resetOnComplete)) stage :=
  ⟨_, rfl⟩

/-- Nobody sees on the sample whether it resets when it has finished. -/
theorem completion_unobserved_in_sample : (sample true).Alike (sample false) ∧
    List.Forall₂ (Outcome.Agree (Attempt.Agree Alike)) ((sample true).drive sampleMoves ⟨true, ()⟩)
      ((sample false).drive sampleMoves ⟨true, ()⟩) := by
  obtain ⟨_, builds⟩ := builds_sample true ⟨true, ()⟩
  obtain ⟨_, rebuilds⟩ := builds_sample false ⟨true, ()⟩
  refine completion_unobserved Sample.built Sample.supervised builds rebuilds ?_
  intro outcome member
  rcases List.mem_cons.1 member with rfl | member
  · exact ⟨some .running, rfl⟩
  · rw [List.mem_singleton.1 member]
    exact ⟨some .failure, rfl⟩

end Tree

end Behavior
