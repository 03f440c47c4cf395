import Behavior.Proofs.Parallel.Tally
import Behavior.Proofs.Report.Exactness

namespace Behavior

variable {A : Agent} {D : Type}

namespace Node

variable {context : Context D} {place : Place} {start node changed : Node A} {touch : Touch}
  {before after : Stage A D} {past trace : Trace A} {status : Status} {policy : Policy}
  {outcomes : List (Option Status)} {nodes : List (Node A)}

/-- A tick of a parallel node advances its children, and aborts those without an outcome if it
finishes. Each child evolves through its own share of both. -/
structure Advances (policy : Policy) (outcomes : List (Option Status)) (nodes : List (Node A))
    (context : Context D) (trace : Trace A) (status : Status) (changed : Node A)
    (advancing finalizing : List (Nat × Touch)) (later : List (Option Status)) : Prop where
  advances : Composite.Advances 0 (Composite.padded outcomes nodes.length) advancing later (.ok ())
  decides : status = .running ∧ Composite.verdictOn policy nodes.length later = none ∧
      finalizing = [] ∧ changed.body = .composite (.parallel policy later) changed.children ∨
    status ≠ .running ∧ Composite.verdictOn policy nodes.length later = some status ∧
      (∃ last, Composite.Finalizes 0 later finalizing last (.ok ())) ∧
      changed.body = .composite (.parallel policy []) changed.children
  entered : trace.entrances context.place = tickedOf advancing
  evolves : ∀ (position : Nat) (child : Node A), nodes[position]? = some child →
    ∃ final, changed.children[position]? = some final ∧
      child.Evolves (context.child position)
        (touchesOf position advancing ++ touchesOf position finalizing)
        (trace.within (position :: context.place)) final
  returns : ∀ position < nodes.length, trace.returnsAt (position :: context.place) =
    (touchesOf position advancing).filterMap Touch.returned?
  absent : ∀ position, nodes.length ≤ position → trace.returnsAt (position :: context.place) = []

/-- A parallel node that returns from a tick has advanced. -/
theorem advances_of_tick (shape : node.body = .composite (.parallel policy outcomes) nodes)
    (ticks : (node.tick context).Leads before trace ⟨changed, .ok status⟩ after) :
    ∃ advancing finalizing later,
      Advances policy outcomes nodes context trace status changed advancing finalizing later := by
  obtain ⟨_, touches, plays, entered, evolves⟩ := plays_of_tick ticks fun leaf alone => by
    rw [shape] at alone
    cases alone
  have listed : node.children = nodes := congrArg Body.children shape
  have absent (position : Nat) (beyond : nodes.length ≤ position) :
      trace.returnsAt (position :: context.place) = [] := by
    have outside : node.children.length ≤ position := by rwa [listed]
    have nothing := (Undergoes.ticked ticks).within_absent outside
    rw [← Trace.returnsAt_within (List.suffix_refl _), nothing]
    rfl
  rw [listed] at evolves
  rw [shape] at plays
  generalize final : changed.body = body at plays
  cases plays with
  | composite plays kept =>
  cases plays with
  | parallel concurs =>
  obtain ⟨advancing, finalizing, later, rfl, advances, decides⟩ := concurs.advanced
  have unticked : tickedOf finalizing = [] := by
    rcases decides with ⟨_, _, rfl, _⟩ | ⟨_, _, ⟨_, finalizes⟩, _⟩
    · rfl
    · exact finalizes.unticked
  refine ⟨advancing, finalizing, later, advances, ?_, ?_, fun position child present => ?_,
    fun position inside => ?_, absent⟩
  · rw [children, final]
    rcases decides with ⟨running, undecided, spared, rfl⟩ | ⟨finished, decided, finalizes, rfl⟩
    · exact .inl ⟨running, undecided, spared, rfl⟩
    · exact .inr ⟨finished, decided, finalizes, rfl⟩
  · rw [entered, tickedOf_append, unticked, List.append_nil]
  · obtain ⟨last, taken, evolves, _⟩ := evolves position child present
    rw [touchesOf_append] at evolves
    exact ⟨last, taken, evolves⟩
  · obtain ⟨_, _, _, returns⟩ := evolves position _ (List.getElem?_eq_getElem inside)
    rw [returns, touchesOf_append, List.filterMap_append, returned_of_unticked unticked,
      List.append_nil]

/-- A parallel node remembers what agrees with its current run. -/
def Remembers (place : Place) (node : Node A) (run : Trace A) : Prop :=
  ∀ policy outcomes nodes, node.body = .composite (.parallel policy outcomes) nodes →
    Composite.Agree place outcomes run

/-- A node that has been cleared remembers nothing, which agrees with a run without returns. -/
theorem remembers_of_settled {run : Trace A} (settled : node.body.Settled)
    (silent : ∀ position, run.returnsAt (position :: place) = []) : node.Remembers place run := by
  intro policy outcomes nodes shape position status
  rw [shape] at settled
  obtain rfl : outcomes = [] := settled
  rw [silent]
  simp

/-- A reset and a calm abort let no node return. -/
theorem Undergoes.unreturned (undergoes : node.Undergoes context touch before trace changed after)
    (clears : touch = .reset ∨ touch = .aborted (.ok ())) (place : Place) :
    trace.returnsAt place = [] := by
  have unticked : Unticked (trace.signsAt place) := by
    rcases clears with rfl | rfl
    · exact (clears_of_reset undergoes place).unticked
    · exact unticked_of_abort undergoes place
  exact List.eq_nil_iff_forall_not_mem.2 fun status member =>
    unticked.2 status (Trace.mem_returnsAt.1 member)

/-- A node that has a status ends its run when it is reset or aborted. -/
theorem Undergoes.endsRun (undergoes : node.Undergoes context touch before trace changed after)
    (clears : touch = .reset ∨ touch = .aborted (.ok ())) (known : node.last ≠ none) :
    trace.EndsRun context.place := by
  have cleared {trace : Trace A} (resets : node.Resets context trace) :
      .cleared ∈ trace.signsAt context.place := by
    rw [resets.signsAt, if_pos (Option.isSome_iff_ne_none.2 known)]
    exact List.mem_singleton_self _
  refine ⟨.cleared, ?_, trivial⟩
  cases undergoes with
  | ticked => simp at clears
  | reset resets => exact cleared (resets_of_reset resets)
  | aborted aborts =>
      obtain rfl : _ = Except.ok () := by simpa using clears
      cases abortsIn_of_abortIn aborts with
      | silent _ resets => exact cleared (resets_of_reset resets)
      | reported _ tells resets =>
          rw [Trace.signsAt_cons_output, Trace.signsAt_append]
          exact List.mem_append_right _ (cleared (resets_of_reset resets))

/-- A tick that returns ends the run of the node if it finishes. -/
theorem endsRun_of_tick (ticks : (node.tick context).Leads before trace ⟨changed, .ok status⟩ after) :
    trace.EndsRun context.place ↔ status ≠ .running := by
  rw [Trace.EndsRun, signsAt_of_tick ticks]
  simp [Sign.EndsRun]

/-- Nothing returns in the current run once a tick has finished. -/
theorem currentRun_of_finished
    (ticks : (node.tick context).Leads before trace ⟨changed, .ok status⟩ after)
    (finished : status ≠ .running) (position : Nat) :
    ((past ++ trace).currentRun context.place).returnsAt (position :: context.place) = [] := by
  obtain ⟨_, _, announcing, working, leaving, rfl, _, _, leaves, _⟩ := returned_of_tick ticks
  have ends : leaving.EndsRun context.place := by
    rw [Trace.EndsRun, leaves.signsAt]
    exact ⟨_, List.mem_singleton_self _, finished⟩
  have elsewhere : leaving.returnsAt (position :: context.place) = [] := by
    rw [Trace.returnsAt, (Context.local_of_tells leaves).signsAt_of_ne (List.cons_ne_self _ _).symm]
    rfl
  rw [← List.append_assoc, Trace.currentRun_of_end ends]
  exact Trace.returnsAt_currentRun elsewhere

/-- Nothing has returned in the current run of a node that has been cleared. -/
theorem currentRun_of_clearing
    (undergoes : node.Undergoes context touch before trace changed after)
    (clears : touch = .reset ∨ touch = .aborted (.ok ())) (position : Nat)
    (silent : node.last = none →
      (past.currentRun context.place).returnsAt (position :: context.place) = []) :
    ((past ++ trace).currentRun context.place).returnsAt (position :: context.place) = [] := by
  have unreturned := undergoes.unreturned clears (position :: context.place)
  by_cases ends : trace.EndsRun context.place
  · rw [Trace.currentRun_of_end ends]
    exact Trace.returnsAt_currentRun unreturned
  · have idle : node.last = none := by
      by_contra known
      exact ends (undergoes.endsRun clears known)
    rw [Trace.currentRun_append ends, Trace.returnsAt_append, silent idle, unreturned]
    rfl

/-- What is parallel after a touch has been parallel before. -/
theorem Undergoes.parallel (undergoes : node.Undergoes context touch before trace changed after)
    (shape : changed.body = .composite (.parallel policy outcomes) nodes) :
    ∃ former twins, node.body = .composite (.parallel policy former) twins := by
  obtain ⟨own, twins, body, same⟩ := undergoes.composite shape
  cases own <;> cases same
  exact ⟨_, twins, body⟩

/-- Whatever a node lives through, it stays valid. -/
theorem Lives.valid {allows : Context D → Touch → Prop} (built : start.Built)
    (lives : start.Lives place Built allows past node) : node.Valid := by
  induction lives with
  | born => exact built.valid.here
  | touched _ _ undergoes _ inductionHypothesis => exact undergoes.valid inductionHypothesis
  | wrote _ _ inductionHypothesis => exact inductionHypothesis
  | extended _ _ accepted inductionHypothesis => exact valid_of_addChild accepted inductionHypothesis
  | @numbered node changed _ _ same inductionHypothesis =>
      have images := congrArg Node.body same
      rw [body_unnumbered, body_unnumbered] at images
      rw [Valid, ← Body.valid_map unnumbered, images, Body.valid_map]
      exact inductionHypothesis

section Advances

variable {advancing finalizing : List (Nat × Touch)} {later : List (Option Status)} {run : Trace A}
  {position : Nat} {child : Node A}

/-- A tick of a parallel node leaves outcomes that agree with the run including the tick. -/
theorem Advances.agree
    (advances : Advances policy outcomes nodes context trace status changed advancing finalizing later)
    (fewer : outcomes.length ≤ nodes.length) (agree : Composite.Agree context.place outcomes run) :
    Composite.Agree context.place later (run ++ trace) :=
  advances.advances.agree fewer agree advances.returns advances.absent

/-- There is an outcome for each child. -/
theorem Advances.length_eq
    (advances : Advances policy outcomes nodes context trace status changed advancing finalizing later) :
    later.length = nodes.length :=
  advances.advances.length_eq.trans (Composite.length_padded outcomes nodes.length)

/-- What is returned is the verdict on the outcomes, if there is one. -/
theorem Advances.verdict
    (advances : Advances policy outcomes nodes context trace status changed advancing finalizing later) :
    status = .running ∧ Composite.verdictOn policy nodes.length later = none ∨
      Composite.verdictOn policy nodes.length later = some status :=
  advances.decides.imp (fun decides => ⟨decides.1, decides.2.1⟩) fun decides => decides.2.1

/-- The children without an outcome are entered. -/
theorem Advances.entrances
    (advances : Advances policy outcomes nodes context trace status changed advancing finalizing later) :
    trace.entrances context.place = (List.range nodes.length).filter fun position =>
      outcomes[position]?.join = none := by
  rw [advances.entered, advances.advances.tickedOf, Composite.length_padded, ← List.range_eq_range']
  apply List.filter_congr
  intro position member
  rw [decide_eq_decide, Nat.sub_zero,
    Composite.getElem?_padded outcomes (List.mem_range.1 member), Option.some.injEq]

/-- Only a child without an outcome is aborted. -/
theorem Advances.spares {outcome : Status}
    (advances : Advances policy outcomes nodes context trace status changed advancing finalizing later)
    (done : later[position]? = some (some outcome)) : touchesOf position finalizing = [] := by
  rcases advances.decides with ⟨_, _, rfl, _⟩ | ⟨_, _, ⟨_, finalizes⟩, _⟩
  · rfl
  · have spared := (finalizes.touchesOf position).2 outcome done
    rwa [Nat.zero_add] at spared

/-- A child with an outcome is left as it is, without a sign. -/
theorem Advances.spared
    (advances : Advances policy outcomes nodes context trace status changed advancing finalizing later)
    (present : nodes[position]? = some child) (known : outcomes[position]?.join ≠ none) :
    changed.children[position]? = some child ∧ trace.signsAt (position :: context.place) = [] := by
  obtain ⟨outcome, remembered⟩ := Option.ne_none_iff_exists'.1 known
  have padding := Composite.getElem?_padded outcomes (List.getElem?_eq_some_iff.1 present).1
  rw [remembered] at padding
  obtain ⟨untouched, kept⟩ := (advances.advances.touchesOf position).2 outcome padding
  rw [Nat.zero_add] at untouched
  obtain ⟨final, taken, evolves⟩ := advances.evolves position child present
  rw [untouched, advances.spares kept] at evolves
  obtain ⟨rfl, written⟩ := evolves.nil
  refine ⟨taken, ?_⟩
  rw [← Trace.signsAt_within (List.suffix_refl _), written.signsAt]

/-- A child that gets an outcome is ticked once and left as its tick leaves it. -/
theorem Advances.finished
    (advances : Advances policy outcomes nodes context trace status changed advancing finalizing later)
    (present : nodes[position]? = some child) (unknown : outcomes[position]?.join = none)
    (completed : later[position]?.join ≠ none) :
    ∃ before part final status after, changed.children[position]? = some final ∧
      (child.tick (context.child position)).Leads before part ⟨final, .ok status⟩ after ∧
        trace.signsAt (position :: context.place) = [.entered, .left status] := by
  have padding := Composite.getElem?_padded outcomes (List.getElem?_eq_some_iff.1 present).1
  rw [unknown] at padding
  obtain ⟨returned, ticked, outcome⟩ := (advances.advances.touchesOf position).1 padding
  rw [Nat.zero_add] at ticked
  rw [outcome] at completed
  obtain ⟨final, known⟩ := Option.ne_none_iff_exists'.1 completed
  have spared := advances.spares (outcome.trans (congrArg some known))
  obtain ⟨final, taken, evolves⟩ := advances.evolves position child present
  rw [ticked, spared, List.append_nil] at evolves
  obtain ⟨earlier, later, part, ⟨ticks⟩, signs⟩ := evolves.single_signsAt
  refine ⟨earlier, part, final, returned, later, taken, ticks, ?_⟩
  rw [← Trace.signsAt_within (List.suffix_refl _)]
  exact (signs _).trans (signsAt_of_tick ticks)

/-- A child without an outcome is idle after a tick that finishes. -/
theorem Advances.dropped
    (advances : Advances policy outcomes nodes context trace status changed advancing finalizing later)
    (finished : status ≠ .running) (inside : position < nodes.length)
    (unknown : later[position]?.join = none) :
    ∃ final, changed.children[position]? = some final ∧ final.Everywhere Idle := by
  rcases advances.decides with ⟨running, _⟩ | ⟨_, _, ⟨_, finalizes⟩, _⟩
  · exact absurd running finished
  · have listed := List.getElem?_eq_getElem (advances.length_eq.symm ▸ inside)
    rw [listed] at unknown
    have aborted := (finalizes.touchesOf position).1 (listed.trans (congrArg some unknown))
    rw [Nat.zero_add] at aborted
    obtain ⟨final, taken, evolves⟩ :=
      advances.evolves position _ (List.getElem?_eq_getElem inside)
    rw [aborted] at evolves
    exact ⟨final, taken, evolves.idle_of_last (.inr rfl)⟩

/-- A tick that does not finish is pending in a child. -/
theorem Advances.busy
    (advances : Advances policy outcomes nodes context trace status changed advancing finalizing later)
    (final : some .running ∉ later) (running : status = .running) :
    ∃ position < nodes.length, .running ∈ trace.returnsAt (position :: context.place) := by
  rcases advances.decides with ⟨_, undecided, _⟩ | ⟨finished, _⟩
  · obtain ⟨position, taken⟩ := List.mem_iff_getElem?.1
      (Composite.none_mem_of_undecided advances.length_eq final undecided)
    have inside : position < nodes.length := by
      rw [← advances.length_eq]
      exact (List.getElem?_eq_some_iff.1 taken).1
    refine ⟨position, inside, ?_⟩
    rw [advances.returns position inside, advances.advances.touchesOf_of_none taken]
    exact List.mem_singleton_self _
  · exact absurd running finished

end Advances

/-- The invariant of calm lives: a parallel node remembers its current run, and no child has returned
in the current run of a node without a status. -/
theorem Lives.remembers (built : start.Built)
    (lives : start.Lives place Built (Touch.Calmly D) past node) :
    node.Remembers place (past.currentRun place) ∧
      (node.last = none → ∀ position, (past.currentRun place).returnsAt (position :: place) = []) := by
  induction lives with
  | born => exact ⟨remembers_of_settled built.rests.here.2 fun _ => rfl, fun _ _ => rfl⟩
  | @wrote _ past _ record inductionHypothesis =>
      have written : Trace.Written place [(⟨place, .output (.record record)⟩ : Entry A)] :=
        Trace.written_nil.cons record
      have going : ¬ Trace.EndsRun place [(⟨place, .output (.record record)⟩ : Entry A)] := by
        rw [Trace.EndsRun, written.signsAt]
        simp
      have same (position : Nat) : ((past.currentRun place ++
          [(⟨place, .output (.record record)⟩ : Entry A)]).returnsAt (position :: place)) =
            (past.currentRun place).returnsAt (position :: place) := by
        rw [Trace.returnsAt_append, Trace.returnsAt_cons_output]
        exact List.append_nil _
      rw [Trace.currentRun_append going]
      simpa only [Remembers, Composite.Agree, same] using inductionHypothesis
  | @touched context node changed touch _ _ _ _ lives stands undergoes calm inductionHypothesis =>
      subst stands
      have clearing (clears : touch = .reset ∨ touch = .aborted (.ok ())) (position : Nat) :=
        currentRun_of_clearing undergoes clears position fun idle =>
          inductionHypothesis.2 idle position
      have cleared (clears : touch = .reset ∨ touch = .aborted (.ok ())) : changed.body.Settled := by
        rw [undergoes.cleared clears]
        exact (rests_cleared node).here.2
      cases touch with
      | reset =>
          exact ⟨remembers_of_settled (cleared (.inl rfl)) (clearing (.inl rfl)),
            fun _ => clearing (.inl rfl)⟩
      | aborted result =>
          obtain rfl := calm
          exact ⟨remembers_of_settled (cleared (.inr rfl)) (clearing (.inr rfl)),
            fun _ => clearing (.inr rfl)⟩
      | ticked result =>
          obtain ⟨status, rfl⟩ := calm
          cases undergoes with
          | ticked ticks =>
          refine ⟨fun policy outcomes nodes shape => ?_, fun idle => ?_⟩
          · obtain ⟨former, twins, before⟩ := (Undergoes.ticked ticks).parallel shape
            obtain ⟨advancing, finalizing, later, advances⟩ := advances_of_tick before ticks
            have valid := lives.valid built
            rw [Valid, before] at valid
            rcases advances.decides with ⟨rfl, _, _, final⟩ | ⟨finished, _, _, final⟩
            · have going : ¬ Trace.EndsRun context.place _ := fun ends =>
                (endsRun_of_tick ticks).1 ends rfl
              rw [final] at shape
              cases shape
              rw [Trace.currentRun_append going]
              exact advances.agree valid.2.1 (inductionHypothesis.1 _ _ _ before)
            · refine remembers_of_settled ?_ (currentRun_of_finished ticks finished) _ _ _ shape
              rw [final]
              rfl
          · rw [last_of_tick ticks] at idle
            cases idle
  | extended _ fresh accepted inductionHypothesis =>
      obtain ⟨tag, own, nodes, rfl, rfl⟩ := addChild_spec accepted
      refine ⟨?_, inductionHypothesis.2⟩
      rintro policy outcomes _ ⟨⟩
      exact inductionHypothesis.1 policy outcomes nodes rfl
  | numbered _ same inductionHypothesis =>
      refine ⟨fun policy outcomes nodes shape => ?_, fun idle => inductionHypothesis.2 ?_⟩
      · obtain ⟨twins, former, _⟩ := composite_of_unnumbered same shape
        exact inductionHypothesis.1 policy outcomes twins former
      · rw [← last_unnumbered, ← same, last_unnumbered, idle]

/-- A tick of a parallel node agrees with a reference that knows what the children have returned in the
run, before the tick and including it. The node enters the children that have not completed, in order.
It succeeds once the threshold is reached and fails once it is out of reach. When it finishes, each
child that has not completed is idle with all of its subtree, and the others are left as they are. -/
structure Tallied (policy : Policy) (context : Context D) (nodes : List (Node A)) (run trace : Trace A)
    (status : Status) (changed : Node A) : Prop where
  entered : trace.entrances context.place = (List.range nodes.length).filter fun position =>
    ¬ run.Completes context.place position
  kept : ∀ position, ∀ first ∈ (run ++ trace).returnsAt (position :: context.place),
    ∀ second ∈ (run ++ trace).returnsAt (position :: context.place),
      first ≠ .running → second ≠ .running → first = second
  succeeds : status = .success ↔
    policy.threshold nodes.length ≤ (run ++ trace).tally context.place nodes.length .success
  fails : status = .failure ↔
    nodes.length - (run ++ trace).tally context.place nodes.length .failure <
      policy.threshold nodes.length
  exclusive : ¬ (policy.threshold nodes.length ≤
      (run ++ trace).tally context.place nodes.length .success ∧
    nodes.length - (run ++ trace).tally context.place nodes.length .failure <
      policy.threshold nodes.length)
  busy : status = .running → ∃ position < nodes.length,
    .running ∈ trace.returnsAt (position :: context.place)
  dropped : status ≠ .running → ∀ position < nodes.length,
    ¬ (run ++ trace).Completes context.place position →
      ∃ final, changed.children[position]? = some final ∧ final.Everywhere Idle
  spared : ∀ (position : Nat) (child : Node A), nodes[position]? = some child →
    run.Completes context.place position →
      changed.children[position]? = some child ∧ trace.signsAt (position :: context.place) = []
  finished : ∀ (position : Nat) (child : Node A), nodes[position]? = some child →
    ¬ run.Completes context.place position → (run ++ trace).Completes context.place position →
      ∃ before part final status after, changed.children[position]? = some final ∧
        (child.tick (context.child position)).Leads before part ⟨final, .ok status⟩ after ∧
          trace.signsAt (position :: context.place) = [.entered, .left status]

end Node

namespace Sample

/-- The sample round performs its operation after the flag has been seen. -/
def round : Node agent := Node.ofBody
  (.composite (.parallel .all []) [.condition (A := agent) (), .asyncAction (A := agent) ()])

def halfway : Node agent := (ticked round true).value.after

def completed : Outcome agent Unit (Attempt (Node agent) Status) := ticked halfway false

theorem built_round : round.Built := by
  have accepted : Node.parallel .all
      [.condition (A := agent) (), .asyncAction (A := agent) ()] = .ok round := rfl
  refine .parallel accepted ?_
  simp only [List.forall_mem_cons]
  exact ⟨.condition _, .asyncAction _, List.forall_mem_nil _⟩

theorem lives_halfway : round.Lives Tree.rootPlace Node.Built (Touch.Calmly Unit)
    (ticked round true).trace halfway :=
  lives_ticked rfl

end Sample

end Behavior
