import Behavior.Proofs.Echo.Echoing
import Behavior.Proofs.Handoff.Visiting
import Behavior.Proofs.Renewal.Rebuilding
import Behavior.Proofs.Report.Returns
import Behavior.Proofs.Time.Arithmetic

namespace Behavior

open Binary (le_add sub_le le_refl_of_number le_trans le_of_lt lt_of_not_le number_of_le
  number_of_finite finite_of_between)

variable {A : Agent} {D : Type}

namespace Decorator

/-- What a timeout has measured is nothing, or something below its limit. What a cooldown has left is at
most its period. -/
def Timely : Decorator A → Prop
  | .timeout limit elapsed => IsDuration limit ∧ 0 ≤ elapsed ∧ (elapsed = 0 ∨ elapsed < limit)
  | .cooldown period remaining => IsDuration period ∧ remaining ≤ period
  | _ => True

variable {clock : Clock} {answer running : Bool} {own next : Decorator A}
  {limit elapsed period remaining : Float32} {touches : List (Nat × Touch)}
  {result : Except Panic Status}

theorem zero_le_zero : (0 : Float32) ≤ 0 := le_refl_of_number rfl

/-- A decision adds to the elapsed time, or takes from the remaining one. -/
theorem timely_decide (onward : 0 ≤ clock.deltaTime) (answer running : Bool) (timely : own.Timely) :
    (own.decide clock answer running).1.Timely := by
  cases own with
  | timeout limit elapsed =>
      obtain ⟨duration, least, _⟩ := timely
      rw [decide]
      split
      case isTrue => exact ⟨duration, zero_le_zero, .inl rfl⟩
      case isFalse early =>
        have grown := le_add least onward
        have below := lt_of_not_le (number_of_le grown).2 (number_of_finite duration.1) early
        exact ⟨duration, le_trans least grown, .inr below⟩
  | cooldown period remaining =>
      obtain ⟨duration, most⟩ := timely
      rw [decide]
      split
      case isTrue waits =>
        have finite := finite_of_between (le_of_lt waits) most duration.1
        exact ⟨duration, le_trans (sub_le finite onward) most⟩
      case isFalse => exact ⟨duration, most⟩
  | _ => trivial

/-- Iterations measure no time. -/
theorem timely_settleRound (own : Nat → Decorator A) (untimed : ∀ count, (own count).Timely)
    (goal : Status) (times count : Nat) (status : Status) :
    (settleRound own goal times count status).own.Timely := by
  cases status with
  | running => exact untimed count
  | success | failure =>
      simp only [settleRound]
      split
      · split <;> exact untimed _
      · exact untimed 0

/-- A decorator that settles stays timely. -/
theorem timely_settle (timely : own.Timely) (status : Status) : (own.settle status).own.Timely := by
  cases own with
  | timeout limit elapsed =>
      obtain ⟨duration, least, bounded⟩ := timely
      rw [settle]
      split
      case isTrue => exact ⟨duration, least, bounded⟩
      case isFalse => exact ⟨duration, zero_le_zero, .inl rfl⟩
  | cooldown period remaining =>
      obtain ⟨duration, most⟩ := timely
      rw [settle]
      split
      case isTrue => exact ⟨duration, le_refl_of_number (number_of_finite duration.1)⟩
      case isFalse => exact ⟨duration, most⟩
  | repeating times => exact timely_settleRound (.repeating times) (fun _ => trivial) _ _ _ status
  | retrying times => exact timely_settleRound (.retrying times) (fun _ => trivial) _ _ _ status
  | _ => trivial

/-- A decorator stays timely whatever it plays, as long as the clock does not go back. -/
theorem Plays.timely (plays : own.Plays clock answer running touches result next)
    (onward : 0 ≤ clock.deltaTime) (timely : own.Timely) : next.Timely := by
  have decides := timely_decide onward answer running timely
  cases plays with
  | skipped decided | aborted _ decided | unwound _ decided => rwa [decided] at decides
  | ticked status decided | renewed status decided =>
      rw [decided] at decides
      exact timely_settle decides status

/-- A timeout ticks its child with the delta time added, or aborts it with nothing measured. -/
theorem decide_timeout {decision : Decision}
    (decided : (timeout limit elapsed).decide clock answer running = (next, decision)) :
    decision = .tick ∧ next = .timeout limit (elapsed + clock.deltaTime) ∨
      decision = .abort .failure ∧ next = .timeout limit 0 := by
  rw [decide] at decided
  split at decided
  case isTrue =>
    cases decided
    exact .inr ⟨rfl, rfl⟩
  case isFalse =>
    cases decided
    exact .inl ⟨rfl, rfl⟩

/-- A cooldown ticks its child as it is, or skips it as long as time remains. -/
theorem decide_cooldown {decision : Decision}
    (decided : (cooldown period remaining).decide clock answer running = (next, decision)) :
    decision = .tick ∧ next = .cooldown period remaining ∨
      decision = .skip .failure ∧ 0 < remaining ∧
        next = .cooldown period (remaining - clock.deltaTime) := by
  rw [decide] at decided
  split at decided
  case isTrue remains =>
    cases decided
    exact .inr ⟨rfl, remains, rfl⟩
  case isFalse =>
    cases decided
    exact .inl ⟨rfl, rfl⟩

/-- A timeout measures the delta time, unless it finishes or a panic cuts short the abort of its
child. -/
theorem Plays.measures
    (plays : (timeout limit elapsed).Plays clock answer running touches result next) :
    ∃ later, next = .timeout limit later ∧ (later = elapsed + clock.deltaTime ∨
      (∃ status, result = .ok status ∧ status ≠ .running) ∨
        ∃ panic, (0, .aborted (.error panic)) ∈ touches) := by
  cases plays with
  | skipped decided =>
      obtain ⟨contrary, _⟩ | ⟨contrary, _⟩ := decide_timeout decided <;> cases contrary
  | aborted aborted decided =>
      obtain ⟨contrary, _⟩ | ⟨same, rfl⟩ := decide_timeout decided
      · cases contrary
      · cases same
        refine ⟨0, rfl, .inr ?_⟩
        cases aborted with
        | ok => exact .inl ⟨.failure, rfl, nofun⟩
        | error panic => exact .inr ⟨panic, List.mem_singleton_self _⟩
  | unwound panic decided =>
      obtain ⟨_, rfl⟩ | ⟨contrary, _⟩ := decide_timeout decided
      · exact ⟨_, rfl, .inl rfl⟩
      · cases contrary
  | ticked status decided =>
      obtain ⟨_, rfl⟩ | ⟨contrary, _⟩ := decide_timeout decided
      · refine ⟨_, rfl, ?_⟩
        by_cases continues : status = .running
        · exact .inl (if_pos continues)
        · exact .inr (.inl ⟨status, rfl, continues⟩)
      · cases contrary
  | renewed status decided resets =>
      obtain ⟨_, rfl⟩ | ⟨contrary, _⟩ := decide_timeout decided
      · cases resets
      · cases contrary

/-- A cooldown waits, or stays as it is, unless its child returns success. -/
theorem Plays.waits
    (plays : (cooldown period remaining).Plays clock answer running touches result next) :
    ∃ later, next = .cooldown period later ∧ (later = remaining ∨
      (0 < remaining ∧ later = remaining - clock.deltaTime) ∨
        (0, .ticked (.ok .success)) ∈ touches) := by
  cases plays with
  | skipped decided =>
      obtain ⟨contrary, _⟩ | ⟨_, remains, rfl⟩ := decide_cooldown decided
      · cases contrary
      · exact ⟨_, rfl, .inr (.inl ⟨remains, rfl⟩)⟩
  | aborted aborted decided =>
      obtain ⟨contrary, _⟩ | ⟨contrary, _⟩ := decide_cooldown decided <;> cases contrary
  | unwound panic decided =>
      obtain ⟨_, rfl⟩ | ⟨contrary, _⟩ := decide_cooldown decided
      · exact ⟨_, rfl, .inl rfl⟩
      · cases contrary
  | ticked status decided =>
      obtain ⟨_, rfl⟩ | ⟨contrary, _⟩ := decide_cooldown decided
      · refine ⟨_, rfl, ?_⟩
        by_cases succeeds : status = .success
        · subst succeeds
          exact .inr (.inr (List.mem_singleton_self _))
        · exact .inl (if_neg succeeds)
      · cases contrary
  | renewed status decided resets =>
      obtain ⟨_, rfl⟩ | ⟨contrary, _⟩ := decide_cooldown decided
      · cases resets
      · cases contrary

end Decorator

/-- The clock of an onward context does not run backwards, and its sink is quiet. -/
structure Context.Onward (context : Context D) : Prop where
  least : 0 ≤ context.clock.deltaTime
  quiet : context.Quiet

/-- Below an onward context everything goes onward. -/
theorem Context.Onward.child {context : Context D} (onward : context.Onward) (position : Nat) :
    (context.child position).Onward :=
  ⟨onward.least, onward.quiet⟩

namespace Body

variable {Child : Type}

def Timely : Body A Child → Prop
  | .decorator own _ => own.Timely
  | _ => True

/-- Children have nothing to do with whether a body is timely. -/
theorem timely_map {Other : Type} (change : Child → Other) (body : Body A Child) :
    (body.map change).Timely ↔ body.Timely := by
  cases body <;> exact Iff.rfl

/-- A timeout that has forgotten its run has measured nothing. -/
theorem timely_rested {body : Body A Child} (timely : body.Timely) : body.rested.Timely := by
  cases body with
  | leaf | choice | composite => trivial
  | decorator own child =>
      cases own with
      | timeout => exact ⟨timely.1, Decorator.zero_le_zero, .inl rfl⟩
      | _ => exact timely

variable {context : Context D} {info : NodeInfo} {body changed : Body A (Node A)}
  {before after : Stage A D} {trace : Trace A} {result : Except Panic Status}

/-- A timely body stays timely whatever it works at. -/
theorem Works.timely (works : body.Works context info before trace result changed after)
    (onward : context.Onward) (timely : body.Timely) : changed.Timely := by
  cases works with
  | leaf => trivial
  | refused => exact timely
  | played _ _ plays =>
      cases plays with
      | decorator plays => exact plays.timely onward.least timely
      | choice | composite => trivial

/-- A decorator that works is refused by its predicate, or plays with its child. -/
theorem Works.decorated {own : Decorator A} {child : Node A}
    (works : (decorator own child).Works context info before trace result changed after) :
    ∃ next other, changed = .decorator next other ∧
      (next = own ∨ ∃ answer touches first last handling,
        own.Plays context.clock answer child.isRunning touches result next ∧
          Handles context [child] first touches handling [other] last ∧ handling ⊆ trace) := by
  cases works with
  | refused => exact ⟨own, child, rfl, .inl rfl⟩
  | played asks handles plays =>
      cases plays with
      | decorator plays =>
          exact ⟨_, _, rfl, .inr ⟨_, _, _, _, _, plays, handles, List.subset_append_right _ _⟩⟩

end Body

/-- An abort under a quiet sink is not cut short. -/
theorem Node.Undergoes.ok_of_aborted {context : Context D} {node changed : Node A}
    {before after : Stage A D} {trace : Trace A} {result : Except Panic Unit} (quiet : context.Quiet)
    (undergoes : node.Undergoes context (.aborted result) before trace changed after) :
    result = .ok () := by
  cases undergoes with
  | aborted aborts =>
      obtain ⟨report, _, _, _, reported, ended, _⟩ := Run.leads_bind.1 aborts
      obtain ⟨silent, _⟩ := Node.silent_reportAbort quiet node before
      rw [reported] at silent
      obtain rfl : report = .ok () := silent
      obtain ⟨_, _, _, same⟩ := Run.leads_bind_attempt.1 ended
      exact same

namespace Body

variable {context : Context D} {info : NodeInfo} {changed : Body A (Node A)} {child : Node A}
  {before after : Stage A D} {trace : Trace A} {result : Except Panic Status}
  {limit elapsed period remaining : Float32}

/-- A timeout that works lets time pass, unless it finishes. -/
theorem Works.measures
    (works : (decorator (.timeout limit elapsed) child).Works context info before trace result changed
      after)
    (onward : context.Onward) (least : 0 ≤ elapsed) :
    ∃ later other, changed = .decorator (.timeout limit later) other ∧
      (elapsed ≤ later ∨ ∃ status, result = .ok status ∧ status ≠ .running) := by
  obtain ⟨_, other, rfl, rfl | ⟨_, _, _, _, _, plays, handles, _⟩⟩ := works.decorated
  · exact ⟨elapsed, other, rfl, .inl (le_refl_of_number (number_of_le least).2)⟩
  · obtain ⟨later, rfl, rfl | finished | ⟨panic, aborted⟩⟩ := plays.measures
    · exact ⟨_, other, rfl, .inl (le_add least onward.least)⟩
    · exact ⟨later, other, rfl, .inr finished⟩
    · obtain ⟨_, _, _, _, _, _, _, _, _, _, undergoes, _⟩ := handles.exists_of_mem aborted
      cases undergoes.ok_of_aborted (onward.child 0).quiet

/-- A cooldown that works has no more time left than before, unless its child returns success. -/
theorem Works.waits
    (works : (decorator (.cooldown period remaining) child).Works context info before trace result
      changed after)
    (onward : context.Onward) (duration : IsDuration period)
    (most : remaining ≤ period) :
    ∃ later other, changed = .decorator (.cooldown period later) other ∧
      (later ≤ remaining ∨ .success ∈ trace.returnsAt (0 :: context.place)) := by
  have same := le_refl_of_number (number_of_le most).1
  obtain ⟨_, other, rfl, rfl | ⟨_, _, _, _, _, plays, handles, inside⟩⟩ := works.decorated
  · exact ⟨remaining, other, rfl, .inl same⟩
  · obtain ⟨later, rfl, rfl | ⟨remains, rfl⟩ | succeeds⟩ := plays.waits
    · exact ⟨later, other, rfl, .inl same⟩
    · have finite := finite_of_between (le_of_lt remains) most duration.1
      exact ⟨_, other, rfl, .inl (sub_le finite onward.least)⟩
    · exact ⟨later, other, rfl, .inr (Trace.returnsAt_subset inside (handles.mem_returnsAt succeeds))⟩

end Body

namespace Node

def Timely (node : Node A) : Prop := node.body.Timely

/-- The time that a timeout has measured. -/
def elapsed? (node : Node A) : Option Float32 :=
  match node.body with
  | .decorator (.timeout _ elapsed) _ => some elapsed
  | _ => none

/-- The time that a cooldown has left. -/
def remaining? (node : Node A) : Option Float32 := node.body.remaining?

variable {context : Context D} {node changed : Node A} {touch : Touch} {before after : Stage A D}
  {trace : Trace A}

/-- Only a timeout measures time. -/
theorem body_of_elapsed? {elapsed : Float32} (measured : node.elapsed? = some elapsed) :
    ∃ limit child, node.body = .decorator (.timeout limit elapsed) child := by
  unfold elapsed? at measured
  split at measured
  case h_1 same =>
    cases measured
    exact ⟨_, _, same⟩
  case h_2 => cases measured

/-- Only a cooldown has time left. -/
theorem body_of_remaining? {remaining : Float32} (left : node.remaining? = some remaining) :
    ∃ period child, node.body = .decorator (.cooldown period remaining) child := by
  obtain ⟨tag, body⟩ := node
  cases body with
  | leaf | choice | composite => cases left
  | decorator own child =>
      cases own with
      | cooldown period =>
          cases left
          exact ⟨period, child, rfl⟩
      | _ => cases left

/-- Clearing takes no time off a cooldown. -/
theorem remaining?_cleared_self (node : Node A) : node.cleared.remaining? = node.remaining? := by
  rw [remaining?, body_cleared, Body.remaining?_rested, Body.remaining?_map, remaining?]

/-- A touch leaves a node alone, clears it, or lets its body work until that panics or returns. -/
inductive Fares (context : Context D) (node : Node A) (trace : Trace A) : Node A → Prop
  | stayed : Fares context node trace node
  | cleared (told : node.last.isSome → .cleared ∈ trace.signsAt context.place) :
      Fares context node trace node.cleared
  | unwound {changed : Body A (Node A)} {before after : Stage A D} {working : Trace A} {panic : Panic}
      (works : node.body.Works context node.info before working (.error panic) changed after)
      (inside : working ⊆ trace) : Fares context node trace ⟨node.tag, changed⟩
  | returned {changed : Body A (Node A)} {before after : Stage A D} {working : Trace A}
      {status : Status}
      (works : node.body.Works context node.info before working (.ok status) changed after)
      (inside : working ⊆ trace) (told : .left status ∈ trace.signsAt context.place) :
      Fares context node trace ⟨{ node.tag with last := some status }, changed⟩

/-- A node fares with every touch. -/
theorem Undergoes.fares (undergoes : node.Undergoes context touch before trace changed after) :
    node.Fares context trace changed := by
  have clears {before after : Stage A D} {part : Trace A}
      (resets : (node.reset context.place).Leads before part node.cleared after)
      (inside : part ⊆ trace) : node.Fares context trace node.cleared := by
    refine .cleared fun some => Trace.signsAt_subset inside ?_
    rw [(resets_of_reset resets).signsAt, if_pos some]
    exact List.mem_singleton_self _
  cases undergoes with
  | reset resets =>
      obtain rfl := cleared_of_reset resets
      exact clears resets (List.Subset.refl _)
  | aborted aborts =>
      cases abortsIn_of_abortIn aborts with
      | silent _ resets => exact clears resets (List.Subset.refl _)
      | reported _ _ resets =>
          exact clears resets (List.subset_cons_of_subset _ (List.subset_append_right _ _))
      | unwound => exact .stayed
  | ticked ticks =>
      cases ticked_of_tick ticks with
      | refused => exact .stayed
      | unwound announces works => exact .unwound works (List.subset_append_right _ _)
      | returned announces works leaves _ =>
          refine .returned works ?_ ?_
          · exact List.subset_append_of_subset_left _ (List.subset_append_right _ _)
          · rw [Trace.signsAt_append, leaves.signsAt]
            exact List.mem_append_right _ (List.mem_singleton_self _)

/-- A timely node is timely after it has been cleared. -/
theorem timely_cleared (timely : node.Timely) : node.cleared.Timely := by
  rw [Timely, body_cleared]
  exact Body.timely_rested ((Body.timely_map _ _).2 timely)

/-- A touch keeps a node timely, also one that a panic cuts short. -/
theorem Undergoes.timely (undergoes : node.Undergoes context touch before trace changed after)
    (onward : context.Onward) (timely : node.Timely) : changed.Timely := by
  cases undergoes.fares with
  | stayed => exact timely
  | cleared => exact timely_cleared timely
  | unwound works | returned works => exact works.timely onward timely

end Node

/-- A sign lets a node run on if it neither clears it nor leaves it with another status than running. -/
def Sign.RunsOn : Sign → Prop
  | left status => status = .running
  | cleared => False
  | _ => True

/-- Signs that neither clear nor leave a node say nothing of its last status. -/
theorem statusAfter_of_unreturned {last : Option Status} {signs : List Sign}
    (unreturned : signs.filterMap Sign.returned? = []) (uncleared : .cleared ∉ signs) :
    statusAfter last signs = last := by
  induction signs with
  | nil => rfl
  | cons sign rest inductionHypothesis =>
      rw [List.mem_cons, not_or] at uncleared
      cases sign with
      | left => cases unreturned
      | cleared => exact absurd rfl uncleared.1
      | entered | aborted => exact inductionHypothesis unreturned uncleared.2

/-- A node that returns at most once and is not cleared runs on if it is running in the end. -/
theorem runsOn_of_statusAfter {last : Option Status} {signs : List Sign}
    (once : (signs.filterMap Sign.returned?).length ≤ 1) (uncleared : .cleared ∉ signs)
    (running : statusAfter last signs = some .running) : ∀ sign ∈ signs, sign.RunsOn := by
  induction signs generalizing last with
  | nil => exact fun _ member => absurd member List.not_mem_nil
  | cons sign rest inductionHypothesis =>
      rw [List.mem_cons, not_or] at uncleared
      cases sign with
      | left status =>
          have silent : rest.filterMap Sign.returned? = [] :=
            List.length_eq_zero_iff.1 (Nat.le_zero.1 (Nat.le_of_succ_le_succ once))
          have kept : statusAfter (some status) rest = some status :=
            statusAfter_of_unreturned silent uncleared.2
          have same : status = .running := Option.some.inj (kept.symm.trans running)
          refine List.forall_mem_cons.2 ⟨same, inductionHypothesis ?_ uncleared.2 running⟩
          rw [silent]
          exact Nat.zero_le 1
      | cleared => exact absurd rfl uncleared.1
      | entered | aborted =>
          exact List.forall_mem_cons.2 ⟨trivial, inductionHypothesis once uncleared.2 running⟩

namespace Node

variable {context : Context D} {node changed : Node A} {touch : Touch} {before after : Stage A D}
  {trace : Trace A}

/-- Events age a timely node if it stays timely, and as a timeout measures no less than before as long
as it runs on. -/
def Ages (node : Node A) (events : List (Event A)) (changed : Node A) : Prop :=
  node.Timely → changed.Timely ∧ ∀ elapsed, node.elapsed? = some elapsed →
    ∃ later, changed.elapsed? = some later ∧
      (node.last = some .running → (∀ sign ∈ events.filterMap Event.sign?, sign.RunsOn) →
        changed.last = some .running ∧ elapsed ≤ later)

/-- A time that has been measured is a number, and not negative. -/
theorem le_self_of_elapsed? {elapsed : Float32} (timely : node.Timely)
    (measured : node.elapsed? = some elapsed) : 0 ≤ elapsed ∧ elapsed ≤ elapsed := by
  obtain ⟨limit, child, own⟩ := body_of_elapsed? measured
  rw [Timely, own] at timely
  exact ⟨timely.2.1, le_refl_of_number (number_of_le timely.2.1).2⟩

/-- Nodes age from one touch to the next. -/
theorem composes_ages : Composes (Ages (A := A)) where
  done node timely := by
    refine ⟨timely, fun elapsed measured => ⟨elapsed, measured, fun running _ => ⟨running, ?_⟩⟩⟩
    exact (le_self_of_elapsed? timely measured).2
  wrote node _ timely := by
    refine ⟨timely, fun elapsed measured => ⟨elapsed, measured, fun running _ => ⟨running, ?_⟩⟩⟩
    exact (le_self_of_elapsed? timely measured).2
  trans first second timely := by
    obtain ⟨steady, measures⟩ := first timely
    obtain ⟨still, goes⟩ := second steady
    refine ⟨still, fun elapsed measured => ?_⟩
    obtain ⟨middle, measured, early⟩ := measures elapsed measured
    obtain ⟨later, measured, late⟩ := goes middle measured
    refine ⟨later, measured, fun running signs => ?_⟩
    rw [List.filterMap_append, List.forall_mem_append] at signs
    obtain ⟨running, below⟩ := early running signs.1
    obtain ⟨running, above⟩ := late running signs.2
    exact ⟨running, le_trans below above⟩

/-- A node ages with every touch in an onward context. -/
theorem Undergoes.ages (undergoes : node.Undergoes context touch before trace changed after)
    (onward : context.Onward) :
    node.Ages (trace.eventsAt context.place) changed := by
  intro timely
  refine ⟨undergoes.timely onward timely, fun elapsed measured => ?_⟩
  obtain ⟨least, same⟩ := le_self_of_elapsed? timely measured
  obtain ⟨limit, child, own⟩ := body_of_elapsed? measured
  cases undergoes.fares with
  | stayed => exact ⟨elapsed, measured, fun running _ => ⟨running, same⟩⟩
  | cleared told =>
      refine ⟨0, ?_, fun running signs => ?_⟩
      · rw [elapsed?, body_cleared, own]
        rfl
      · exact False.elim (signs .cleared (told (by rw [running]; rfl)))
  | unwound works =>
      rw [own] at works
      obtain ⟨later, _, rfl, grown | ⟨_, contrary, _⟩⟩ := works.measures onward least
      · exact ⟨later, rfl, fun running _ => ⟨running, grown⟩⟩
      · cases contrary
  | @returned _ _ _ _ status works _ told =>
      rw [own] at works
      obtain ⟨later, _, rfl, measures⟩ := works.measures onward least
      refine ⟨later, rfl, fun _ signs => ?_⟩
      obtain rfl : status = .running := signs _ told
      refine ⟨rfl, measures.resolve_right ?_⟩
      rintro ⟨_, same, finished⟩
      exact finished (Except.ok.inj same).symm

/-- What happens at a place and below cools a timely node if it stays timely, and as a cooldown has no
more time left than before unless its child returns success. -/
def Cools (place : Place) (node : Node A) (trace : Trace A) (changed : Node A) : Prop :=
  node.Timely → changed.Timely ∧ ∀ remaining, node.remaining? = some remaining →
    ∃ later, changed.remaining? = some later ∧
      (later ≤ remaining ∨ .success ∈ trace.returnsAt (0 :: place))

/-- The time that is left is a number within the period. -/
theorem timely_of_remaining? {remaining : Float32} (timely : node.Timely)
    (left : node.remaining? = some remaining) :
    ∃ period child, node.body = .decorator (.cooldown period remaining) child ∧
      IsDuration period ∧ remaining ≤ period ∧ remaining ≤ remaining := by
  obtain ⟨period, child, own⟩ := body_of_remaining? left
  rw [Timely, own] at timely
  exact ⟨period, child, own, timely.1, timely.2, le_refl_of_number (number_of_le timely.2).1⟩

/-- A cooldown cools from one touch to the next. -/
theorem spans_cools : Spans (Cools (A := A)) where
  done place node timely := by
    refine ⟨timely, fun remaining left => ⟨remaining, left, .inl ?_⟩⟩
    obtain ⟨_, _, _, _, _, same⟩ := timely_of_remaining? timely left
    exact same
  wrote place node _ timely := by
    refine ⟨timely, fun remaining left => ⟨remaining, left, .inl ?_⟩⟩
    obtain ⟨_, _, _, _, _, same⟩ := timely_of_remaining? timely left
    exact same
  trans first second timely := by
    obtain ⟨steady, waits⟩ := first timely
    obtain ⟨still, goes⟩ := second steady
    refine ⟨still, fun remaining left => ?_⟩
    obtain ⟨middle, left, early⟩ := waits remaining left
    obtain ⟨later, left, late⟩ := goes middle left
    refine ⟨later, left, ?_⟩
    rw [Trace.returnsAt_append, List.mem_append]
    rcases early with below | succeeded
    · exact late.imp (fun further => le_trans further below) .inr
    · exact .inr (.inl succeeded)

/-- A cooldown cools with every touch in an onward context. -/
theorem Undergoes.cools (undergoes : node.Undergoes context touch before trace changed after)
    (onward : context.Onward) : Cools context.place node trace changed := by
  intro timely
  refine ⟨undergoes.timely onward timely, fun remaining left => ?_⟩
  obtain ⟨period, child, own, duration, most, same⟩ := timely_of_remaining? timely left
  cases undergoes.fares with
  | stayed => exact ⟨remaining, left, .inl same⟩
  | cleared => exact ⟨remaining, node.remaining?_cleared_self.trans left, .inl same⟩
  | unwound works inside | returned works inside =>
      rw [own] at works
      obtain ⟨later, _, rfl, waits⟩ := works.waits onward duration most
      exact ⟨later, rfl, waits.imp_right fun succeeded => Trace.returnsAt_subset inside succeeded⟩

end Node

end Behavior
