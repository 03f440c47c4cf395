import Behavior.Proofs.Life
import Behavior.Proofs.Parallel.Runs
import Behavior.Proofs.Renewal.Rebuilding
import Behavior.Proofs.Running.Pursuit
import Behavior.Proofs.Touch.Entrances

namespace Behavior

variable {A : Agent} {D : Type}

namespace Trace

/-- A child completes in a trace if it returns something else than running. -/
def Completes (place : Place) (trace : Trace A) (position : Nat) : Prop :=
  ∃ status ∈ trace.returnsAt (position :: place), status ≠ .running

instance (place : Place) (trace : Trace A) (position : Nat) :
    Decidable (trace.Completes place position) :=
  inferInstanceAs (Decidable (∃ _ ∈ _, _))

/-- The number of children that return a status in a trace, each counted once. -/
def tally (place : Place) (trace : Trace A) (count : Nat) (status : Status) : Nat :=
  (List.range count).countP fun position => status ∈ trace.returnsAt (position :: place)

end Trace

/-- A verdict is a success once the threshold is reached, and a failure once it is out of reach. It is
never both. -/
theorem Policy.verdict_spec {policy : Policy} {children successes failures : Nat} {status : Status}
    (distinct : successes + failures ≤ children)
    (decides : status = .running ∧ policy.verdict children successes failures = none ∨
      policy.verdict children successes failures = some status) :
    (status = .success ↔ policy.threshold children ≤ successes) ∧
      (status = .failure ↔ children - failures < policy.threshold children) ∧
      ¬ (policy.threshold children ≤ successes ∧
        children - failures < policy.threshold children) := by
  have exclusive : ¬ (policy.threshold children ≤ successes ∧
      children - failures < policy.threshold children) := by omega
  unfold verdict at decides
  split at decides
  case isTrue reached =>
    obtain ⟨_, contrary⟩ | same := decides
    · cases contrary
    · cases same
      simp only [reached, true_and] at exclusive
      simp [reached, exclusive]
  case isFalse short =>
    split at decides
    case isTrue lost =>
      obtain ⟨_, contrary⟩ | same := decides
      · cases contrary
      · cases same
        simp [short, lost]
    case isFalse open' =>
      obtain ⟨rfl, _⟩ | contrary := decides
      · simp [short, open']
      · cases contrary

namespace Composite

variable {policy : Policy} {start count position : Nat} {outcomes later : List (Option Status)}
  {touches : List (Nat × Touch)} {status : Status} {next : Composite} {place : Place}
  {run trace : Trace A}

/-- Successes and failures are different children. -/
theorem count_add_count_le (outcomes : List (Option Status)) :
    outcomes.count (some .success) + outcomes.count (some .failure) ≤ outcomes.length := by
  induction outcomes with
  | nil => exact Nat.le_refl 0
  | cons outcome rest inductionHypothesis =>
      rw [List.count_cons, List.count_cons, List.length_cons]
      match outcome with
      | none | some .running | some .success | some .failure =>
          simp
          omega

/-- An advance ticks the children without an outcome, in order. -/
theorem Advances.tickedOf (advances : Advances start outcomes touches later (.ok ())) :
    tickedOf touches = (List.range' start outcomes.length).filter fun position =>
      outcomes[position - start]? = some none := by
  generalize ended : (.ok () : Except Panic Unit) = result at advances
  have shifted (start : Nat) (outcome : Option Status) (outcomes : List (Option Status)) :
      (List.range' (start + 1) outcomes.length).filter
          (fun position => decide (outcomes[position - (start + 1)]? = some none)) =
        (List.range' (start + 1) outcomes.length).filter
          (fun position => decide ((outcome :: outcomes)[position - start]? = some none)) := by
    apply List.filter_congr
    intro position member
    have behind := (List.mem_range'_1.1 member).1
    rw [show position - start = position - (start + 1) + 1 by omega, List.getElem?_cons_succ]
  induction advances with
  | done => rfl
  | @finished start outcome outcomes _ _ _ _ inductionHypothesis =>
      rw [inductionHypothesis ended, shifted start (some outcome), List.length_cons,
        List.range'_succ, List.filter_cons_of_neg (by simp)]
  | @ticked start _ outcomes _ _ _ _ inductionHypothesis =>
      rw [tickedOf_cons_ticked, inductionHypothesis ended, shifted start none, List.length_cons,
        List.range'_succ, List.filter_cons_of_pos (by simp)]
  | unwound => cases ended

/-- A parallel node that returns has advanced its children, and aborts those without an outcome if it
finishes. -/
theorem Concurs.advanced (concurs : Concurs policy outcomes count touches (.ok status) next) :
    ∃ advancing finalizing later, touches = advancing ++ finalizing ∧
      Advances 0 (padded outcomes count) advancing later (.ok ()) ∧
      (status = .running ∧ verdictOn policy count later = none ∧ finalizing = [] ∧
          next = .parallel policy later ∨
        status ≠ .running ∧ verdictOn policy count later = some status ∧
          (∃ last, Finalizes 0 later finalizing last (.ok ())) ∧ next = .parallel policy []) := by
  cases concurs with
  | continued advances undecided =>
      exact ⟨_, [], _, (List.append_nil _).symm, advances, .inl ⟨rfl, undecided, rfl, rfl⟩⟩
  | finalized advances decided finalizes =>
      exact ⟨_, _, _, rfl, advances,
        .inr ⟨Policy.verdict_ne_running decided, decided, ⟨_, finalizes⟩, rfl⟩⟩

/-- Outcomes agree with a trace if they are the final statuses that the children have returned. -/
def Agree (place : Place) (outcomes : List (Option Status)) (trace : Trace A) : Prop :=
  ∀ (position : Nat) (status : Status), outcomes[position]?.join = some status ↔
    status ≠ .running ∧ status ∈ trace.returnsAt (position :: place)

/-- A child has an outcome if and only if it has completed. -/
theorem Agree.eq_none_iff (agree : Agree place outcomes trace) (position : Nat) :
    outcomes[position]?.join = none ↔ ¬ trace.Completes place position := by
  rw [Option.eq_none_iff_forall_ne_some]
  constructor
  · rintro open' ⟨status, member, final⟩
    exact open' status ((agree position status).2 ⟨final, member⟩)
  · intro open' status known
    obtain ⟨final, member⟩ := (agree position status).1 known
    exact open' ⟨status, member, final⟩

/-- To be running is no outcome. -/
theorem Agree.running_not_mem (agree : Agree place outcomes trace) : some .running ∉ outcomes := by
  intro member
  obtain ⟨position, taken⟩ := List.mem_iff_getElem?.1 member
  exact ((agree position .running).1 (by rw [taken]; rfl)).1 rfl

/-- Each child has one outcome at most. -/
theorem Agree.unique (agree : Agree place outcomes trace) {first second : Status}
    (former : first ∈ trace.returnsAt (position :: place))
    (latter : second ∈ trace.returnsAt (position :: place)) (final : first ≠ .running)
    (last : second ≠ .running) : first = second := by
  have one := (agree position first).2 ⟨final, former⟩
  have other := (agree position second).2 ⟨last, latter⟩
  exact Option.some.inj (one.symm.trans other)

/-- Outcomes that agree with a trace are counted as the trace tells. -/
theorem Agree.count_eq (agree : Agree place outcomes trace) (final : status ≠ .running) :
    outcomes.count (some status) = trace.tally place outcomes.length status := by
  have listed : outcomes = (List.range outcomes.length).map fun position =>
      outcomes[position]?.join := by
    apply List.ext_getElem (by simp)
    intro position inside _
    simp [inside]
  rw [Trace.tally]
  conv_lhs => rw [listed]
  rw [List.count_eq_countP, List.countP_map]
  apply List.countP_congr
  intro position _
  simp [agree position status, final]

/-- A final status is its own outcome. -/
theorem outcomeOf_eq_some {returned : Status} :
    outcomeOf returned = some status ↔ returned = status ∧ status ≠ .running := by
  cases returned <;> cases status <;> simp [outcomeOf]

/-- Outcomes go on agreeing with the trace of an advance of the children. -/
theorem Advances.agree (advances : Advances 0 (padded outcomes count) touches later (.ok ()))
    (fewer : outcomes.length ≤ count) (agree : Agree place outcomes run)
    (returns : ∀ position < count, trace.returnsAt (position :: place) =
      (Behavior.touchesOf position touches).filterMap Touch.returned?)
    (absent : ∀ position, count ≤ position → trace.returnsAt (position :: place) = []) :
    Agree place later (run ++ trace) := by
  intro position status
  rw [Trace.returnsAt_append, List.mem_append]
  by_cases inside : position < count
  · have known := getElem?_padded outcomes inside
    obtain ⟨fresh, finished⟩ := advances.touchesOf position
    rw [Nat.zero_add] at fresh finished
    rw [returns position inside]
    have former := agree position status
    cases remembered : outcomes[position]?.join with
    | none =>
        rw [remembered] at known former
        obtain ⟨returned, ticked, outcome⟩ := fresh known
        have last : [Touch.ticked (.ok returned)].filterMap Touch.returned? = [returned] := rfl
        rw [ticked, outcome, last, List.mem_singleton, Option.join_some, outcomeOf_eq_some]
        grind
    | some outcome =>
        rw [remembered] at known former
        obtain ⟨untouched, kept⟩ := finished outcome known
        rw [untouched, kept, List.filterMap_nil, Option.join_some, former]
        simp
  · have beyond : count ≤ position := Nat.le_of_not_lt inside
    have length := advances.length_eq.trans (length_padded outcomes count)
    rw [absent position beyond, List.getElem?_eq_none (by omega)]
    have unknown := agree position status
    rw [List.getElem?_eq_none (by omega)] at unknown
    simpa using unknown

end Composite

end Behavior
