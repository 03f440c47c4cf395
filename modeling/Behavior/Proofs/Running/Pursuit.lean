import Behavior.Proofs.Valid.Bookkeeping

namespace Behavior

variable {A : Agent} {D : Type}

/-- An iteration counts a round if its child has returned the goal and more rounds are to come. -/
inductive Decorator.Counts : Decorator A → Status → Decorator A → Prop
  | repeating {times count : Nat} (more : count + 1 < times) :
      Counts (.repeating times count) .success (.repeating times (count + 1))
  | retrying {times attempts : Nat} (more : attempts + 1 < times) :
      Counts (.retrying times attempts) .failure (.retrying times (attempts + 1))

/-- Some touches pursue a child if it has returned running and has been left alone otherwise. -/
def Pursued (touches : List (Nat × Touch)) : Prop :=
  ∃ position, touchesOf position touches = [.ticked (.ok .running)]

namespace Decorator

variable {clock : Clock} {answer running : Bool} {own next : Decorator A} {status goal : Status}

/-- A decorator that does not tick its child is not running. -/
theorem decide_ne_running
    (decided : own.decide clock answer running = (next, .skip status) ∨
      own.decide clock answer running = (next, .abort status)) : status ≠ .running := by
  rintro rfl
  cases own with
  | guard | whileTrue => cases answer <;> simp [decide] at decided
  | reactiveGuard => cases answer <;> cases running <;> simp [decide] at decided
  | invert | forceSuccess | forceFailure => simp [decide] at decided
  | repeating | retrying | timeout | cooldown =>
      simp only [decide] at decided
      split at decided <;> simp at decided

/-- An iteration that ticks its child has not changed before. -/
theorem Counts.of_decide (decided : own.decide clock answer running = (next, .tick))
    {settled : Decorator A} (counts : next.Counts goal settled) : own.Counts goal settled := by
  cases own with
  | guard | whileTrue =>
      cases answer <;> cases decided
      cases counts
  | reactiveGuard =>
      cases answer <;> cases running <;> cases decided <;> cases counts
  | invert | forceSuccess | forceFailure =>
      cases decided
      cases counts
  | repeating | retrying =>
      rw [decide] at decided
      split at decided <;> cases decided
      exact counts
  | timeout | cooldown =>
      rw [decide] at decided
      split at decided <;> cases decided
      cases counts

/-- A round that leaves an iteration running counts, or its child is still running. -/
theorem settleRound_running {own : Nat → Decorator A} {times count : Nat}
    (counts : count + 1 < times → (own count).Counts goal (own (count + 1)))
    (finished : goal ≠ .running)
    (busy : (settleRound own goal times count status).status = .running) :
    (status = .running ∧ (settleRound own goal times count status).resets = false) ∨
      ((settleRound own goal times count status).resets = true ∧
        (own count).Counts status (settleRound own goal times count status).own) := by
  by_cases waits : status = .running
  · subst waits
    exact .inl ⟨rfl, rfl⟩
  · have round : settleRound own goal times count status =
        if status = goal then
          if times ≤ count + 1 then ⟨own 0, goal, false⟩ else ⟨own (count + 1), .running, true⟩
        else ⟨own 0, status, false⟩ := by
      cases status with
      | running => exact absurd rfl waits
      | success | failure => rfl
    rw [round] at busy ⊢
    by_cases reached : status = goal
    · subst reached
      by_cases enough : times ≤ count + 1
      · simp only [if_true, if_pos enough] at busy
        exact absurd busy waits
      · rw [if_pos rfl, if_neg enough]
        exact .inr ⟨rfl, counts (Nat.lt_of_not_le enough)⟩
    · rw [if_neg reached] at busy
      exact absurd busy waits

/-- A decorator settles on running for a running child, or for another round. -/
theorem settle_running (busy : (own.settle status).status = .running) :
    (status = .running ∧ (own.settle status).resets = false) ∨
      ((own.settle status).resets = true ∧ own.Counts status (own.settle status).own) := by
  cases own with
  | repeating => exact settleRound_running (fun more => .repeating more) (by decide) busy
  | retrying => exact settleRound_running (fun more => .retrying more) (by decide) busy
  | _ => cases status <;> simp_all [settle, Status.invert, Status.force, Status.isRunning]

/-- A running decorator pursues its child, unless it has counted a round. -/
theorem Plays.pursues {touches : List (Nat × Touch)}
    (plays : own.Plays clock answer running touches (.ok .running) next) :
    Pursued touches ∨ ∃ goal, own.Counts goal next ∧
      touches = [(0, .ticked (.ok goal)), (0, .reset)] := by
  generalize returned : (.ok .running : Except Panic Status) = result at plays
  cases plays with
  | skipped decided =>
      cases returned
      exact absurd rfl (decide_ne_running (.inl decided))
  | aborted result decided =>
      cases result with
      | error => cases returned
      | ok =>
          cases returned
          exact absurd rfl (decide_ne_running (.inr decided))
  | unwound => cases returned
  | ticked status decided keeps =>
      have busy := (Except.ok.inj returned).symm
      rcases settle_running busy with ⟨rfl, _⟩ | ⟨resets, _⟩
      · exact .inl ⟨0, by simp⟩
      · exact absurd (keeps.symm.trans resets) Bool.false_ne_true
  | renewed status decided resets =>
      have busy := (Except.ok.inj returned).symm
      rcases settle_running busy with ⟨_, keeps⟩ | ⟨_, counts⟩
      · exact absurd (keeps.symm.trans resets) Bool.false_ne_true
      · exact .inr ⟨status, counts.of_decide decided, rfl⟩

end Decorator

/-- A choice that returns running has ticked the branch that it has chosen. -/
theorem Choice.Plays.pursues {own next : Choice A} {hasNo answer : Bool}
    {touches : List (Nat × Touch)} (plays : own.Plays hasNo answer touches (.ok .running) next) :
    Pursued touches := by
  cases plays with
  | routed result abandons =>
      refine ⟨(Branch.ofBool answer).position, ?_⟩
      rw [touchesOf_append, abandons.touchesOf_other, touchesOf_cons_self, touchesOf_nil,
        List.nil_append]

namespace Composite

variable {skip : Status} {start count : Nat} {stop : Option Stop} {touches : List (Nat × Touch)}
  {own next : Composite} {outcomes later : List (Option Status)}

/-- A scan whose status is running has stopped at a running child. -/
theorem Scans.stop_of_running (scans : Scans skip start count touches (.ok stop))
    (finished : skip ≠ .running) (busy : statusOf skip stop = .running) :
    ∃ position, stop = some (position, .running) ∧
      touchesOf position touches = [.ticked (.ok .running)] := by
  match stop with
  | none => exact absurd busy finished
  | some (position, status) =>
      obtain rfl : status = .running := busy
      refine ⟨position, rfl, ?_⟩
      rcases scans.touchesOf_reached (scans.stop_le rfl) (scans.stop_lt rfl) with
        ⟨_, passed⟩ | ⟨returned, _, same, ticked⟩ | ⟨_, _, passed⟩
      · exact absurd rfl passed
      · cases same
        exact ticked
      · exact absurd rfl passed

/-- A running composite pursues the child at which it has stopped. -/
theorem Resumes.pursues {remember : Option Nat → Composite} {running : Option Nat}
    (resumes : Resumes remember skip running count touches (.ok .running) next)
    (finished : skip ≠ .running) : Pursued touches := by
  generalize returned : (.ok .running : Except Panic Status) = result at resumes
  cases resumes with
  | outside | unwound => cases returned
  | ended _ scans =>
      obtain ⟨position, _, ticked⟩ := scans.stop_of_running finished (Except.ok.inj returned).symm
      exact ⟨position, ticked⟩

/-- A preemption does not touch the child that has been selected. -/
theorem Reacts.pursues {running : List Nat} {kept unwound : Composite}
    {settled : Option Stop → Composite}
    (reacts : Reacts skip running kept unwound settled count touches (.ok .running) next)
    (finished : skip ≠ .running) (distinct : running.Nodup) : Pursued touches := by
  generalize returned : (.ok .running : Except Panic Status) = result at reacts
  cases reacts with
  | scanUnwound | preemptionUnwound => cases returned
  | ended scans preempts =>
      obtain ⟨position, rfl, ticked⟩ :=
        scans.stop_of_running finished (Except.ok.inj returned).symm
      refine ⟨position, ?_⟩
      rw [touchesOf_append, ticked, preempts.touchesOf distinct, if_neg fun passed => passed.2 rfl,
        List.append_nil]

/-- Final outcomes are successes and failures. -/
theorem count_final (finished : none ∉ outcomes) (final : some .running ∉ outcomes) :
    outcomes.count (some .success) + outcomes.count (some .failure) = outcomes.length := by
  induction outcomes with
  | nil => rfl
  | cons outcome rest inductionHypothesis =>
      rw [List.mem_cons, not_or] at finished final
      have tail := inductionHypothesis finished.2 final.2
      match outcome with
      | none => exact absurd rfl finished.1
      | some .running => exact absurd rfl final.1
      | some .success =>
          rw [List.count_cons_self, List.count_cons_of_ne (by decide), List.length_cons]
          omega
      | some .failure =>
          rw [List.count_cons_self, List.count_cons_of_ne (by decide), List.length_cons]
          omega

/-- Finished children alone force a verdict, whatever the policy asks for. -/
theorem none_mem_of_undecided {policy : Policy} (length : outcomes.length = count)
    (final : some .running ∉ outcomes) (undecided : verdictOn policy count outcomes = none) :
    none ∈ outcomes := by
  by_contra finished
  have counts := count_final finished final
  unfold verdictOn Policy.verdict at undecided
  split at undecided
  case isTrue => cases undecided
  case isFalse few =>
    split at undecided
    case isTrue => cases undecided
    case isFalse many => omega

/-- A child that has no outcome after an advance has been ticked and is running. -/
theorem Advances.touchesOf_of_none {position : Nat}
    (advances : Advances 0 outcomes touches later (.ok ())) (taken : later[position]? = some none) :
    Behavior.touchesOf position touches = [.ticked (.ok .running)] := by
  have inside : position < outcomes.length := by
    rw [← advances.length_eq]
    exact (List.getElem?_eq_some_iff.1 taken).1
  obtain ⟨fresh, finished⟩ := advances.touchesOf position
  rw [Nat.zero_add] at fresh finished
  have known := List.getElem?_eq_getElem inside
  cases remembered : outcomes[position] with
  | some outcome =>
      rw [remembered] at known
      have contrary := (finished outcome known).2.symm.trans taken
      cases contrary
  | none =>
      rw [remembered] at known
      obtain ⟨returned, ticked, outcome⟩ := fresh known
      have busy : returned = .running := by
        rw [← outcomeOf_eq_none]
        exact Option.some.inj (outcome.symm.trans taken)
      rw [ticked, busy]

/-- A child without an outcome is pursued. -/
theorem Advances.pursues (advances : Advances 0 outcomes touches later (.ok ()))
    (unfinished : none ∈ later) : Pursued touches := by
  obtain ⟨position, taken⟩ := List.mem_iff_getElem?.1 unfinished
  exact ⟨position, advances.touchesOf_of_none taken⟩

/-- A running parallel node pursues a child without an outcome. -/
theorem Concurs.pursues {policy : Policy}
    (concurs : Concurs policy outcomes count touches (.ok .running) next)
    (final : some .running ∉ outcomes) : Pursued touches := by
  generalize returned : (.ok .running : Except Panic Status) = result at concurs
  cases concurs with
  | advanceUnwound | finalizationUnwound => cases returned
  | finalized _ decided =>
      cases returned
      exact absurd rfl (Policy.verdict_ne_running decided)
  | continued advances undecided =>
      have padding : some .running ∉ padded outcomes count := fun member =>
        (mem_padded member).elim final nofun
      have length := advances.length_eq.trans (length_padded outcomes count)
      exact advances.pursues
        (none_mem_of_undecided length (advances.final padding) undecided)

/-- A valid composite that returns running has a child that does. -/
theorem Plays.pursues (plays : Plays count own touches (.ok .running) next)
    (valid : own.Valid count) : Pursued touches := by
  cases plays with
  | selector resumes | sequence resumes => exact resumes.pursues (by decide)
  | parallel concurs => exact concurs.pursues valid.2.2
  | @reactiveSelector running _ _ _ reacts =>
      exact reacts.pursues (by decide) (running.ascending.imp Nat.ne_of_lt)
  | @reactiveSequence running _ _ _ reacts =>
      refine reacts.pursues (by decide) ?_
      cases running <;> simp

end Composite

/-- A valid body that returns running has a child that does, or counts a round of its child. -/
theorem Body.Plays.pursues {clock : Clock} {answer : Bool} {body changed : Body A (Node A)}
    {touches : List (Nat × Touch)} (plays : body.Plays clock answer touches (.ok .running) changed)
    (valid : body.Valid) :
    Pursued touches ∨ ∃ own goal next child final, body = .decorator own child ∧
      changed = .decorator next final ∧ own.Counts goal next ∧
        touches = [(0, .ticked (.ok goal)), (0, .reset)] := by
  cases plays with
  | decorator plays =>
      refine plays.pursues.imp_right ?_
      rintro ⟨goal, counts, same⟩
      exact ⟨_, goal, _, _, _, rfl, rfl, counts, same⟩
  | choice plays => exact .inl plays.pursues
  | composite plays => exact .inl (plays.pursues valid)

end Behavior
