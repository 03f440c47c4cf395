import Behavior.Proofs.Idle.Coherence

namespace Behavior

variable {A : Agent} {D : Type}

/-- A child is treated so that it is running afterwards only if its parent is running too and
holds it. Only a parallel node that finishes drops a child that has just returned running. -/
inductive Treats (parallel : Prop) (status : Status) (held : Prop) (last : Option Status) :
    List Touch → Prop
  | spared (idle : last ≠ some .running) : Treats parallel status held last []
  | ticked (returned : Status) (kept : returned = .running → status = .running ∧ held) :
      Treats parallel status held last [.ticked (.ok returned)]
  | renewed (returned : Status) (finished : returned ≠ .running) :
      Treats parallel status held last [.ticked (.ok returned), .reset]
  | aborted : Treats parallel status held last [.aborted (.ok ())]
  | dropped (returned : Status)
      (outlived : returned = .running → parallel ∧ status ≠ .running) :
      Treats parallel status held last [.ticked (.ok returned), .aborted (.ok ())]

/-- A treatment stays one where more counts as parallel and more as held. -/
theorem Treats.imp {parallel more : Prop} {status : Status} {held kept : Prop}
    {last : Option Status} {touches : List Touch} (treats : Treats parallel status held last touches)
    (weaker : parallel → more) (keeps : held → kept) : Treats more status kept last touches := by
  cases treats with
  | spared idle => exact .spared idle
  | ticked returned busy => exact .ticked returned fun running => (busy running).imp_right keeps
  | renewed returned finished => exact .renewed returned finished
  | aborted => exact .aborted
  | dropped returned outlived =>
      exact .dropped returned fun running => (outlived running).imp_left weaker

namespace Decorator

variable {clock : Clock} {answer running : Bool} {own next : Decorator A} {status : Status}

/-- A decorator that skips its running child dangles or does not hold it. -/
theorem skip_spec (decided : own.decide clock answer running = (next, .skip status))
    (supervised : ¬ own.Dangles) (held : running = true → own.Holds) (sound : own.Sound) :
    running = false ∧ next.Settled ∧ next.Sound := by
  cases own with
  | guard | whileTrue => exact absurd trivial supervised
  | invert | forceSuccess | forceFailure => cases decided
  | repeating times count | retrying times count =>
      rw [decide] at decided
      split at decided
      case isFalse => cases decided
      case isTrue none =>
        cases decided
        exact ⟨Bool.eq_false_iff.2 fun busy => held busy none, sound none, sound⟩
  | timeout =>
      rw [decide] at decided
      split at decided <;> cases decided
  | cooldown period remaining =>
      rw [decide] at decided
      split at decided
      case isFalse => cases decided
      case isTrue blocked =>
        cases decided
        exact ⟨Bool.eq_false_iff.2 fun busy => held busy blocked, trivial, trivial⟩
  | reactiveGuard =>
      cases answer <;> cases running <;> cases decided
      exact ⟨rfl, trivial, trivial⟩

/-- A decorator that aborts its child settles. -/
theorem abort_spec (decided : own.decide clock answer running = (next, .abort status)) :
    next.Settled ∧ next.Sound := by
  cases own with
  | guard | whileTrue => cases answer <;> cases decided
  | invert | forceSuccess | forceFailure => cases decided
  | repeating | retrying | cooldown =>
      rw [decide] at decided
      split at decided <;> cases decided
  | timeout =>
      rw [decide] at decided
      split at decided
      case isFalse => cases decided
      case isTrue =>
        cases decided
        exact ⟨rfl, trivial⟩
  | reactiveGuard =>
      cases answer <;> cases running <;> cases decided
      exact ⟨trivial, trivial⟩

/-- A decorator that ticks its child holds it. -/
theorem tick_spec (decided : own.decide clock answer running = (next, .tick)) :
    next.Holds ∧ (own.Sound → next.Sound) := by
  cases own with
  | guard | whileTrue =>
      cases answer <;> cases decided
      exact ⟨trivial, fun sound => sound⟩
  | invert | forceSuccess | forceFailure =>
      cases decided
      exact ⟨trivial, fun sound => sound⟩
  | repeating | retrying | cooldown =>
      rw [decide] at decided
      split at decided
      case isTrue => cases decided
      case isFalse some =>
        cases decided
        exact ⟨some, fun sound => sound⟩
  | timeout =>
      rw [decide] at decided
      split at decided
      case isTrue => cases decided
      case isFalse =>
        cases decided
        exact ⟨trivial, fun sound => sound⟩
  | reactiveGuard =>
      cases answer <;> cases running <;> cases decided <;> exact ⟨trivial, fun sound => sound⟩

/-- A settlement on a running status keeps the child; any other settles the decorator. -/
theorem settle_spec (holds : own.Holds) (sound : own.Sound) (status : Status) :
    (status = .running → (own.settle status).status = .running ∧ (own.settle status).own.Holds ∧
      (own.settle status).resets = false) ∧
    ((own.settle status).status ≠ .running → (own.settle status).own.Settled) ∧
    (own.settle status).own.Sound := by
  cases own with
  | guard | whileTrue | reactiveGuard | invert | forceSuccess | forceFailure =>
      cases status <;>
        simp_all [settle, Status.invert, Status.force, Status.isRunning, Holds, Settled, Sound]
  | repeating times count | retrying times count =>
      cases status with
      | running => exact ⟨fun _ => ⟨rfl, holds, rfl⟩, fun finished => absurd rfl finished, sound⟩
      | success | failure =>
          simp only [settle, settleRound]
          repeat' split
          all_goals simp_all [Settled, Sound, Holds]
  | timeout | cooldown =>
      cases status <;> simp_all [settle, Holds, Settled, Sound]

/-- A decorator that does not dangle treats its child well and ends settled. -/
theorem Plays.treats {touches : List (Nat × Touch)} {last : Option Status}
    (plays : own.Plays clock answer (last == some .running) touches (.ok status) next)
    (supervised : ¬ own.Dangles) (held : last = some .running → own.Holds) (sound : own.Sound) :
    Treats False status next.Holds last (touchesOf 0 touches) ∧
      (status ≠ .running → next.Settled) ∧ next.Sound := by
  generalize returns : (.ok status : Except Panic Status) = outcome at plays
  cases plays with
  | skipped decided =>
      cases returns
      obtain ⟨idle, settled, sound⟩ := skip_spec decided supervised (by simpa using held) sound
      exact ⟨.spared (by simpa using idle), fun _ => settled, sound⟩
  | aborted result decided =>
      cases result with
      | error => cases returns
      | ok =>
          cases returns
          obtain ⟨settled, sound⟩ := abort_spec decided
          exact ⟨.aborted, fun _ => settled, sound⟩
  | unwound => cases returns
  | ticked returned decided keeps =>
      cases returns
      obtain ⟨holds, kept⟩ := tick_spec decided
      obtain ⟨busy, settled, sound⟩ := settle_spec holds (kept sound) returned
      exact ⟨.ticked returned fun running => ⟨(busy running).1, (busy running).2.1⟩, settled, sound⟩
  | renewed returned decided resets =>
      cases returns
      obtain ⟨holds, kept⟩ := tick_spec decided
      obtain ⟨busy, settled, sound⟩ := settle_spec holds (kept sound) returned
      refine ⟨.renewed returned fun running => ?_, settled, sound⟩
      exact Bool.false_ne_true ((busy running).2.2.symm.trans resets)

end Decorator

theorem Branch.position_inj {first second : Branch} (same : first.position = second.position) :
    first = second := by
  cases first <;> cases second <;> first | rfl | cases same

/-- There are two branches. -/
theorem Branch.eq_other {first second : Branch} (different : first ≠ second) :
    first = second.other := by
  cases first <;> cases second <;> first | rfl | exact absurd rfl different

namespace Choice

variable {own next : Choice A} {hasNo answer : Bool} {touches : List (Nat × Touch)}
  {status : Status} {branch : Branch}

/-- An abandonment leaves the other branch alone. -/
theorem Abandonment.touchesOf_other {result : Except Panic Unit}
    (abandons : own.Abandonment hasNo branch.other touches result) :
    touchesOf branch.position touches = [] := by
  cases abandons with
  | spared => rfl
  | aborted => cases branch <;> rfl

/-- The branch that is given up is aborted, unless it is not there. -/
theorem Abandonment.touchesOf_self (abandons : own.Abandonment hasNo branch touches (.ok ())) :
    touchesOf branch.position touches = [.aborted (.ok ())] ∨
      touchesOf branch.position touches = [] ∧ (own.Abandons branch → ¬ branch.Present hasNo) := by
  cases abandons with
  | spared kept => exact .inr ⟨rfl, kept⟩
  | aborted => cases branch <;> exact .inl rfl

/-- The branch that the predicate does not choose is aborted if it has been left running. -/
theorem Abandonment.treats {last : Option Status} {held : Prop}
    (abandons : own.Abandonment hasNo branch touches (.ok ())) (present : branch.Present hasNo)
    (aborts : own.switch = .abort) (holds : last = some .running → own.active = some branch) :
    Treats False status held last (touchesOf branch.position touches) := by
  obtain aborted | ⟨spared, kept⟩ := abandons.touchesOf_self
  · rw [aborted]
    exact .aborted
  · rw [spared]
    exact .spared fun running => kept ⟨holds running, aborts⟩ present

/-- A choice that aborts on a switch treats each of its branches well and ends settled. -/
theorem Plays.treats (plays : own.Plays hasNo answer touches (.ok status) next)
    (aborts : own.switch = .abort) (branch : Branch) (present : branch.Present hasNo)
    {last : Option Status} (holds : last = some .running → own.active = some branch) :
    Treats False status (next.active = some branch) last (touchesOf branch.position touches) := by
  cases plays with
  | routed result abandons chosen =>
      rw [touchesOf_append]
      by_cases same : branch = Branch.ofBool answer
      · subst same
        rw [abandons.touchesOf_other, touchesOf_cons_self, touchesOf_nil, List.nil_append]
        refine .ticked status fun running => ⟨running, ?_⟩
        rw [running]
        rfl
      · have apart : (Branch.ofBool answer).position ≠ branch.position :=
          fun contrary => same (Branch.position_inj contrary).symm
        rw [touchesOf_cons_of_ne apart, touchesOf_nil, List.append_nil]
        obtain rfl := Branch.eq_other same
        exact abandons.treats present aborts holds
  | missing abandons absent =>
      have different : branch ≠ Branch.ofBool answer := fun same => absent (same ▸ present)
      obtain rfl := Branch.eq_other different
      exact abandons.treats present aborts holds

/-- A choice that finishes has no active branch. -/
theorem Plays.settled (plays : own.Plays hasNo answer touches (.ok status) next)
    (finished : status ≠ .running) : next.active = none := by
  cases plays with
  | missing => rfl
  | routed =>
      cases status with
      | running => exact absurd rfl finished
      | success | failure => rfl

end Choice

/-- A verdict is final. -/
theorem Policy.verdict_ne_running {policy : Policy} {children successes failures : Nat}
    {status : Status} (decided : policy.verdict children successes failures = some status) :
    status ≠ .running := by
  unfold verdict at decided
  repeat' split at decided
  all_goals cases decided
  all_goals decide

namespace Composite

variable {skip status : Status} {start count position : Nat} {stop : Option Stop}
  {touches : List (Nat × Touch)} {own next : Composite} {last : Option Status}

/-- A scan does not touch the children in front of its start. -/
theorem Scans.touchesOf_below {outcome : Except Panic (Option Stop)}
    (scans : Scans skip start count touches outcome) (below : position < start) :
    touchesOf position touches = [] := by
  induction scans with
  | exhausted => rfl
  | unwound | stopped => rw [touchesOf_cons_of_ne (by omega), touchesOf_nil]
  | skipped _ inductionHypothesis =>
      rw [touchesOf_cons_of_ne (by omega), inductionHypothesis (by omega)]

/-- A scan does not stop in front of its start. -/
theorem Scans.stop_le (scans : Scans skip start count touches (.ok stop))
    (stopped : stop.map Prod.fst = some position) : start ≤ position := by
  generalize ended : (.ok stop : Except Panic (Option Stop)) = outcome at scans
  induction scans with
  | exhausted | stopped =>
      cases ended
      simp_all
  | unwound => cases ended
  | skipped _ inductionHypothesis => exact Nat.le_of_succ_le (inductionHypothesis ended)

/-- A scan skips a child, stops at it, or stops before it. -/
theorem Scans.touchesOf_reached (scans : Scans skip start count touches (.ok stop))
    (reached : start ≤ position) (inside : position < start + count) :
    (touchesOf position touches = [.ticked (.ok skip)] ∧ stop.map Prod.fst ≠ some position) ∨
      (∃ returned, returned ≠ skip ∧ stop = some (position, returned) ∧
        touchesOf position touches = [.ticked (.ok returned)]) ∨
      (touchesOf position touches = [] ∧ start < position ∧
        stop.map Prod.fst ≠ some position) := by
  generalize ended : (.ok stop : Except Panic (Option Stop)) = outcome at scans
  induction scans with
  | exhausted => omega
  | unwound => cases ended
  | @stopped start _ returned stops =>
      cases ended
      by_cases here : start = position
      · subst here
        exact .inr (.inl ⟨returned, stops, rfl, by simp⟩)
      · refine .inr (.inr ⟨?_, by omega, by simpa using here⟩)
        rw [touchesOf_cons_of_ne here, touchesOf_nil]
  | @skipped start _ _ _ rest inductionHypothesis =>
      by_cases here : start = position
      · subst here
        rw [touchesOf_cons_self, rest.touchesOf_below (Nat.lt_succ_self _)]
        refine .inl ⟨rfl, fun contrary => ?_⟩
        subst ended
        exact absurd (rest.stop_le contrary) (by omega)
      · rw [touchesOf_cons_of_ne here]
        rcases inductionHypothesis (by omega) (by omega) ended with
          skipped | stopped | ⟨none, later, passed⟩
        · exact .inl skipped
        · exact .inr (.inl stopped)
        · exact .inr (.inr ⟨none, by omega, passed⟩)

/-- A scan that ends at no running child remembers none. -/
theorem runningOf_eq_none (ended : statusOf skip stop ≠ .running) :
    runningOf stop = none := by
  match stop with
  | none => rfl
  | some (_, .success) | some (_, .failure) => rfl
  | some (_, .running) => exact absurd rfl ended

/-- A resumed scan treats each child well if the child to resume is the only one left running. -/
theorem Resumes.treats {remember : Option Nat → Composite} {running : Option Nat}
    {parallel : Prop} (held : Composite → Prop) (finished : skip ≠ .running)
    (resumes : Resumes remember skip running count touches (.ok status) next)
    (inside : position < count) (holds : last = some .running → running = some position)
    (remembers : held (remember (some position))) :
    Treats parallel status (held next) last (touchesOf position touches) := by
  cases resumes with
  | ended within scans =>
      by_cases below : position < running.getD 0
      · rw [scans.touchesOf_below below]
        refine .spared fun busy => ?_
        rw [holds busy] at below
        exact Nat.lt_irrefl _ below
      · rcases scans.touchesOf_reached (Nat.le_of_not_lt below) (by omega) with
          ⟨skipped, _⟩ | ⟨returned, _, rfl, stopped⟩ | ⟨spared, later, _⟩
        · rw [skipped]
          exact .ticked skip fun contrary => absurd contrary finished
        · rw [stopped]
          refine .ticked returned fun busy => ?_
          subst busy
          exact ⟨rfl, remembers⟩
        · rw [spared]
          refine .spared fun busy => ?_
          rw [holds busy] at later
          exact Nat.lt_irrefl _ later

/-- A composite that finishes forgets its position. -/
theorem Resumes.settled {remember : Option Nat → Composite} {running : Option Nat}
    (resumes : Resumes remember skip running count touches (.ok status) next)
    (ended : status ≠ .running) : next = remember none := by
  cases resumes with
  | ended => rw [runningOf_eq_none ended]

/-- A preemption that no panic cuts short aborts exactly the remembered children that the scan has
not stopped at. -/
theorem Preempts.touchesOf {stop : Option Nat} {positions : List Nat}
    (preempts : Preempts stop count positions touches (.ok ())) (distinct : positions.Nodup) :
    touchesOf position touches =
      if position ∈ positions ∧ stop ≠ some position then [.aborted (.ok ())] else [] := by
  generalize ended : (.ok () : Except Panic Unit) = outcome at preempts
  induction preempts with
  | done => simp
  | kept stopped _ inductionHypothesis =>
      rw [inductionHypothesis distinct.of_cons ended]
      grind
  | @aborted first rest _ _ passed _ _ inductionHypothesis =>
      obtain ⟨absent, distinct⟩ := List.nodup_cons.1 distinct
      by_cases here : first = position
      · subst here
        rw [touchesOf_cons_self, inductionHypothesis distinct ended, ended]
        simp [absent, passed]
      · rw [touchesOf_cons_of_ne here, inductionHypothesis distinct ended]
        simp [Ne.symm here]
  | unwound | outside => cases ended

/-- A reaction treats each child well if it remembers the children that are running. -/
theorem Reacts.treats {running : List Nat} {kept unwound : Composite}
    {settled : Option Stop → Composite} {parallel : Prop} (held : Composite → Prop)
    (finished : skip ≠ .running) (distinct : running.Nodup)
    (reacts : Reacts skip running kept unwound settled count touches (.ok status) next)
    (inside : position < count) (holds : last = some .running → position ∈ running)
    (remembers : held (settled (some (position, .running)))) :
    Treats parallel status (held next) last (touchesOf position touches) := by
  cases reacts with
  | ended scans preempts =>
      rw [touchesOf_append, preempts.touchesOf distinct]
      rcases scans.touchesOf_reached (Nat.zero_le position) (by omega) with
        ⟨skipped, passed⟩ | ⟨returned, _, rfl, stopped⟩ | ⟨spared, _, passed⟩
      · rw [skipped]
        split
        · exact .dropped skip fun contrary => absurd contrary finished
        · exact .ticked skip fun contrary => absurd contrary finished
      · rw [stopped, if_neg fun contrary => contrary.2 rfl, List.append_nil]
        refine .ticked returned fun busy => ?_
        subst busy
        exact ⟨rfl, remembers⟩
      · rw [spared, List.nil_append]
        split
        · exact .aborted
        · rename_i absent
          exact .spared fun busy => absent ⟨holds busy, passed⟩

/-- What a reactive composite returns and keeps is decided by where its scan stops. -/
theorem Reacts.settled {running : List Nat} {kept unwound : Composite}
    {settled : Option Stop → Composite}
    (reacts : Reacts skip running kept unwound settled count touches (.ok status) next) :
    ∃ stop, status = statusOf skip stop ∧ next = settled stop := by
  cases reacts with
  | ended => exact ⟨_, rfl, rfl⟩

/-- An advance does not touch the children in front of its start. -/
theorem Advances.touchesOf_below {outcomes later : List (Option Status)}
    {result : Except Panic Unit} (advances : Advances start outcomes touches later result)
    (below : position < start) : Behavior.touchesOf position touches = [] := by
  induction advances with
  | done => rfl
  | unwound => rw [touchesOf_cons_of_ne (by omega), touchesOf_nil]
  | finished _ inductionHypothesis => exact inductionHypothesis (by omega)
  | ticked _ inductionHypothesis =>
      rw [touchesOf_cons_of_ne (by omega), inductionHypothesis (by omega)]

/-- A finalization does not touch the children in front of its start. -/
theorem Finalizes.touchesOf_below {outcomes later : List (Option Status)}
    {result : Except Panic Unit} (finalizes : Finalizes start outcomes touches later result)
    (below : position < start) : Behavior.touchesOf position touches = [] := by
  induction finalizes with
  | done => rfl
  | unwound => rw [touchesOf_cons_of_ne (by omega), touchesOf_nil]
  | finished _ inductionHypothesis => exact inductionHypothesis (by omega)
  | aborted _ inductionHypothesis =>
      rw [touchesOf_cons_of_ne (by omega), inductionHypothesis (by omega)]

/-- An advance ticks the children without an outcome and remembers what they have returned. -/
theorem Advances.touchesOf {outcomes later : List (Option Status)}
    (advances : Advances start outcomes touches later (.ok ())) (position : Nat) :
    (outcomes[position]? = some none → ∃ returned,
      touchesOf (start + position) touches = [.ticked (.ok returned)] ∧
        later[position]? = some (outcomeOf returned)) ∧
    (∀ outcome, outcomes[position]? = some (some outcome) →
      touchesOf (start + position) touches = [] ∧ later[position]? = some (some outcome)) := by
  generalize ended : (.ok () : Except Panic Unit) = result at advances
  induction advances generalizing position with
  | done => simp
  | @finished start outcome _ _ touches _ rest inductionHypothesis =>
      cases position with
      | zero =>
          have none : Behavior.touchesOf start touches = [] := rest.touchesOf_below (by omega)
          simp [none]
      | succ position =>
          have shifted : start + (position + 1) = start + 1 + position := by omega
          simpa [shifted] using inductionHypothesis position ended
  | @ticked start returned _ _ touches _ rest inductionHypothesis =>
      cases position with
      | zero =>
          have none : Behavior.touchesOf start touches = [] := rest.touchesOf_below (by omega)
          simp [none]
      | succ position =>
          have shifted : start + (position + 1) = start + 1 + position := by omega
          rw [shifted, touchesOf_cons_of_ne (by omega)]
          simpa using inductionHypothesis position ended
  | unwound => cases ended

/-- A finalization aborts exactly the children without an outcome. -/
theorem Finalizes.touchesOf {outcomes later : List (Option Status)}
    (finalizes : Finalizes start outcomes touches later (.ok ())) (position : Nat) :
    (outcomes[position]? = some none →
      touchesOf (start + position) touches = [.aborted (.ok ())]) ∧
    (∀ outcome, outcomes[position]? = some (some outcome) →
      touchesOf (start + position) touches = []) := by
  generalize ended : (.ok () : Except Panic Unit) = result at finalizes
  induction finalizes generalizing position with
  | done => simp
  | @finished start outcome _ _ touches _ rest inductionHypothesis =>
      cases position with
      | zero =>
          have none : Behavior.touchesOf start touches = [] := rest.touchesOf_below (by omega)
          simp [none]
      | succ position =>
          have shifted : start + (position + 1) = start + 1 + position := by omega
          simpa [shifted] using inductionHypothesis position ended
  | @aborted start _ _ touches _ rest inductionHypothesis =>
      cases position with
      | zero =>
          have none : Behavior.touchesOf start touches = [] := rest.touchesOf_below (by omega)
          simp [none, ended]
      | succ position =>
          have shifted : start + (position + 1) = start + 1 + position := by omega
          rw [shifted, touchesOf_cons_of_ne (by omega)]
          simpa using inductionHypothesis position ended
  | unwound => cases ended

/-- Missing outcomes are filled up without an outcome. -/
theorem getElem?_padded (outcomes : List (Option Status)) (inside : position < count) :
    (padded outcomes count)[position]? = some outcomes[position]?.join := by
  rw [padded, List.getElem?_take_of_lt inside]
  by_cases known : position < outcomes.length
  · simp [List.getElem?_append_left known, known]
  · rw [List.getElem?_append_right (by omega), List.getElem?_replicate_of_lt (by omega),
      List.getElem?_eq_none (by omega)]
    rfl

/-- Only a running child is without an outcome. -/
theorem outcomeOf_eq_none {returned : Status} :
    outcomeOf returned = none ↔ returned = .running := by
  cases returned <;> simp [outcomeOf]

/-- A parallel node treats each child well if the children with outcomes are not running. -/
theorem Concurs.treats {policy : Policy} {outcomes : List (Option Status)}
    (concurs : Concurs policy outcomes count touches (.ok status) next) (inside : position < count)
    (holds : last = some .running → outcomes[position]?.join = none) :
    Treats True status (next.Holds position) last (touchesOf position touches) := by
  have known := getElem?_padded outcomes inside
  cases concurs with
  | continued advances _ =>
      obtain ⟨fresh, finished⟩ := advances.touchesOf position
      rw [Nat.zero_add] at fresh finished
      cases remembered : outcomes[position]?.join with
      | none =>
          rw [remembered] at known
          obtain ⟨returned, ticked, later⟩ := fresh known
          rw [ticked]
          refine .ticked returned fun busy => ⟨rfl, ?_⟩
          simp [Holds, later, outcomeOf_eq_none.2 busy]
      | some outcome =>
          rw [remembered] at known
          rw [(finished outcome known).1]
          exact .spared fun busy => by simp [remembered] at holds; exact holds busy
  | finalized advances decided finalizes =>
      obtain ⟨fresh, finished⟩ := advances.touchesOf position
      obtain ⟨dropped, spared⟩ := finalizes.touchesOf position
      rw [Nat.zero_add] at fresh finished dropped spared
      rw [touchesOf_append]
      cases remembered : outcomes[position]?.join with
      | none =>
          rw [remembered] at known
          obtain ⟨returned, ticked, later⟩ := fresh known
          rw [ticked]
          cases outcome : outcomeOf returned with
          | none =>
              rw [dropped (later.trans (congrArg some outcome))]
              exact .dropped returned fun _ => ⟨trivial, Policy.verdict_ne_running decided⟩
          | some final =>
              rw [spared final (later.trans (congrArg some outcome)), List.append_nil]
              refine .ticked returned fun busy => ?_
              rw [outcomeOf_eq_none.2 busy] at outcome
              cases outcome
      | some outcome =>
          rw [remembered] at known
          obtain ⟨untouched, later⟩ := finished outcome known
          rw [untouched, spared outcome later]
          exact .spared fun busy => by simp [remembered] at holds; exact holds busy

/-- A composite treats each child well if it holds the children that are running. -/
theorem Plays.treats (plays : Plays count own touches (.ok status) next) (inside : position < count)
    (holds : last = some .running → own.Holds position) :
    Treats (own.kind = .parallel) status (next.Holds position) last
      (touchesOf position touches) := by
  cases plays with
  | selector resumes =>
      exact resumes.treats (fun next => next.Holds position) (by decide) inside holds rfl
  | sequence resumes =>
      exact resumes.treats (fun next => next.Holds position) (by decide) inside holds rfl
  | parallel concurs => simpa [kind] using concurs.treats inside holds
  | @reactiveSelector running _ _ _ reacts =>
      refine reacts.treats (fun next => next.Holds position) (by decide)
        (running.ascending.imp Nat.ne_of_lt) inside holds ?_
      simp [Holds, Positions.mem_def, runningOf]
  | @reactiveSequence running _ _ _ reacts =>
      refine reacts.treats (fun next => next.Holds position) (by decide) ?_ inside ?_ rfl
      · cases running <;> simp
      · simpa [Holds] using holds

/-- A composite that finishes is settled. -/
theorem Plays.settled (plays : Plays count own touches (.ok status) next)
    (ended : status ≠ .running) : next.Settled := by
  cases plays with
  | selector resumes | sequence resumes =>
      rw [resumes.settled ended]
      rfl
  | parallel concurs =>
      cases concurs with
      | continued => exact absurd rfl ended
      | finalized => rfl
  | reactiveSelector reacts =>
      obtain ⟨stop, rfl, rfl⟩ := reacts.settled
      rw [runningOf_eq_none ended, Positions.replace_none]
      rfl
  | reactiveSequence reacts =>
      obtain ⟨stop, rfl, rfl⟩ := reacts.settled
      rw [runningOf_eq_none ended]
      rfl

end Composite

namespace Body

variable {clock : Clock} {answer : Bool} {body changed : Body A (Node A)}
  {touches : List (Nat × Touch)} {status : Status} {position : Nat} {child : Node A}

/-- The children of a choice are its branches. -/
theorem branch_of_child {own : Choice A} {yes : Node A} {no : Option (Node A)}
    (present : (Body.choice own yes no).children[position]? = some child) :
    ∃ branch : Branch, branch.position = position ∧ branch.Present no.isSome := by
  rcases position with _ | _ | position
  · exact ⟨.yes, rfl, trivial⟩
  · refine ⟨.no, rfl, ?_⟩
    cases no <;> simp_all [children, Branch.Present]
  · cases no <;> simp [children] at present

/-- A body that does not dangle treats each child well if it holds the children that are running. -/
theorem Plays.treats (plays : body.Plays clock answer touches (.ok status) changed)
    (supervised : ¬ body.Dangles) (sound : body.Sound)
    (held : ∀ position child, body.children[position]? = some child →
      child.last = some .running → body.Holds position)
    (present : body.children[position]? = some child) :
    Treats (body.kind = .parallel) status (changed.Holds position) child.last
      (touchesOf position touches) := by
  have holds := held position child present
  cases plays with
  | @decorator own next _ _ _ _ plays =>
      obtain rfl : position = 0 := by
        have bound := (List.getElem?_eq_some_iff.1 present).1
        simpa [children] using bound
      cases present
      obtain ⟨treats, _⟩ := plays.treats supervised (fun busy => (holds busy).2) sound
      exact treats.imp False.elim fun kept => ⟨rfl, kept⟩
  | @choice own next yes _ no _ _ _ plays _ =>
      have aborts : own.switch = .abort := by
        cases switch : own.switch with
        | abort => rfl
        | keep => exact absurd switch supervised
      obtain ⟨branch, rfl, there⟩ := branch_of_child present
      have active (busy : child.last = some .running) : own.active = some branch := by
        obtain ⟨other, active, same⟩ := Option.map_eq_some_iff.1 (holds busy)
        rw [active, Branch.position_inj same]
      refine (plays.treats aborts branch there active).imp False.elim fun kept => ?_
      simp [Holds, kept]
  | composite plays _ =>
      exact plays.treats (List.getElem?_eq_some_iff.1 present).1 holds

/-- A body that does not dangle is settled when it finishes. -/
theorem Plays.settled (plays : body.Plays clock answer touches (.ok status) changed)
    (supervised : ¬ body.Dangles) (sound : body.Sound)
    (held : ∀ position child, body.children[position]? = some child →
      child.last = some .running → body.Holds position) :
    (status ≠ .running → changed.Settled) ∧ changed.Sound := by
  cases plays with
  | @decorator own next child _ _ _ plays =>
      exact (plays.treats supervised (fun busy => (held 0 child rfl busy).2) sound).2
  | choice plays _ => exact ⟨plays.settled, trivial⟩
  | composite plays _ => exact ⟨plays.settled, trivial⟩

end Body

end Behavior
