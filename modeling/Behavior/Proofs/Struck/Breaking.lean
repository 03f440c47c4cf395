import Behavior.Proofs.Idle.Treatment

namespace Behavior

variable {A : Agent} {D : Type}

/-- The status that a child has returned in some touches. -/
def returnedIn (touches : List (Nat × Touch)) (position : Nat) : Option Status :=
  (touchesOf position touches).findSome? Touch.returned?

theorem returnedIn_cons_self (position : Nat) (status : Status) (touches : List (Nat × Touch)) :
    returnedIn ((position, .ticked (.ok status)) :: touches) position = some status := by
  rw [returnedIn, touchesOf_cons_self]
  rfl

theorem returnedIn_cons_of_ne {position other : Nat} (different : other ≠ position) (touch : Touch)
    (touches : List (Nat × Touch)) :
    returnedIn ((other, touch) :: touches) position = returnedIn touches position := by
  rw [returnedIn, touchesOf_cons_of_ne different, returnedIn]

/-- A timeout has spent the time of the tick. No other decorator changes before its child returns. -/
def Decorator.suspend (clock : Clock) : Decorator A → Decorator A
  | timeout limit elapsed => timeout limit (elapsed + clock.deltaTime)
  | own => own

/-- A parallel node has recorded the children that have finished. No other composite changes before
all of its children have returned. -/
def Composite.suspend (returned : Nat → Option Status) (count : Nat) : Composite → Composite
  | .parallel policy outcomes =>
      .parallel policy ((padded outcomes count).mapIdx fun position outcome =>
        outcome.or ((returned position).bind outcomeOf))
  | own => own

namespace Body

variable {Child Other : Type}

/-- A body as the tick of a child that is cut short leaves it, apart from its children. -/
def suspend (clock : Clock) (returned : Nat → Option Status) : Body A Child → Body A Child
  | .leaf own => .leaf own
  | .decorator own child => .decorator (own.suspend clock) child
  | .choice own yes no => .choice own.forget yes no
  | .composite own nodes => .composite (own.suspend returned nodes.length) nodes

/-- A choice that routes to one child abandons the other one. -/
def Abandons (body : Body A Child) (chosen position : Nat) : Prop :=
  match body with
  | .choice own _ _ =>
      ∃ branch : Branch, branch.position = chosen ∧ branch.other.position = position ∧
        own.Abandons branch.other
  | _ => False

/-- What is suspended depends on the statuses of its own children alone. -/
theorem suspend_congr {clock : Clock} {returned others : Nat → Option Status}
    {body : Body A Child}
    (same : ∀ position < body.children.length, returned position = others position) :
    body.suspend clock returned = body.suspend clock others := by
  match body with
  | .leaf _ | .decorator _ _ | .choice _ _ _ => rfl
  | .composite own nodes =>
      match own with
      | .selector _ | .sequence _ | .reactiveSelector _ | .reactiveSequence _ => rfl
      | .parallel policy outcomes =>
          have list : (Composite.padded outcomes nodes.length).mapIdx
                (fun position outcome => outcome.or ((returned position).bind Composite.outcomeOf)) =
              (Composite.padded outcomes nodes.length).mapIdx
                (fun position outcome => outcome.or ((others position).bind Composite.outcomeOf)) := by
            apply List.ext_getElem?
            intro position
            by_cases inside : position < nodes.length
            · rw [List.getElem?_mapIdx, List.getElem?_mapIdx, same position inside]
            · have outside : (Composite.padded outcomes nodes.length).length ≤ position := by
                rw [Composite.length_padded]
                omega
              rw [List.getElem?_eq_none (by simpa using outside),
                List.getElem?_eq_none (by simpa using outside)]
          simp only [suspend, Composite.suspend, list]

end Body

/-- Some touches break off at a child if its tick is cut short and is the only one of its touches,
and if each other child has been left alone, has returned before, or has been abandoned. -/
structure BreaksOff (abandons : Nat → Prop) (position : Nat) (panic : Panic)
    (touches : List (Nat × Touch)) : Prop where
  struck : touchesOf position touches = [.ticked (.error panic)]
  others : ∀ other ≠ position, touchesOf other touches = [] ∨
    (∃ status, touchesOf other touches = [.ticked (.ok status)]) ∨
      abandons other ∧ touchesOf other touches = [.aborted (.ok ())]

variable {abandons : Nat → Prop} {position start count : Nat} {panic : Panic} {status : Status}
  {touches : List (Nat × Touch)}

theorem breaksOff_single : BreaksOff abandons position panic [(position, .ticked (.error panic))] where
  struck := touchesOf_cons_self _ _ _
  others _ different := .inl (touchesOf_cons_of_ne different.symm _ _)

/-- Before the child that breaks off, another one may have returned. -/
theorem BreaksOff.cons (breaks : BreaksOff abandons position panic touches)
    (fresh : touchesOf start touches = []) :
    BreaksOff abandons position panic ((start, .ticked (.ok status)) :: touches) := by
  have different : start ≠ position := by
    rintro rfl
    rw [breaks.struck] at fresh
    cases fresh
  constructor
  · rw [touchesOf_cons_of_ne different, breaks.struck]
  · intro other apart
    by_cases here : start = other
    · subst here
      rw [touchesOf_cons_self, fresh]
      exact .inr (.inl ⟨status, rfl⟩)
    · rw [touchesOf_cons_of_ne here]
      exact breaks.others other apart

namespace Decorator

variable {clock : Clock} {answer running : Bool} {own next : Decorator A}

/-- A decorator that ticks its child is suspended until the child returns. -/
theorem suspend_of_decide (decided : own.decide clock answer running = (next, .tick)) :
    next = own.suspend clock := by
  cases own with
  | guard | whileTrue | reactiveGuard | invert | forceSuccess | forceFailure | repeating
  | retrying => exact (Prod.mk.inj decided).1.symm
  | timeout limit elapsed =>
      rw [decide] at decided
      split at decided
      case isTrue => cases (Prod.mk.inj decided).2
      case isFalse => exact (Prod.mk.inj decided).1.symm
  | cooldown period remaining =>
      rw [decide] at decided
      split at decided
      case isTrue => cases (Prod.mk.inj decided).2
      case isFalse => exact (Prod.mk.inj decided).1.symm

/-- A decorator whose child is cut short is suspended. -/
theorem Plays.breaksOff {result : Except Panic Status}
    (plays : own.Plays clock answer running touches result next)
    (failed : (position, .ticked (.error panic)) ∈ touches) :
    result = .error panic ∧ BreaksOff abandons position panic touches ∧ next = own.suspend clock := by
  cases plays with
  | skipped | aborted | ticked | renewed => simp at failed
  | unwound other decided =>
      cases List.mem_singleton.1 failed
      exact ⟨rfl, breaksOff_single, suspend_of_decide decided⟩

end Decorator

namespace Choice

variable {own next : Choice A} {hasNo answer : Bool} {branch : Branch}

/-- To give up a branch ticks nothing. -/
theorem Abandonment.not_mem_ticked {result : Except Panic Unit} {returned : Except Panic Status}
    (abandonment : own.Abandonment hasNo branch touches result) :
    (position, .ticked returned) ∉ touches := by
  cases abandonment <;> simp

/-- A choice whose branch is cut short is no longer active, and has abandoned the other branch. -/
theorem Plays.breaksOff {result : Except Panic Status}
    (plays : own.Plays hasNo answer touches result next)
    (failed : (position, .ticked (.error panic)) ∈ touches) :
    result = .error panic ∧ next = own.forget ∧
      BreaksOff (fun other => ∃ branch : Branch, branch.position = position ∧
        branch.other.position = other ∧ own.Abandons branch.other) position panic touches := by
  cases plays with
  | unwound abandonment | missing abandonment => exact absurd failed abandonment.not_mem_ticked
  | routed result abandonment present =>
      have last := (List.mem_append.1 failed).resolve_left abandonment.not_mem_ticked
      cases List.mem_singleton.1 last
      refine ⟨rfl, rfl, ?_⟩
      generalize Branch.ofBool answer = branch at abandonment present
      constructor
      · rw [touchesOf_append, abandonment.touchesOf_other]
        exact touchesOf_cons_self _ _ _
      · intro other different
        rw [touchesOf_append, touchesOf_cons_of_ne different.symm, touchesOf_nil, List.append_nil]
        cases abandonment with
        | spared => exact .inl rfl
        | aborted abandons =>
            by_cases here : branch.other.position = other
            · subst here
              exact .inr (.inr ⟨⟨branch, rfl, rfl, abandons⟩, touchesOf_cons_self _ _ _⟩)
            · exact .inl (touchesOf_cons_of_ne here _ _)

end Choice

namespace Composite

variable {skip : Status} {own next : Composite}

/-- A scan breaks off at the child that panics. -/
theorem Scans.breaksOff {outcome : Except Panic (Option Stop)}
    (scans : Scans skip start count touches outcome)
    (failed : (position, .ticked (.error panic)) ∈ touches) :
    outcome = .error panic ∧ BreaksOff abandons position panic touches := by
  induction scans with
  | exhausted | stopped => simp at failed
  | unwound other =>
      cases List.mem_singleton.1 failed
      exact ⟨rfl, breaksOff_single⟩
  | @skipped start _ _ _ rest inductionHypothesis =>
      have later := (List.mem_cons.1 failed).resolve_left (by simp)
      obtain ⟨ended, breaks⟩ := inductionHypothesis later
      exact ⟨ended, breaks.cons (rest.touchesOf_below (Nat.lt_succ_self start))⟩

/-- Preemption ticks nothing. -/
theorem Preempts.not_mem_ticked {stop : Option Nat} {positions : List Nat}
    {outcome : Except Panic Unit} {returned : Except Panic Status}
    (preempts : Preempts stop count positions touches outcome) :
    (position, .ticked returned) ∉ touches := by
  induction preempts with
  | done | unwound | outside => simp
  | kept _ _ inductionHypothesis => exact inductionHypothesis
  | aborted _ _ _ inductionHypothesis => simpa using inductionHypothesis

/-- Finalization ticks nothing. -/
theorem Finalizes.not_mem_ticked {outcomes later : List (Option Status)}
    {result : Except Panic Unit} {returned : Except Panic Status}
    (finalizes : Finalizes start outcomes touches later result) :
    (position, .ticked returned) ∉ touches := by
  induction finalizes with
  | done | unwound => simp
  | finished _ inductionHypothesis => exact inductionHypothesis
  | aborted _ inductionHypothesis => simpa using inductionHypothesis

/-- An advance that breaks off has recorded the children that have finished. -/
theorem Advances.breaksOff {outcomes later : List (Option Status)} {result : Except Panic Unit}
    (advances : Advances start outcomes touches later result)
    (failed : (position, .ticked (.error panic)) ∈ touches) :
    result = .error panic ∧ BreaksOff abandons position panic touches ∧
      later = outcomes.mapIdx fun index outcome =>
        outcome.or ((returnedIn touches (start + index)).bind outcomeOf) := by
  induction advances with
  | done => simp at failed
  | @finished start outcome _ _ touches _ rest inductionHypothesis =>
      obtain ⟨ended, breaks, recorded⟩ := inductionHypothesis failed
      refine ⟨ended, breaks, ?_⟩
      have shifted (index : Nat) :
          returnedIn touches (start + (index + 1)) = returnedIn touches (start + 1 + index) := by
        rw [Nat.add_right_comm, Nat.add_assoc]
      simp only [List.mapIdx_cons, recorded, shifted, Option.some_or]
  | @ticked start returned _ _ touches _ rest inductionHypothesis =>
      have fresh : Behavior.touchesOf start touches = [] := rest.touchesOf_below (Nat.lt_succ_self start)
      have later := (List.mem_cons.1 failed).resolve_left (by simp)
      obtain ⟨ended, breaks, recorded⟩ := inductionHypothesis later
      refine ⟨ended, breaks.cons fresh, ?_⟩
      have shifted (index : Nat) :
          returnedIn ((start, .ticked (.ok returned)) :: touches) (start + (index + 1)) =
            returnedIn touches (start + 1 + index) := by
        rw [returnedIn_cons_of_ne (by omega), Nat.add_right_comm, Nat.add_assoc]
      simp only [List.mapIdx_cons, recorded, shifted, Nat.add_zero, returnedIn_cons_self,
        Option.none_or, Option.bind_some]
  | @unwound start outcomes other =>
      cases List.mem_singleton.1 failed
      refine ⟨rfl, breaksOff_single, ?_⟩
      have unreturned (index : Nat) :
          returnedIn [(position, .ticked (.error panic))] (position + index) = none := by
        cases index with
        | zero =>
            rw [returnedIn, Nat.add_zero, touchesOf_cons_self]
            rfl
        | succ index => exact returnedIn_cons_of_ne (by omega) _ _
      simp only [unreturned, Option.bind_none, Option.or_none]
      exact (List.mapIdx_eq_iff.2 fun _ => by simp).symm

/-- A composite whose child is cut short is suspended. -/
theorem Plays.breaksOff {result : Except Panic Status}
    (plays : Plays count own touches result next)
    (failed : (position, .ticked (.error panic)) ∈ touches) :
    result = .error panic ∧ BreaksOff abandons position panic touches ∧
      next = own.suspend (returnedIn touches) count := by
  have resumed {remember : Option Nat → Composite} {skip : Status} {running : Option Nat}
      (resumes : Resumes remember skip running count touches result next) :
      result = .error panic ∧ BreaksOff abandons position panic touches ∧ next = remember running := by
    cases resumes with
    | outside => simp at failed
    | unwound _ scans =>
        obtain ⟨ended, breaks⟩ := scans.breaksOff failed
        exact ⟨congrArg _ (Except.error.inj ended), breaks, rfl⟩
    | ended _ scans =>
        have contrary : _ ∧ BreaksOff (fun _ => False) position panic touches := scans.breaksOff failed
        cases contrary.1
  have reacted {running : List Nat} {skip : Status} {kept unwound : Composite}
      {settled : Option Stop → Composite}
      (reacts : Reacts skip running kept unwound settled count touches result next) :
      result = .error panic ∧ BreaksOff abandons position panic touches ∧ next = kept := by
    cases reacts with
    | scanUnwound scans =>
        obtain ⟨ended, breaks⟩ := scans.breaksOff failed
        exact ⟨congrArg _ (Except.error.inj ended), breaks, rfl⟩
    | preemptionUnwound scans preempts | ended scans preempts =>
        have scanned := (List.mem_append.1 failed).resolve_right preempts.not_mem_ticked
        have contrary : _ ∧ BreaksOff (fun _ => False) position panic _ := scans.breaksOff scanned
        cases contrary.1
  cases plays with
  | selector resumes | sequence resumes => exact resumed resumes
  | reactiveSelector reacts | reactiveSequence reacts => exact reacted reacts
  | parallel concurs =>
      cases concurs with
      | advanceUnwound advances =>
          obtain ⟨ended, breaks, recorded⟩ := advances.breaksOff failed
          refine ⟨congrArg _ (Except.error.inj ended), breaks, ?_⟩
          simp only [recorded, suspend, Nat.zero_add]
      | continued advances =>
          have contrary : _ ∧ BreaksOff (fun _ => False) position panic _ ∧ _ :=
            advances.breaksOff failed
          cases contrary.1
      | finalizationUnwound advances _ finalizes | finalized advances _ finalizes =>
          have advanced := (List.mem_append.1 failed).resolve_right finalizes.not_mem_ticked
          have contrary : _ ∧ BreaksOff (fun _ => False) position panic _ ∧ _ :=
            advances.breaksOff advanced
          cases contrary.1

end Composite

/-- A body whose child is cut short ends with the panic and is suspended. -/
theorem Body.Plays.breaksOff {clock : Clock} {answer : Bool} {body changed : Body A (Node A)}
    {result : Except Panic Status} (plays : body.Plays clock answer touches result changed)
    (failed : (position, .ticked (.error panic)) ∈ touches) :
    result = .error panic ∧ BreaksOff (body.Abandons position) position panic touches ∧
      changed.shape = (body.suspend clock (returnedIn touches)).shape := by
  cases plays with
  | decorator plays =>
      obtain ⟨ended, breaks, rfl⟩ := plays.breaksOff failed
      exact ⟨ended, breaks, rfl⟩
  | @choice _ _ _ _ no changedNo _ _ plays kept =>
      obtain ⟨ended, rfl, breaks⟩ := plays.breaksOff failed
      refine ⟨ended, breaks, ?_⟩
      have branches : (changedNo.map fun _ => ()) = no.map fun _ => () := by
        cases no <;> cases changedNo <;> simp_all
      simp only [Body.shape, Body.map, Body.suspend, branches]
  | composite plays kept =>
      obtain ⟨ended, breaks, rfl⟩ := plays.breaksOff failed
      refine ⟨ended, breaks, ?_⟩
      simp only [Body.shape, Body.map, Body.suspend, List.map_const', kept]

end Behavior
