import Behavior.Proofs.Touch.Node

namespace Behavior

variable {A : Agent}

def Touch.isTicked : Touch → Bool
  | ticked _ => true
  | _ => false

/-- The positions of the children that some touches tick, in the order of the touches. -/
def tickedOf (touches : List (Nat × Touch)) : List Nat :=
  touches.filterMap fun touch =>
    match touch.2 with
    | .ticked _ => some touch.1
    | _ => none

@[simp] theorem tickedOf_nil : tickedOf [] = [] := rfl

/-- Ticked positions come touch by touch. -/
@[simp] theorem tickedOf_append (first second : List (Nat × Touch)) :
    tickedOf (first ++ second) = tickedOf first ++ tickedOf second :=
  List.filterMap_append

@[simp] theorem tickedOf_cons_ticked (position : Nat) (result : Except Panic Status)
    (touches : List (Nat × Touch)) :
    tickedOf ((position, .ticked result) :: touches) = position :: tickedOf touches := rfl

@[simp] theorem tickedOf_cons_aborted (position : Nat) (result : Except Panic Unit)
    (touches : List (Nat × Touch)) :
    tickedOf ((position, .aborted result) :: touches) = tickedOf touches := rfl

/-- A child that is ticked is among the ticked ones. -/
theorem mem_tickedOf {touches : List (Nat × Touch)} {position : Nat} {result : Except Panic Status}
    (member : .ticked result ∈ touchesOf position touches) : position ∈ tickedOf touches :=
  List.mem_filterMap.2 ⟨_, mem_touchesOf.1 member, rfl⟩

/-- Where no child is ticked, none returns. -/
theorem returned_of_unticked {touches : List (Nat × Touch)} (unticked : tickedOf touches = [])
    (position : Nat) : (touchesOf position touches).filterMap Touch.returned? = [] := by
  apply List.filterMap_eq_nil_iff.2
  intro touch member
  cases touch with
  | ticked result =>
      have listed := mem_tickedOf member
      rw [unticked] at listed
      cases listed
  | aborted | reset => rfl

/-- A child is ticked as often as its position is listed. -/
theorem countP_touchesOf (position : Nat) (touches : List (Nat × Touch)) :
    (touchesOf position touches).countP Touch.isTicked = (tickedOf touches).count position := by
  induction touches with
  | nil => rfl
  | cons first rest inductionHypothesis =>
      obtain ⟨other, touch⟩ := first
      by_cases same : other = position
      · subst same
        rw [touchesOf_cons_self, List.countP_cons, inductionHypothesis]
        cases touch with
        | ticked => exact List.count_cons_self.symm
        | aborted | reset => rfl
      · rw [touchesOf_cons_of_ne same, inductionHypothesis]
        cases touch with
        | ticked => exact (List.count_cons_of_ne same).symm
        | aborted | reset => rfl

/-- Touches ascend from a start if they tick children in their order, and none before the start. -/
structure Ascending (start : Nat) (touches : List (Nat × Touch)) : Prop where
  ordered : (tickedOf touches).Pairwise (· < ·)
  behind : ∀ position ∈ tickedOf touches, start ≤ position

variable {touches more : List (Nat × Touch)} {position start : Nat} {status : Status}
  {result : Except Panic Status}

/-- Touches that tick no child ascend from anywhere. -/
theorem ascending_of_unticked (unticked : tickedOf touches = []) : Ascending start touches where
  ordered := by
    rw [unticked]
    exact .nil
  behind := by
    rw [unticked]
    exact fun _ member => absurd member List.not_mem_nil

theorem ascending_nil : Ascending start [] := ascending_of_unticked rfl

/-- A tick of the child at the start comes first. -/
theorem Ascending.cons (rest : Ascending (start + 1) touches) (result : Except Panic Status) :
    Ascending start ((start, .ticked result) :: touches) where
  ordered := List.pairwise_cons.2 ⟨rest.behind, rest.ordered⟩
  behind := List.forall_mem_cons.2
    ⟨Nat.le_refl start, fun later member => Nat.le_of_succ_le (rest.behind later member)⟩

/-- Touches that ascend from the next position ascend from this one. -/
theorem Ascending.of_succ (ascending : Ascending (start + 1) touches) : Ascending start touches where
  ordered := ascending.ordered
  behind position member := Nat.le_of_succ_le (ascending.behind position member)

/-- One tick ascends. -/
theorem ascending_ticked (result : Except Panic Status) :
    Ascending start [(start, .ticked result)] :=
  ascending_nil.cons result

/-- Aborts stand anywhere among ticks without disturbing their order. -/
theorem Ascending.append_unticked (ascending : Ascending start touches)
    (unticked : tickedOf more = []) : Ascending start (touches ++ more) where
  ordered := by
    rw [tickedOf_append, unticked, List.append_nil]
    exact ascending.ordered
  behind := by
    rw [tickedOf_append, unticked, List.append_nil]
    exact ascending.behind

/-- Each child is ticked at most once. -/
theorem Ascending.countP_le_one (ascending : Ascending start touches) (position : Nat) :
    (touchesOf position touches).countP Touch.isTicked ≤ 1 := by
  rw [countP_touchesOf]
  have distinct : (tickedOf touches).Nodup := ascending.ordered.imp Nat.ne_of_lt
  rw [distinct.count]
  split <;> decide

theorem calm_nil : ∀ touch ∈ ([] : List (Nat × Touch)), touch.2.Calm :=
  fun _ member => absurd member List.not_mem_nil

/-- A calm touch comes before other calm ones. -/
theorem calm_cons {touch : Touch} (calm : touch.Calm) (rest : ∀ touch ∈ touches, touch.2.Calm) :
    ∀ other ∈ (position, touch) :: touches, other.2.Calm :=
  List.forall_mem_cons.2 ⟨calm, rest⟩

theorem calm_ticked (status : Status) : (Touch.ticked (.ok status)).Calm := ⟨status, rfl⟩

theorem calm_reset : Touch.reset.Calm := trivial

theorem calm_aborted : (Touch.aborted (.ok ())).Calm := rfl

namespace Decorator

variable {clock : Clock} {answer running : Bool} {own next : Decorator A}

/-- A decorator ticks its child once at most. -/
theorem Plays.ascending (plays : own.Plays clock answer running touches result next) :
    Ascending 0 touches := by
  cases plays with
  | skipped => exact ascending_nil
  | aborted => exact ascending_of_unticked rfl
  | unwound | ticked => exact ascending_ticked _
  | renewed => exact (ascending_of_unticked rfl).cons _

/-- A decorator that returns has not been cut short. -/
theorem Plays.calm (plays : own.Plays clock answer running touches (.ok status) next) :
    ∀ touch ∈ touches, touch.2.Calm := by
  generalize returned : (.ok status : Except Panic Status) = result at plays
  cases plays with
  | skipped => exact calm_nil
  | aborted result =>
      cases result with
      | error => cases returned
      | ok => exact calm_cons calm_aborted calm_nil
  | unwound => cases returned
  | ticked => exact calm_cons (calm_ticked _) calm_nil
  | renewed => exact calm_cons (calm_ticked _) (calm_cons calm_reset calm_nil)

end Decorator

namespace Choice

variable {own next : Choice A} {hasNo answer : Bool} {branch : Branch} {final : Except Panic Unit}

/-- To give up a branch ticks none. -/
theorem Abandonment.unticked (abandons : own.Abandonment hasNo branch touches final) :
    tickedOf touches = [] := by
  cases abandons with
  | spared | aborted => rfl

/-- A branch that is given up without a panic is touched calmly. -/
theorem Abandonment.calm (abandons : own.Abandonment hasNo branch touches (.ok ())) :
    ∀ touch ∈ touches, touch.2.Calm := by
  cases abandons with
  | spared => exact calm_nil
  | aborted => exact calm_cons calm_aborted calm_nil

/-- A choice ticks one branch at most. -/
theorem Plays.ascending (plays : own.Plays hasNo answer touches result next) :
    Ascending 0 touches := by
  cases plays with
  | unwound abandons | missing abandons => exact ascending_of_unticked abandons.unticked
  | routed result abandons =>
      constructor <;> simp [abandons.unticked]

/-- A choice that returns has not been cut short. -/
theorem Plays.calm (plays : own.Plays hasNo answer touches (.ok status) next) :
    ∀ touch ∈ touches, touch.2.Calm := by
  cases plays with
  | routed _ abandons =>
      exact List.forall_mem_append.2 ⟨abandons.calm, calm_cons (calm_ticked _) calm_nil⟩
  | missing abandons => exact abandons.calm

end Choice

namespace Composite

variable {skip : Status} {count : Nat} {own next : Composite} {stop : Option Stop}
  {outcomes later : List (Option Status)} {positions : List Nat} {final : Except Panic Unit}
  {outcome : Except Panic (Option Stop)} {target : Option Nat}

/-- A scan ticks from its start on, in order. -/
theorem Scans.ascending (scans : Scans skip start count touches outcome) :
    Ascending start touches := by
  induction scans with
  | exhausted => exact ascending_nil
  | unwound | stopped => exact ascending_ticked _
  | skipped _ inductionHypothesis => exact inductionHypothesis.cons _

/-- A scan that stops has been calm so far. -/
theorem Scans.calm (scans : Scans skip start count touches (.ok stop)) :
    ∀ touch ∈ touches, touch.2.Calm := by
  generalize ended : (.ok stop : Except Panic (Option Stop)) = outcome at scans
  induction scans with
  | exhausted => exact calm_nil
  | unwound => cases ended
  | stopped => exact calm_cons (calm_ticked _) calm_nil
  | skipped _ inductionHypothesis => exact calm_cons (calm_ticked _) (inductionHypothesis ended)

/-- A preemption ticks no child. -/
theorem Preempts.unticked (preempts : Preempts target count positions touches final) :
    tickedOf touches = [] := by
  induction preempts with
  | done | unwound | outside => rfl
  | kept _ _ inductionHypothesis | aborted _ _ _ inductionHypothesis => exact inductionHypothesis

/-- A preemption without a panic is calm. -/
theorem Preempts.calm (preempts : Preempts target count positions touches (.ok ())) :
    ∀ touch ∈ touches, touch.2.Calm := by
  generalize ended : (.ok () : Except Panic Unit) = outcome at preempts
  induction preempts with
  | done => exact calm_nil
  | kept _ _ inductionHypothesis => exact inductionHypothesis ended
  | aborted _ _ _ inductionHypothesis => exact calm_cons calm_aborted (inductionHypothesis ended)
  | unwound | outside => cases ended

/-- An advance goes through the children in their order. -/
theorem Advances.ascending (advances : Advances start outcomes touches later final) :
    Ascending start touches := by
  induction advances with
  | done => exact ascending_nil
  | unwound => exact ascending_ticked _
  | finished _ inductionHypothesis => exact inductionHypothesis.of_succ
  | ticked _ inductionHypothesis => exact inductionHypothesis.cons _

/-- An advance without a panic is calm. -/
theorem Advances.calm (advances : Advances start outcomes touches later (.ok ())) :
    ∀ touch ∈ touches, touch.2.Calm := by
  generalize ended : (.ok () : Except Panic Unit) = result at advances
  induction advances with
  | done => exact calm_nil
  | unwound => cases ended
  | finished _ inductionHypothesis => exact inductionHypothesis ended
  | ticked _ inductionHypothesis => exact calm_cons (calm_ticked _) (inductionHypothesis ended)

/-- A finalization ticks no child. -/
theorem Finalizes.unticked (finalizes : Finalizes start outcomes touches later final) :
    tickedOf touches = [] := by
  induction finalizes with
  | done | unwound => rfl
  | finished _ inductionHypothesis | aborted _ inductionHypothesis => exact inductionHypothesis

/-- A finalization without a panic is calm. -/
theorem Finalizes.calm (finalizes : Finalizes start outcomes touches later (.ok ())) :
    ∀ touch ∈ touches, touch.2.Calm := by
  generalize ended : (.ok () : Except Panic Unit) = result at finalizes
  induction finalizes with
  | done => exact calm_nil
  | finished _ inductionHypothesis => exact inductionHypothesis ended
  | aborted _ inductionHypothesis => exact calm_cons calm_aborted (inductionHypothesis ended)
  | unwound => cases ended

/-- A resumption goes on in the order of the children. -/
theorem Resumes.ascending {remember : Option Nat → Composite} {running : Option Nat}
    (resumes : Resumes remember skip running count touches result next) : Ascending 0 touches := by
  cases resumes with
  | outside => exact ascending_nil
  | unwound _ scans | ended _ scans =>
      exact ⟨scans.ascending.ordered, fun _ _ => Nat.zero_le _⟩

/-- A resumption that returns has been calm. -/
theorem Resumes.calm {remember : Option Nat → Composite} {running : Option Nat}
    (resumes : Resumes remember skip running count touches (.ok status) next) :
    ∀ touch ∈ touches, touch.2.Calm := by
  cases resumes with
  | ended _ scans => exact scans.calm

/-- A reaction goes through the children in their order. -/
theorem Reacts.ascending {running : List Nat} {kept unwound : Composite}
    {settled : Option Stop → Composite}
    (reacts : Reacts skip running kept unwound settled count touches result next) :
    Ascending 0 touches := by
  cases reacts with
  | scanUnwound scans => exact scans.ascending
  | preemptionUnwound scans preempts | ended scans preempts =>
      exact scans.ascending.append_unticked preempts.unticked

/-- A reaction that returns has been calm. -/
theorem Reacts.calm {running : List Nat} {kept unwound : Composite}
    {settled : Option Stop → Composite}
    (reacts : Reacts skip running kept unwound settled count touches (.ok status) next) :
    ∀ touch ∈ touches, touch.2.Calm := by
  cases reacts with
  | ended scans preempts => exact List.forall_mem_append.2 ⟨scans.calm, preempts.calm⟩

/-- A parallel node ticks its children in their order. -/
theorem Concurs.ascending {policy : Policy}
    (concurs : Concurs policy outcomes count touches result next) : Ascending 0 touches := by
  cases concurs with
  | advanceUnwound advances | continued advances => exact advances.ascending
  | finalizationUnwound advances _ finalizes | finalized advances _ finalizes =>
      exact advances.ascending.append_unticked finalizes.unticked

/-- A parallel node that returns has been calm. -/
theorem Concurs.calm {policy : Policy}
    (concurs : Concurs policy outcomes count touches (.ok status) next) :
    ∀ touch ∈ touches, touch.2.Calm := by
  cases concurs with
  | continued advances => exact advances.calm
  | finalized advances _ finalizes => exact List.forall_mem_append.2 ⟨advances.calm, finalizes.calm⟩

/-- Whatever a composite plays, it ticks its children in their order. -/
theorem Plays.ascending (plays : Plays count own touches result next) : Ascending 0 touches := by
  cases plays with
  | selector resumes | sequence resumes => exact resumes.ascending
  | parallel concurs => exact concurs.ascending
  | reactiveSelector reacts | reactiveSequence reacts => exact reacts.ascending

/-- A composite that returns has not been cut short anywhere. -/
theorem Plays.calm (plays : Plays count own touches (.ok status) next) :
    ∀ touch ∈ touches, touch.2.Calm := by
  cases plays with
  | selector resumes | sequence resumes => exact resumes.calm
  | parallel concurs => exact concurs.calm
  | reactiveSelector reacts | reactiveSequence reacts => exact reacts.calm

end Composite

namespace Body

variable {clock : Clock} {answer : Bool} {body changed : Body A (Node A)}

/-- Whatever a body plays, it ticks its children in their order. -/
theorem Plays.ascending (plays : body.Plays clock answer touches result changed) :
    Ascending 0 touches := by
  cases plays with
  | decorator plays => exact plays.ascending
  | choice plays => exact plays.ascending
  | composite plays => exact plays.ascending

/-- No panic cuts short what a body does with its children if it returns. -/
theorem Plays.calm (plays : body.Plays clock answer touches (.ok status) changed) :
    ∀ touch ∈ touches, touch.2.Calm := by
  cases plays with
  | decorator plays => exact plays.calm
  | choice plays => exact plays.calm
  | composite plays => exact plays.calm

end Body

end Behavior
