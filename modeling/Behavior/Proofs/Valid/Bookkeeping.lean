import Behavior.Proofs.History
import Behavior.Proofs.Idle.Treatment
import Behavior.Proofs.Touch.Descent

namespace Behavior

variable {A : Agent} {D : Type}

/-- An iteration has counted fewer rounds than it asks for, and a limit of time is a duration. -/
def Decorator.Valid : Decorator A → Prop
  | .repeating times count => 0 < times → count < times
  | .retrying times attempts => 0 < times → attempts < times
  | .timeout limit _ => IsDuration limit
  | .cooldown period _ => IsDuration period
  | _ => True

/-- Remembered positions are positions of children. A parallel node has a policy that its children
can satisfy, and remembers no more outcomes than it has children, all of them final. -/
def Composite.Valid : Composite → Nat → Prop
  | .selector running, count => ∀ position, running = some position → position < count
  | .sequence running, count => ∀ position, running = some position → position < count
  | .parallel policy outcomes, count =>
      policy.Satisfiable count ∧ outcomes.length ≤ count ∧ some .running ∉ outcomes
  | .reactiveSelector running, count => ∀ position ∈ running, position < count
  | .reactiveSequence running, count => ∀ position, running = some position → position < count

def Body.Valid {Child : Type} : Body A Child → Prop
  | .decorator own _ => own.Valid
  | .composite own children => own.Valid children.length
  | _ => True

/-- A valid node remembers what fits its children and its limits. -/
def Node.Valid (node : Node A) : Prop := node.body.Valid

namespace Decorator

variable {clock : Clock} {answer running : Bool} {own next : Decorator A}

/-- A decision changes times alone. -/
theorem valid_decide (clock : Clock) (answer running : Bool) (valid : own.Valid) :
    (own.decide clock answer running).1.Valid := by
  cases own with
  | timeout | cooldown =>
      rw [decide]
      split <;> exact valid
  | _ => exact valid

/-- A round either ends the iteration or counts up to less than its goal. -/
theorem valid_settleRound {own : Nat → Decorator A} {goal : Status} {times count : Nat}
    (iterates : ∀ count, (own count).Valid ↔ (0 < times → count < times))
    (valid : (own count).Valid) (status : Status) :
    (settleRound own goal times count status).own.Valid := by
  rw [iterates] at valid
  cases status with
  | running => exact (iterates count).2 valid
  | success | failure =>
      simp only [settleRound]
      repeat' split
      all_goals rw [iterates]
      all_goals omega

/-- A decorator that settles stays valid. -/
theorem valid_settle (valid : own.Valid) (status : Status) : (own.settle status).own.Valid := by
  cases own with
  | repeating | retrying => exact valid_settleRound (fun _ => Iff.rfl) valid status
  | _ => exact valid

/-- A decorator stays valid whatever it plays. -/
theorem Plays.valid {touches : List (Nat × Touch)} {result : Except Panic Status}
    (plays : own.Plays clock answer running touches result next) (valid : own.Valid) :
    next.Valid := by
  have decides := valid_decide clock answer running valid
  cases plays with
  | skipped decided | aborted _ decided | unwound _ decided => rwa [decided] at decides
  | ticked status decided | renewed status decided =>
      rw [decided] at decides
      exact valid_settle decides status

end Decorator

namespace Composite

variable {skip : Status} {start count position : Nat} {stop : Option Stop}
  {touches : List (Nat × Touch)} {own next : Composite} {outcomes later : List (Option Status)}

/-- A scan stops within its range. -/
theorem Scans.stop_lt (scans : Scans skip start count touches (.ok stop))
    (stopped : stop.map Prod.fst = some position) : position < start + count := by
  generalize ended : (.ok stop : Except Panic (Option Stop)) = outcome at scans
  induction scans with
  | exhausted =>
      cases ended
      cases stopped
  | unwound => cases ended
  | stopped =>
      cases ended
      cases stopped
      omega
  | skipped _ inductionHypothesis =>
      have below := inductionHypothesis ended
      omega

/-- The running position of a stop is the position of the stop. -/
theorem stop_of_runningOf (running : runningOf stop = some position) :
    stop.map Prod.fst = some position := by
  match stop with
  | some (_, .running) => exact running
  | none | some (_, .success) | some (_, .failure) => cases running

/-- A composite that resumes remembers a child of its own. -/
theorem Resumes.valid {remember : Option Nat → Composite} {running : Option Nat}
    {result : Except Panic Status}
    (remembers : ∀ running, (remember running).Valid count ↔
      ∀ position, running = some position → position < count)
    (resumes : Resumes remember skip running count touches result next)
    (valid : (remember running).Valid count) : next.Valid count := by
  cases resumes with
  | outside | unwound => exact valid
  | ended inside scans =>
      rw [remembers]
      intro position running
      have below := scans.stop_lt (stop_of_runningOf running)
      omega

/-- A reactive composite remembers children of its own. -/
theorem Reacts.valid {running : List Nat} {kept unwound : Composite}
    {settled : Option Stop → Composite} {result : Except Panic Status}
    (reacts : Reacts skip running kept unwound settled count touches result next)
    (keeps : kept.Valid count) (unwinds : unwound.Valid count)
    (settles : ∀ stop, (∀ position, runningOf stop = some position → position < count) →
      (settled stop).Valid count) : next.Valid count := by
  cases reacts with
  | scanUnwound => exact keeps
  | preemptionUnwound => exact unwinds
  | ended scans =>
      refine settles _ fun position running => ?_
      simpa using scans.stop_lt (stop_of_runningOf running)

/-- Outcomes are filled up with nothing else than missing ones. -/
theorem mem_padded {outcome : Option Status} (member : outcome ∈ padded outcomes count) :
    outcome ∈ outcomes ∨ outcome = none := by
  have listed := List.mem_of_mem_take member
  rw [List.mem_append] at listed
  exact listed.imp_right List.eq_of_mem_replicate

/-- To be running is no outcome. -/
theorem outcomeOf_ne_running (status : Status) : outcomeOf status ≠ some .running := by
  cases status <;> simp [outcomeOf]

/-- An advance remembers final outcomes alone. -/
theorem Advances.final {result : Except Panic Unit}
    (advances : Advances start outcomes touches later result) (final : some .running ∉ outcomes) :
    some .running ∉ later := by
  induction advances with
  | done | unwound => exact final
  | finished _ inductionHypothesis =>
      rw [List.mem_cons, not_or] at final ⊢
      exact ⟨final.1, inductionHypothesis final.2⟩
  | @ticked _ status _ _ _ _ _ inductionHypothesis =>
      rw [List.mem_cons, not_or] at final ⊢
      exact ⟨(outcomeOf_ne_running status).symm, inductionHypothesis final.2⟩

/-- A finalization keeps one outcome for each child. -/
theorem Finalizes.length_eq {result : Except Panic Unit}
    (finalizes : Finalizes start outcomes touches later result) :
    later.length = outcomes.length := by
  induction finalizes with
  | done | unwound => rfl
  | finished _ inductionHypothesis | aborted _ inductionHypothesis => simp [inductionHypothesis]

/-- A finalization only gives up outcomes. -/
theorem Finalizes.final {result : Except Panic Unit}
    (finalizes : Finalizes start outcomes touches later result)
    (final : some .running ∉ outcomes) : some .running ∉ later := by
  induction finalizes with
  | done | unwound => exact final
  | finished _ inductionHypothesis | aborted _ inductionHypothesis =>
      rw [List.mem_cons, not_or] at final ⊢
      exact ⟨nofun, inductionHypothesis final.2⟩

/-- A parallel node keeps no more outcomes than it has children, and none that is running. -/
theorem Concurs.valid {policy : Policy} {result : Except Panic Status}
    (concurs : Concurs policy outcomes count touches result next)
    (valid : (parallel policy outcomes).Valid count) : next.Valid count := by
  obtain ⟨satisfiable, _, final⟩ := valid
  have padding : some .running ∉ padded outcomes count := fun member =>
    (mem_padded member).elim final nofun
  have length := length_padded outcomes count
  cases concurs with
  | advanceUnwound advances | continued advances =>
      exact ⟨satisfiable, Nat.le_of_eq (advances.length_eq.trans length), advances.final padding⟩
  | finalizationUnwound advances _ finalizes =>
      have lengths := finalizes.length_eq.trans (advances.length_eq.trans length)
      exact ⟨satisfiable, Nat.le_of_eq lengths, finalizes.final (advances.final padding)⟩
  | finalized => exact ⟨satisfiable, Nat.zero_le _, List.not_mem_nil⟩

/-- Whatever a composite plays, it remembers what fits its children. -/
theorem Plays.valid {result : Except Panic Status} (plays : Plays count own touches result next)
    (valid : own.Valid count) : next.Valid count := by
  cases plays with
  | selector resumes | sequence resumes => exact resumes.valid (fun _ => Iff.rfl) valid
  | parallel concurs => exact concurs.valid valid
  | reactiveSelector reacts =>
      refine reacts.valid valid valid fun stop below position member => below position ?_
      simpa [Positions.mem_def, eq_comm] using member
  | reactiveSequence reacts => exact reacts.valid valid nofun fun _ below => below

end Composite

namespace Body

variable {Child : Type}

/-- A body that has forgotten its run is as valid as before. -/
theorem valid_rested {body : Body A Child} (valid : body.Valid) : body.rested.Valid := by
  cases body with
  | leaf | choice => trivial
  | decorator own child =>
      cases own with
      | repeating | retrying => exact fun some => some
      | _ => exact valid
  | composite own children =>
      cases own with
      | selector | sequence | reactiveSequence => exact nofun
      | parallel => exact ⟨valid.1, Nat.zero_le _, List.not_mem_nil⟩
      | reactiveSelector => exact fun _ member => absurd member (Positions.not_mem_empty _)

/-- Only the number of the children matters to whether a body is valid. -/
theorem valid_map {Other : Type} (change : Child → Other) (body : Body A Child) :
    (body.map change).Valid ↔ body.Valid := by
  cases body with
  | leaf | decorator | choice => exact Iff.rfl
  | composite own children => simp [map, Valid]

/-- A valid body stays valid whatever it works at. -/
theorem Works.valid {context : Context D} {info : NodeInfo} {body changed : Body A (Node A)}
    {before after : Stage A D} {trace : Trace A} {result : Except Panic Status}
    (works : body.Works context info before trace result changed after) (valid : body.Valid) :
    changed.Valid := by
  cases works with
  | leaf => trivial
  | refused => exact valid
  | played _ _ plays =>
      cases plays with
      | decorator plays => exact plays.valid valid
      | choice => trivial
      | composite plays kept =>
          have next := plays.valid valid
          rwa [← kept] at next

end Body

namespace Node

variable {context : Context D} {node changed : Node A} {touch : Touch} {before after : Stage A D}
  {trace : Trace A}

/-- A valid node is valid after it has been cleared. -/
theorem valid_cleared (valid : node.Valid) : node.cleared.Valid := by
  rw [Valid, body_cleared]
  exact Body.valid_rested ((Body.valid_map _ _).2 valid)

/-- Every touch keeps a node valid, also one that a panic cuts short. -/
theorem Undergoes.valid (undergoes : node.Undergoes context touch before trace changed after)
    (valid : node.Valid) : changed.Valid := by
  cases undergoes with
  | reset resets =>
      rw [cleared_of_reset resets]
      exact valid_cleared valid
  | aborted aborts =>
      obtain rfl | rfl := cleared_or_same_of_abortIn aborts
      · exact valid_cleared valid
      · exact valid
  | ticked ticks =>
      cases ticked_of_tick ticks with
      | refused => exact valid
      | unwound _ works | returned _ works => exact works.valid valid

/-- One more child leaves the positions of the others and makes no policy harder to satisfy. -/
theorem valid_of_addChild {child : Node A} (accepted : node.addChild child = .ok changed)
    (valid : node.Valid) : changed.Valid := by
  obtain ⟨tag, own, nodes, rfl, rfl⟩ := addChild_spec accepted
  have longer : (nodes ++ [child]).length = nodes.length + 1 := by simp
  rw [Valid, Body.Valid] at valid ⊢
  rw [longer]
  cases own with
  | selector | sequence | reactiveSequence =>
      exact fun position running => Nat.lt_succ_of_lt (valid position running)
  | reactiveSelector =>
      exact fun position member => Nat.lt_succ_of_lt (valid position member)
  | parallel policy outcomes =>
      obtain ⟨satisfiable, fewer, final⟩ := valid
      refine ⟨?_, Nat.le_succ_of_le fewer, final⟩
      cases policy with
      | any | all => trivial
      | quorum => exact satisfiable.imp_right Nat.le_succ_of_le

/-- What the constructors accept is valid. -/
theorem Built.valid (built : node.Built) : node.Everywhere Valid := by
  induction built with
  | condition | action | asyncAction =>
      exact everywhere_mk trivial fun _ member => absurd member List.not_mem_nil
  | selector _ below | sequence _ below | reactiveSequence _ below => exact everywhere_mk nofun below
  | reactiveSelector _ below =>
      exact everywhere_mk (fun _ member => absurd member (Positions.not_mem_empty _)) below
  | parallel accepted _ below =>
      unfold Node.parallel at accepted
      split at accepted
      case isTrue satisfiable =>
        cases accepted
        exact everywhere_mk ⟨satisfiable, Nat.zero_le _, List.not_mem_nil⟩ below
      case isFalse => cases accepted
  | guard _ _ below | whileTrue _ _ below | reactiveGuard _ _ below | invert _ below
  | forceSuccess _ below | forceFailure _ below =>
      exact everywhere_mk trivial (by simpa [ofBody, Body.children] using below)
  | repeating _ _ below | retrying _ _ below =>
      exact everywhere_mk (fun some => some) (by simpa [ofBody, Body.children] using below)
  | ifElse _ _ _ _ belowYes belowNo =>
      refine everywhere_mk trivial ?_
      simp only [Body.children, List.mem_cons, Option.mem_toList]
      rintro child (rfl | member)
      · exact belowYes
      · exact belowNo child member
  | timeout accepted _ below =>
      unfold Node.timeout at accepted
      split at accepted
      case isTrue duration =>
        cases accepted
        exact everywhere_mk duration (by simpa [Body.children] using below)
      case isFalse => cases accepted
  | cooldown accepted _ below =>
      unfold Node.cooldown at accepted
      split at accepted
      case isTrue duration =>
        cases accepted
        exact everywhere_mk duration (by simpa [Body.children] using below)
      case isFalse => cases accepted
  | labelled _ _ valid => exact everywhere_mk valid.here fun child member => valid.child member
  | extended _ _ accepted valid below =>
      exact everywhere_of_addChild accepted valid below (valid_of_addChild accepted valid.here)

/-- Numbers do not matter to whether a tree is valid. -/
theorem valid_of_unnumbered {other : Node A} (same : other.unnumbered = node.unnumbered)
    (valid : node.Everywhere Valid) : other.Everywhere Valid := by
  have numberless (node : Node A) : node.unnumbered.Valid ↔ node.Valid := by
    rw [Valid, body_unnumbered, Body.valid_map]
    exact Iff.rfl
  rwa [← descends_unnumbered.everywhere_iff numberless, same,
    descends_unnumbered.everywhere_iff numberless]

end Node

namespace Host

/-- Every step of a host keeps its root valid. -/
theorem RootSteps.valid {node changed : Node A} {trace : Trace A}
    {result : Except Panic (Option Status)}
    (steps : RootSteps D Node.Built node trace result changed)
    (valid : node.Everywhere Node.Valid) : changed.Everywhere Node.Valid := by
  cases steps with
  | evolved _ evolves _ => exact evolves.everywhere Node.Undergoes.valid valid
  | extended fresh accepted =>
      exact Node.everywhere_of_addChild accepted valid fresh.valid
        (Node.valid_of_addChild accepted valid.here)
  | numbered same => exact Node.valid_of_unnumbered same valid

/-- The invariant of all histories, however their steps end: every node of the root is valid. -/
theorem History.valid {root : Node A} {host : Host A D} {trace : Trace A}
    {ends : Except Panic (Option Status) → Prop} (built : root.Built)
    (history : (Host.bare (D := D) root).History Node.Built ends trace host) :
    host.root.Everywhere Node.Valid := by
  induction history with
  | start => exact built.valid
  | step _ steps _ inductionHypothesis => exact steps.root.valid inductionHypothesis

end Host

end Behavior
