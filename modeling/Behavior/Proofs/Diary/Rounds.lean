import Behavior.Proofs.Diary.Basic

namespace Behavior

variable {A : Agent} {D : Type} {place : Place} {context : Context D} {uses : List (Use A)}
  {goal status inner : Status} {times count : Nat} {child final : Node A} {trace : Trace A}
  {own : Nat → Decorator A} {next : Decorator A}

namespace Decorator

/-- The goal of a repetition is success of its child, and that of a retrial is failure. -/
inductive Iterates : (Nat → Decorator A) → Status → Nat → Prop
  | repeating (times : Nat) : Iterates (.repeating times) .success times
  | retrying (times : Nat) : Iterates (.retrying times) .failure times

/-- A round goes on, is won and followed by another one, completes the iteration, or misses the goal. -/
inductive EndsRound (own : Nat → Decorator A) (goal : Status) (times count : Nat) :
    Status → Settlement A → Prop
  | pending : EndsRound own goal times count .running ⟨own count, .running, false⟩
  | won (more : count + 1 < times) :
      EndsRound own goal times count goal ⟨own (count + 1), .running, true⟩
  | completed (enough : times ≤ count + 1) : EndsRound own goal times count goal ⟨own 0, goal, false⟩
  | missed : EndsRound own goal times count goal.invert ⟨own 0, goal.invert, false⟩

namespace Iterates

/-- The status that an iteration waits for is final. -/
theorem finished (iterates : Iterates own goal times) : goal ≠ .running := by
  cases iterates <;> decide

/-- A reset starts the count again. -/
theorem forgets (iterates : Iterates own goal times) (count : Nat) : (own count).forget = own 0 := by
  cases iterates <;> rfl

theorem pristine (iterates : Iterates own goal times) (count : Nat) : (own count).pristine = own 0 := by
  cases iterates <;> rfl

/-- An iteration without rounds is over at once, and any other ticks its child. -/
theorem decides (iterates : Iterates own goal times) (clock : Clock) (answer running : Bool) :
    (own count).decide clock answer running =
      (own count, if times = 0 then .skip goal else .tick) := by
  cases iterates <;> rfl

/-- A child that has finished has reached the goal or missed it. -/
theorem settles (iterates : Iterates own goal times) (count : Nat) (inner : Status) :
    EndsRound own goal times count inner ((own count).settle inner) := by
  have round : (own count).settle inner = settleRound own goal times count inner := by
    cases iterates <;> rfl
  have reached : EndsRound own goal times count goal
      (if times ≤ count + 1 then ⟨own 0, goal, false⟩ else ⟨own (count + 1), .running, true⟩) := by
    split
    case isTrue enough => exact .completed enough
    case isFalse more => exact .won (Nat.lt_of_not_le more)
  rw [round]
  cases iterates with
  | repeating =>
      cases inner with
      | running => exact .pending
      | success => exact reached
      | failure => exact .missed
  | retrying =>
      cases inner with
      | running => exact .pending
      | success => exact .missed
      | failure => exact reached

/-- An iteration ticks its child once and ends the round, unless it has no rounds at all. -/
theorem deals (iterates : Iterates own goal times)
    (deals : Node.Deals context (own count) child trace status next final) :
    times = 0 ∧ status = goal ∧ next = own count ∧ final = child ∧
        trace.entrances context.place = [] ∨
      0 < times ∧ ∃ inner resets, EndsRound own goal times count inner ⟨next, status, resets⟩ ∧
        trace.entrances context.place = [0] ∧ trace.returnsAt (0 :: context.place) = [inner] ∧
        (resets = true → final.Everywhere Node.Idle) := by
  by_cases none : times = 0
  · have decides (answer running : Bool) : (own count).decide context.clock answer running =
        (own count, .skip goal) := by rw [iterates.decides, if_pos none]
    obtain ⟨rfl, rfl, rfl, entered, _⟩ := deals.of_skip decides
    exact .inl ⟨none, rfl, rfl, rfl, entered⟩
  · have decides (answer running : Bool) : (own count).decide context.clock answer running =
        (own count, .tick) := by rw [iterates.decides, if_neg none]
    obtain ⟨inner, rfl, rfl, entered, returned, leaves⟩ := deals.of_tick decides
    refine .inr ⟨Nat.pos_of_ne_zero none, inner, ((own count).settle inner).resets,
      iterates.settles count inner, entered, returned, fun resets => ?_⟩
    rwa [if_pos resets] at leaves

end Iterates

end Decorator

/-- How often the child has returned the goal since the run has begun. -/
def roundsWon (goal : Status) (place : Place) (uses : List (Use A)) : Nat :=
  ((ongoing uses).flatMap (Use.returns place)).count goal

/-- A run that goes on counts what its child has just returned. -/
theorem roundsWon_of_running (goal : Status) (uses : List (Use A)) (deltaTime : Float32)
    (returned : trace.returnsAt (0 :: place) = [inner]) :
    roundsWon goal place (uses ++ [⟨deltaTime, .ticked (.ok .running), trace⟩]) =
      roundsWon goal place uses + if inner = goal then 1 else 0 := by
  have kept : ongoing (uses ++ [⟨deltaTime, .ticked (.ok .running), trace⟩]) =
      ongoing uses ++ [⟨deltaTime, .ticked (.ok .running), trace⟩] := ongoing_of_running rfl
  rw [roundsWon, kept, List.flatMap_append, List.count_append, List.flatMap_singleton, Use.returns,
    returned, List.count_singleton]
  simp [roundsWon]

/-- An iteration holds the count of the rounds that it has won, which is not yet enough. -/
def Decorator.HoldsCount (own : Nat → Decorator A) (goal : Status) (times : Nat) (place : Place)
    (uses : List (Use A)) (current : Decorator A) : Prop :=
  current = own (roundsWon goal place uses) ∧ roundsWon goal place uses ≤ times - 1

/-- Nothing is counted once a run has ended. -/
theorem Decorator.holdsCount_of_ended {use : Use A} (ended : ongoing (uses ++ [use]) = []) :
    Decorator.HoldsCount own goal times place (uses ++ [use]) (own 0) := by
  have none : roundsWon goal place (uses ++ [use]) = 0 := by
    rw [roundsWon, ended]
    rfl
  rw [HoldsCount, none]
  exact ⟨rfl, Nat.zero_le _⟩

/-- An iteration keeps count. -/
theorem Decorator.Iterates.keepsUp (iterates : Decorator.Iterates own goal times) :
    Node.KeepsUp D place fun uses current _ => Decorator.HoldsCount own goal times place uses current where
  clears {_ _ _ _} holds clears := by
    rw [holds.1, iterates.forgets]
    exact holdsCount_of_ended (ongoing_of_cleared clears)
  ticks {uses context _ next child final trace status} stands holds deals := by
    subst stands
    obtain ⟨rfl, below⟩ := holds
    have finished := iterates.finished
    rcases iterates.deals deals with ⟨rfl, rfl, rfl, _⟩ | ⟨some, inner, resets, ends, _, returned, _⟩
    · obtain none : roundsWon status context.place uses = 0 := Nat.le_zero.1 below
      rw [none]
      exact holdsCount_of_ended (ongoing_of_finished rfl finished)
    · cases ends with
      | pending =>
          have kept := roundsWon_of_running goal uses context.clock.deltaTime returned
          rw [if_neg finished.symm] at kept
          exact ⟨congrArg own kept.symm, kept ▸ below⟩
      | won more =>
          have grown := roundsWon_of_running goal uses context.clock.deltaTime returned
          rw [if_pos rfl] at grown
          refine ⟨congrArg own grown.symm, ?_⟩
          omega
      | completed => exact holdsCount_of_ended (ongoing_of_finished rfl finished)
      | missed =>
          refine holdsCount_of_ended (ongoing_of_finished rfl ?_)
          cases iterates <;> decide

namespace Node

variable {start node origin : Node A}

/-- A round ticks the child once. With some rounds won before it, the iteration runs on if the child does
or the round is won but not the last one, it returns the goal if the round is the last one to be won, and
misses the goal if the child does. A round that is won but not the last one leaves nothing of itself in
the child. -/
structure Round (goal : Status) (times won : Nat) (place : Place) (trace : Trace A)
    (inner status : Status) (final : Node A) : Prop where
  entered : trace.entrances place = [0]
  returned : trace.returnsAt (0 :: place) = [inner]
  running : status = .running ↔ inner = .running ∨ inner = goal ∧ won + 1 ≠ times
  reached : status = goal ↔ inner = goal ∧ won + 1 = times
  missed : status = goal.invert ↔ inner = goal.invert
  renewed : inner = goal → won + 1 ≠ times → final.Everywhere Idle ∧ final.pending = []

/-- The end of a round tells what the round has been. -/
theorem round_of_ends {resets : Bool} (iterates : Decorator.Iterates own goal times)
    (ends : Decorator.EndsRound own goal times count inner ⟨next, status, resets⟩)
    (below : count < times) (entered : trace.entrances place = [0])
    (returned : trace.returnsAt (0 :: place) = [inner])
    (idle : resets = true → final.Everywhere Idle) :
    Round goal times count place trace inner status final := by
  have opposite : goal ≠ .running ∧ goal.invert ≠ .running ∧ goal ≠ goal.invert := by
    cases iterates <;> decide
  obtain ⟨finished, ended, apart⟩ := opposite
  cases ends with
  | pending =>
      exact ⟨entered, returned, by simp, by simp [finished.symm], Iff.rfl,
        fun contrary => absurd contrary.symm finished⟩
  | won more =>
      have another : count + 1 ≠ times := Nat.ne_of_lt more
      refine ⟨entered, returned, by simp [another], ?_, ?_, fun _ _ => ?_⟩
      · simp [another, finished.symm]
      · simp [ended.symm, apart]
      · exact ⟨idle rfl, pending_of_idle (idle rfl)⟩
  | completed enough =>
      have last : count + 1 = times := Nat.le_antisymm below enough
      exact ⟨entered, returned, by simp [last, finished], by simp [last], Iff.rfl,
        fun _ contrary => absurd last contrary⟩
  | missed =>
      exact ⟨entered, returned, by simp [ended, apart.symm], by simp [apart.symm], by simp,
        fun contrary => absurd contrary.symm apart⟩

/-- Whatever an iteration has gone through without a panic, it holds the number of rounds that it has won
since its run has begun. Each of its ticks is one more round, or returns the goal at once and leaves the
child alone if there are no rounds at all. -/
theorem iterations_count (iterates : Decorator.Iterates own goal times) (built : start.Built)
    (shape : start.body = .decorator (own count) origin) (diary : start.Diary D place uses node) :
    ∃ child, node.body = .decorator (own (roundsWon goal place uses)) child ∧
      (0 < times → roundsWon goal place uses < times) ∧
      ∀ (context : Context D) (before after : Stage A D) (trace : Trace A) (changed : Node A)
        (status : Status), context.place = place →
          (node.tick context).Leads before trace ⟨changed, .ok status⟩ after →
            ∃ next final, changed.body = .decorator next final ∧
              (times = 0 → status = goal ∧ trace.entrances place = [] ∧ final = child) ∧
              (0 < times → ∃ inner,
                Round goal times (roundsWon goal place uses) place trace inner status final) := by
  have blank : Decorator.HoldsCount own goal times place [] (own count) := by
    have unused := built.decorator shape
    rw [iterates.pristine] at unused
    exact ⟨unused.symm, Nat.zero_le _⟩
  obtain ⟨_, child, body, rfl, most⟩ := diary.holds iterates.keepsUp built shape blank
  have below : 0 < times → roundsWon goal place uses < times := by omega
  refine ⟨child, body, below, ?_⟩
  rintro context before after trace changed status rfl ticks
  obtain ⟨next, final, shaped, deals⟩ := deals_of_tick body ticks
  refine ⟨next, final, shaped, ?_⟩
  rcases iterates.deals deals with
    ⟨none, reached, _, same, entered⟩ | ⟨some, inner, _, ends, entered, returned, idle⟩
  · exact ⟨fun _ => ⟨reached, entered, same⟩, fun some => absurd none (Nat.ne_of_gt some)⟩
  · exact ⟨fun none => absurd none (Nat.ne_of_gt some), fun _ =>
      ⟨inner, round_of_ends iterates ends (below some) entered returned idle⟩⟩

end Node

namespace Sample

/-- The sample practice succeeds with the second success of its operation. -/
def practice : Node agent := .repeating 2 (.asyncAction (A := agent) ())

def firstTry : Outcome agent Unit (Attempt (Node agent) Status) := spent practice 0 false

def secondTry : Outcome agent Unit (Attempt (Node agent) Status) := spent firstTry.value.after 0 true

def thirdTry : Outcome agent Unit (Attempt (Node agent) Status) := spent secondTry.value.after 0 false

theorem built_practice : practice.Built := .repeating 2 (.asyncAction _)

theorem diary_secondTry : practice.Diary Unit Tree.rootPlace
    [⟨0, .ticked (.ok .running), firstTry.trace⟩, ⟨0, .ticked (.ok .running), secondTry.trace⟩]
    secondTry.value.after := by
  have unused : practice.Diary Unit Tree.rootPlace [] practice := .blank
  exact diary_spent (diary_spent unused rfl) rfl

end Sample

/-- The first success is counted while the operation is waited for, and the second one is enough. -/
theorem Node.practice_counts :
    (∃ operation, Sample.secondTry.value.after.body = .decorator (.repeating 2 1) operation) ∧
      ∃ operation, Round .success 2 1 Tree.rootPlace Sample.thirdTry.trace .success .success operation := by
  obtain ⟨operation, body, _, rounds⟩ :=
    iterations_count (.repeating 2) Sample.built_practice rfl Sample.diary_secondTry
  have ticks := Run.leads_self (Sample.secondTry.value.after.tick ⟨⟨0, 0⟩, some .silent, Tree.rootPlace⟩)
    (⟨false, ()⟩ : Stage Sample.agent Unit)
  obtain ⟨_, final, _, _, round⟩ := rounds _ _ _ _ _ .success rfl ticks
  obtain ⟨inner, round⟩ := round (by decide)
  have won : roundsWon .success Tree.rootPlace
      [⟨0, .ticked (.ok .running), Sample.firstTry.trace⟩,
        ⟨0, .ticked (.ok .running), Sample.secondTry.trace⟩] = 1 := by decide +kernel
  rw [won] at body round
  have returned : Sample.thirdTry.trace.returnsAt (0 :: Tree.rootPlace) = [.success] := by decide +kernel
  obtain rfl : inner = .success := List.singleton_inj.1 (round.returned.symm.trans returned)
  exact ⟨⟨operation, body⟩, final, round⟩

end Behavior
