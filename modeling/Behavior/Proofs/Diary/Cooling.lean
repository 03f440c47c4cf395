import Behavior.Proofs.Diary.Basic

namespace Behavior

variable {A : Agent} {D : Type} {place : Place} {context : Context D} {uses : List (Use A)}
  {period remaining : Float32} {status : Status} {trace : Trace A} {next : Decorator A}

/-- Resets and aborts are no ticks. -/
def Use.ticks (use : Use A) : Bool :=
  match use.touch with
  | .ticked _ => true
  | _ => false

/-- The child of the node returns success in the use. -/
def Use.succeeds (place : Place) (use : Use A) : Bool := (use.returns place).contains .success

/-- The child has returned success in one of the ticks. -/
def Succeeded (place : Place) (uses : List (Use A)) : Prop :=
  ∃ use ∈ uses.filter Use.ticks, use.succeeds place = true

/-- The delta times of the ticks since the child has last returned success. -/
def restTimes (place : Place) (uses : List (Use A)) : List Float32 :=
  ((uses.filter Use.ticks).rtakeWhile fun use => !use.succeeds place).map Use.deltaTime

/-- Times are taken away one after the other, and each difference is rounded. -/
def timeLeft (period : Float32) (times : List Float32) : Float32 :=
  times.foldl (fun left time => left - time) period

/-- The times that are left one after the other, the whole period first. -/
def countdown (period : Float32) (times : List Float32) : List Float32 :=
  times.scanl (fun left time => left - time) period

/-- The child is blocked if it has ever succeeded and time has always been left since then. -/
def Blocks (period : Float32) (place : Place) (uses : List (Use A)) : Prop :=
  Succeeded place uses ∧ ∀ left ∈ countdown period (restTimes place uses), 0 < left

/-- One more tick appends what the rest is after it. -/
theorem countdown_concat (period : Float32) (times : List Float32) (time : Float32) :
    countdown period (times ++ [time]) = countdown period times ++ [timeLeft period times - time] := by
  rw [countdown, List.scanl_append]
  rfl

/-- Each tick takes its delta time off the rest. -/
theorem timeLeft_concat (period : Float32) (times : List Float32) (time : Float32) :
    timeLeft period (times ++ [time]) = timeLeft period times - time := List.foldl_concat _ _ _ _

section Uses

variable {use : Use A}

/-- A use succeeds if success is among what the child returned in it. -/
theorem succeeds_eq {deltaTime : Float32} {touch : Touch} {statuses : List Status}
    (returned : trace.returnsAt (0 :: place) = statuses) :
    Use.succeeds place ⟨deltaTime, touch, trace⟩ = statuses.contains .success := by
  rw [Use.succeeds, Use.returns, returned]

/-- Resets and aborts are no ticks. -/
theorem filter_ticks_of_cleared (clears : use.touch = .reset ∨ use.touch = .aborted (.ok ())) :
    (uses ++ [use]).filter Use.ticks = uses.filter Use.ticks := by
  have idle : use.ticks = false := by
    rw [Use.ticks]
    rcases clears with clears | clears <;> rw [clears]
  rw [List.filter_append, List.filter_singleton, idle]
  exact List.append_nil _

theorem filter_ticks_of_ticked {result : Except Panic Status} (ticked : use.touch = .ticked result) :
    (uses ++ [use]).filter Use.ticks = uses.filter Use.ticks ++ [use] := by
  have busy : use.ticks = true := by rw [Use.ticks, ticked]
  rw [List.filter_append, List.filter_singleton, busy]
  rfl

/-- Resets and aborts leave the rest of the child as it is. -/
theorem restTimes_of_cleared (clears : use.touch = .reset ∨ use.touch = .aborted (.ok ())) :
    restTimes place (uses ++ [use]) = restTimes place uses := by
  rw [restTimes, filter_ticks_of_cleared clears, restTimes]

/-- A reset or an abort changes nothing about the block. -/
theorem blocks_of_cleared (clears : use.touch = .reset ∨ use.touch = .aborted (.ok ())) :
    Blocks period place (uses ++ [use]) ↔ Blocks period place uses := by
  rw [Blocks, restTimes_of_cleared clears, Succeeded, filter_ticks_of_cleared clears, Blocks, Succeeded]

/-- A success of the child starts its rest. -/
theorem restTimes_of_success {result : Except Panic Status} (ticked : use.touch = .ticked result)
    (succeeds : use.succeeds place = true) : restTimes place (uses ++ [use]) = [] := by
  rw [restTimes, filter_ticks_of_ticked ticked, List.rtakeWhile_concat_neg _ _ _ (by simpa using succeeds)]
  rfl

/-- A success blocks what follows if the period is positive. -/
theorem blocks_of_success {result : Except Panic Status} (ticked : use.touch = .ticked result)
    (succeeds : use.succeeds place = true) : Blocks period place (uses ++ [use]) ↔ 0 < period := by
  have succeeded : Succeeded place (uses ++ [use]) := by
    rw [Succeeded, filter_ticks_of_ticked ticked]
    exact ⟨use, List.mem_concat_self, succeeds⟩
  rw [Blocks, restTimes_of_success ticked succeeds, and_iff_right succeeded]
  exact List.forall_mem_singleton

/-- Any other tick is one more tick of the rest. -/
theorem restTimes_of_miss {result : Except Panic Status} (ticked : use.touch = .ticked result)
    (misses : use.succeeds place = false) :
    restTimes place (uses ++ [use]) = restTimes place uses ++ [use.deltaTime] := by
  rw [restTimes, filter_ticks_of_ticked ticked, List.rtakeWhile_concat_pos _ _ _ (by simpa using misses),
    List.map_append]
  rfl

/-- Without a success an earlier block lasts as long as time is left of it. -/
theorem blocks_of_miss {result : Except Panic Status} (ticked : use.touch = .ticked result)
    (misses : use.succeeds place = false) :
    Blocks period place (uses ++ [use]) ↔
      Blocks period place uses ∧ 0 < timeLeft period (restTimes place uses) - use.deltaTime := by
  have succeeded : Succeeded place (uses ++ [use]) ↔ Succeeded place uses := by
    rw [Succeeded, filter_ticks_of_ticked ticked, Succeeded]
    simp [or_and_right, exists_or, misses]
  rw [Blocks, succeeded, restTimes_of_miss ticked misses, countdown_concat, List.forall_mem_append,
    List.forall_mem_singleton, Blocks, and_assoc]

end Uses

namespace Node

variable {start node origin child final : Node A} {last : Option Status}

/-- As long as time remains, a tick of a cooldown takes its delta time from that and fails without touching
the child. Otherwise it ticks the child and returns what the child returns, and success starts the period
again. -/
inductive Limited (period remaining deltaTime : Float32) (child : Node A) (place : Place)
    (trace : Trace A) : Status → Float32 → Node A → Prop
  | blocked (remains : 0 < remaining) (entered : trace.entrances place = [])
      (returned : trace.returnsAt (0 :: place) = [])
      (untold : (trace.within (0 :: place)).notices = [])
      (uncalled : (trace.within (0 :: place)).calls = []) :
      Limited period remaining deltaTime child place trace .failure (remaining - deltaTime) child
  | opened {status : Status} {final : Node A} (gone : ¬ 0 < remaining)
      (entered : trace.entrances place = [0])
      (returned : trace.returnsAt (0 :: place) = [status]) (last : final.last = some status) :
      Limited period remaining deltaTime child place trace status
        (if status = .success then period else remaining) final

/-- A cooldown deals with its child as the remaining time tells it. -/
theorem limited_of_deals
    (deals : Deals context (.cooldown period remaining) child trace status next final) :
    ∃ later, next = .cooldown period later ∧
      Limited period remaining context.clock.deltaTime child context.place trace status later final := by
  by_cases remains : 0 < remaining
  · have decides (answer running : Bool) : (Decorator.cooldown period remaining : Decorator A).decide
        context.clock answer running =
          (.cooldown period (remaining - context.clock.deltaTime), .skip .failure) := if_pos remains
    obtain ⟨rfl, rfl, rfl, entered, returned, written⟩ := deals.of_skip decides
    exact ⟨_, rfl, .blocked remains entered returned written.notices written.calls⟩
  · have decides (answer running : Bool) : (Decorator.cooldown period remaining : Decorator A).decide
        context.clock answer running = (.cooldown period remaining, .tick) := if_neg remains
    obtain ⟨_, rfl, rfl, entered, returned, last⟩ := deals.of_tick decides
    exact ⟨_, rfl, .opened remains entered returned last⟩

/-- The remaining time of a cooldown tells whether the child is blocked. A blocked child does not run. -/
structure Throttles (period : Float32) (place : Place) (uses : List (Use A)) (remaining : Float32)
    (last : Option Status) : Prop where
  blocks : 0 < remaining ↔ Blocks period place uses
  left : Blocks period place uses → remaining = timeLeft period (restTimes place uses)
  stopped : 0 < remaining → last ≠ some .running

/-- A reset or an abort keeps the rest and forgets the last status. -/
theorem Throttles.clear {use : Use A} (throttles : Throttles period place uses remaining last)
    (clears : use.touch = .reset ∨ use.touch = .aborted (.ok ())) :
    Throttles period place (uses ++ [use]) remaining none := by
  refine ⟨?_, ?_, nofun⟩
  · rw [blocks_of_cleared clears]
    exact throttles.blocks
  · rw [blocks_of_cleared clears, restTimes_of_cleared clears]
    exact throttles.left

/-- Each way in which a cooldown limits its child keeps the remaining time true to the diary. -/
theorem Throttles.tick {deltaTime later : Float32}
    (throttles : Throttles period place uses remaining child.last)
    (limited : Limited period remaining deltaTime child place trace status later final) :
    Throttles period place (uses ++ [⟨deltaTime, .ticked (.ok status), trace⟩]) later final.last := by
  cases limited with
  | blocked remains _ returned =>
      have misses : Use.succeeds place ⟨deltaTime, .ticked (.ok .failure), trace⟩ = false := by
        rw [succeeds_eq returned]
        rfl
      have blocks := throttles.blocks.1 remains
      have left := throttles.left blocks
      refine ⟨?_, fun _ => ?_, fun _ => throttles.stopped remains⟩
      · rw [blocks_of_miss rfl misses, and_iff_right blocks, ← left]
      · rw [restTimes_of_miss rfl misses, timeLeft_concat, ← left]
  | opened gone _ returned last =>
      by_cases succeeded : status = .success
      · subst succeeded
        have succeeds : Use.succeeds place ⟨deltaTime, .ticked (.ok .success), trace⟩ = true := by
          rw [succeeds_eq returned]
          rfl
        rw [if_pos rfl]
        refine ⟨(blocks_of_success rfl succeeds).symm, fun _ => ?_, fun _ => ?_⟩
        · rw [restTimes_of_success rfl succeeds]
          rfl
        · rw [last]
          decide
      · have misses : Use.succeeds place ⟨deltaTime, .ticked (.ok status), trace⟩ = false := by
          rw [succeeds_eq returned]
          simpa using Ne.symm succeeded
        -- No time has been left before this tick, so none will be before the next success.
        have opens : ¬ Blocks period place (uses ++ [⟨deltaTime, .ticked (.ok status), trace⟩]) := by
          rw [blocks_of_miss rfl misses, ← throttles.blocks]
          exact fun blocks => gone blocks.1
        rw [if_neg succeeded]
        exact ⟨iff_of_false gone opens, fun blocks => absurd blocks opens, fun remains =>
          absurd remains gone⟩

/-- A cooldown throttles its child. -/
theorem keepsUp_throttles (period : Float32) : KeepsUp D place fun (uses : List (Use A)) own last =>
    ∃ remaining, own = .cooldown period remaining ∧ Throttles period place uses remaining last where
  clears {_ _ _ _} holds clears := by
    obtain ⟨remaining, rfl, throttles⟩ := holds
    exact ⟨remaining, rfl, throttles.clear clears⟩
  ticks {_ _ _ _ _ _ _ _} stands holds deals := by
    subst stands
    obtain ⟨remaining, rfl, throttles⟩ := holds
    obtain ⟨later, rfl, limited⟩ := limited_of_deals deals
    exact ⟨later, rfl, throttles.tick limited⟩

/-- Whatever a cooldown has gone through without a panic, time remains if and only if it blocks its child,
and the child does not run then. Resets and aborts leave the remaining time as it is, and each tick is
limited by it. -/
theorem cooldown_limits (built : start.Built)
    (shape : start.body = .decorator (.cooldown period remaining) origin)
    (diary : start.Diary D place uses node) :
    ∃ left child, node.body = .decorator (.cooldown period left) child ∧
      (0 < left ↔ Blocks period place uses) ∧ (0 < left → child.last ≠ some .running) ∧
      (∀ (context : Context D) (touch : Touch) (before after : Stage A D) (trace : Trace A)
        (changed : Node A), touch = .reset ∨ touch = .aborted (.ok ()) →
          node.Undergoes context touch before trace changed after →
            changed.body = .decorator (.cooldown period left) child.cleared) ∧
      ∀ (context : Context D) (before after : Stage A D) (trace : Trace A) (changed : Node A)
        (status : Status), context.place = place →
          (node.tick context).Leads before trace ⟨changed, .ok status⟩ after →
            ∃ later final, changed.body = .decorator (.cooldown period later) final ∧
              Limited period left context.clock.deltaTime child place trace status later final := by
  have blank : Throttles period place ([] : List (Use A)) remaining none := by
    obtain rfl : 0 = remaining := (Decorator.cooldown.inj (built.decorator shape)).2
    have gone : ¬ (0 : Float32) < 0 := by decide
    have opens : ¬ Blocks period place ([] : List (Use A)) := by
      rintro ⟨⟨_, none, _⟩, _⟩
      exact List.not_mem_nil none
    exact ⟨iff_of_false gone opens, fun blocks => absurd blocks opens, nofun⟩
  obtain ⟨_, child, body, left, rfl, throttles⟩ :=
    diary.holds (keepsUp_throttles period) built shape ⟨remaining, rfl, blank⟩
  refine ⟨left, child, body, throttles.blocks, throttles.stopped, ?_, ?_⟩
  · intro context touch before after trace changed clears undergoes
    rw [undergoes.cleared clears, body_cleared, body]
    rfl
  · rintro context before after trace changed status rfl ticks
    obtain ⟨_, final, shaped, deals⟩ := deals_of_tick body ticks
    obtain ⟨later, rfl, limited⟩ := limited_of_deals deals
    exact ⟨later, final, shaped, limited⟩

end Node

namespace Sample

/-- The sample operation rests for one second after each success. -/
def pulse : Node agent := .ofBody (.decorator (.cooldown 1 0) (.asyncAction (A := agent) ()))

def fired : Outcome agent Unit (Attempt (Node agent) Status) := spent pulse 0 false

def tooSoon : Outcome agent Unit (Attempt (Node agent) Status) := spent fired.value.after 1 false

theorem built_pulse : pulse.Built := by
  have accepted : Node.cooldown 1 (.asyncAction (A := agent) ()) = .ok pulse :=
    if_pos ⟨rfl, by decide +kernel⟩
  exact .cooldown accepted (.asyncAction _)

theorem diary_fired : pulse.Diary Unit Tree.rootPlace
    [⟨0, .ticked (.ok .success), fired.trace⟩] fired.value.after := by
  have unused : pulse.Diary Unit Tree.rootPlace [] pulse := .blank
  exact diary_spent unused rfl

end Sample

/-- The tick that uses up the second after a success is itself blocked. -/
theorem Node.pulse_limits :
    Blocks 1 Tree.rootPlace [⟨0, .ticked (.ok .success), Sample.fired.trace⟩] ∧
      ∃ operation, Sample.fired.value.after.body = .decorator (.cooldown 1 1) operation ∧
        Limited 1 1 1 operation Tree.rootPlace Sample.tooSoon.trace .failure 0 operation := by
  obtain ⟨left, operation, body, blocks, _, _, limited⟩ :=
    cooldown_limits Sample.built_pulse rfl Sample.diary_fired
  have ticks := Run.leads_self (Sample.fired.value.after.tick ⟨⟨1, 0⟩, some .silent, Tree.rootPlace⟩)
    (⟨false, ()⟩ : Stage Sample.agent Unit)
  obtain ⟨later, final, _, limited⟩ := limited _ _ _ _ _ .failure rfl ticks
  obtain ⟨_, whole⟩ : ∃ operation, Sample.fired.value.after.body =
      .decorator (.cooldown 1 1) operation := ⟨_, rfl⟩
  obtain rfl : 1 = left :=
    (Decorator.cooldown.inj (Body.decorator.inj (whole.symm.trans body)).1).2
  have remains : (0 : Float32) < 1 := by decide +kernel
  have none : (1 : Float32) - 1 = 0 := by decide +kernel
  refine ⟨blocks.1 remains, operation, body, ?_⟩
  cases limited with
  | blocked remains entered returned untold uncalled =>
      rw [← none]
      exact .blocked remains entered returned untold uncalled
  | opened gone => exact absurd remains gone

end Behavior
