import Behavior.Proofs.Touch.Basic

namespace Behavior

variable {A : Agent} {D : Type}

/-- A decision tells what a decorator does with its child in one tick. -/
inductive Decision where
  | tick
  | skip (status : Status)
  | abort (status : Status)

/-- A settlement tells what becomes of a decorator and its status, and whether the child is reset,
once the child has returned. -/
structure Settlement (A : Agent) where
  own : Decorator A
  status : Status
  resets : Bool

namespace Decorator

def predicate? : Decorator A → Option A.Predicate
  | guard predicate | whileTrue predicate | reactiveGuard predicate => some predicate
  | _ => none

/-- The answer is the one of the predicate, and the flag tells whether the child is running. -/
def decide (clock : Clock) (answer running : Bool) : Decorator A → Decorator A × Decision
  | guard predicate => (guard predicate, if answer then .tick else .skip .failure)
  | whileTrue predicate => (whileTrue predicate, if answer then .tick else .skip .failure)
  | reactiveGuard predicate =>
      (reactiveGuard predicate,
        if answer then .tick else if running then .abort .failure else .skip .failure)
  | repeating times count => (repeating times count, if times = 0 then .skip .success else .tick)
  | retrying times attempts =>
      (retrying times attempts, if times = 0 then .skip .failure else .tick)
  | timeout limit elapsed =>
      if limit ≤ elapsed + clock.deltaTime then (timeout limit 0, .abort .failure)
      else (timeout limit (elapsed + clock.deltaTime), .tick)
  | cooldown period remaining =>
      if 0 < remaining then (cooldown period (remaining - clock.deltaTime), .skip .failure)
      else (cooldown period remaining, .tick)
  | invert => (invert, .tick)
  | forceSuccess => (forceSuccess, .tick)
  | forceFailure => (forceFailure, .tick)

/-- A round of an iteration ends the iteration, or counts and starts the next round. -/
def settleRound (own : Nat → Decorator A) (goal : Status) (times count : Nat) :
    Status → Settlement A
  | .running => ⟨own count, .running, false⟩
  | status =>
      if status = goal then
        if times ≤ count + 1 then ⟨own 0, goal, false⟩ else ⟨own (count + 1), .running, true⟩
      else ⟨own 0, status, false⟩

def settle : Decorator A → Status → Settlement A
  | guard predicate, status => ⟨guard predicate, status, false⟩
  | whileTrue predicate, status => ⟨whileTrue predicate, status, false⟩
  | reactiveGuard predicate, status => ⟨reactiveGuard predicate, status, !status.isRunning⟩
  | repeating times count, status => settleRound (repeating times) .success times count status
  | retrying times attempts, status => settleRound (retrying times) .failure times attempts status
  | timeout limit elapsed, status =>
      ⟨timeout limit (if status = .running then elapsed else 0), status, false⟩
  | cooldown period remaining, status =>
      ⟨cooldown period (if status = .success then period else remaining), status, false⟩
  | invert, status => ⟨invert, status.invert, false⟩
  | forceSuccess, status => ⟨forceSuccess, .force .success status, false⟩
  | forceFailure, status => ⟨forceFailure, .force .failure status, false⟩

/-- A play is one way in which a tick of a decorator can go. A panic ends it. -/
inductive Plays (clock : Clock) (answer running : Bool) (own : Decorator A) :
    List (Nat × Touch) → Except Panic Status → Decorator A → Prop
  | skipped {next : Decorator A} {status : Status}
      (decided : own.decide clock answer running = (next, .skip status)) :
      Plays clock answer running own [] (.ok status) next
  | aborted {next : Decorator A} {status : Status} (result : Except Panic Unit)
      (decided : own.decide clock answer running = (next, .abort status)) :
      Plays clock answer running own [(0, .aborted result)] (result.map fun _ => status) next
  | unwound {next : Decorator A} (panic : Panic)
      (decided : own.decide clock answer running = (next, .tick)) :
      Plays clock answer running own [(0, .ticked (.error panic))] (.error panic) next
  | ticked {next : Decorator A} (status : Status)
      (decided : own.decide clock answer running = (next, .tick))
      (keeps : (next.settle status).resets = false) :
      Plays clock answer running own [(0, .ticked (.ok status))] (.ok (next.settle status).status)
        (next.settle status).own
  | renewed {next : Decorator A} (status : Status)
      (decided : own.decide clock answer running = (next, .tick))
      (resets : (next.settle status).resets = true) :
      Plays clock answer running own [(0, .ticked (.ok status)), (0, .reset)]
        (.ok (next.settle status).status) (next.settle status).own

end Decorator

/-- A body that has a predicate asks it first. Without one the answer counts as true. -/
inductive Asks (context : Context D) (info : NodeInfo) :
    Option A.Predicate → Stage A D → Trace A → Except Panic Bool → Stage A D → Prop
  | spared {stage : Stage A D} : Asks context info none stage [] (.ok true) stage
  | asked {predicate : A.Predicate} {before after : Stage A D} {trace : Trace A}
      {answer : Except Panic Bool}
      (asks : (context.ask info predicate).Leads before trace answer after) :
      Asks context info (some predicate) before trace answer after

namespace Decorator

/-- A tick of a decorator is refused by its predicate, or plays with its only child. -/
inductive Ticks (context : Context D) (info : NodeInfo) (own : Decorator A) (child : Node A) :
    Stage A D → Trace A → Decorator A → Node A → Except Panic Status → Stage A D → Prop
  | refused {before after : Stage A D} {trace : Trace A} {panic : Panic}
      (asks : Asks context info own.predicate? before trace (.error panic) after) :
      Ticks context info own child before trace own child (.error panic) after
  | played {before middle after : Stage A D} {earlier later : Trace A} {answer : Bool}
      {touches : List (Nat × Touch)} {next : Decorator A} {changed : Node A}
      {result : Except Panic Status}
      (asks : Asks context info own.predicate? before earlier (.ok answer) middle)
      (handles : Handles context [child] middle touches later [changed] after)
      (plays : own.Plays context.clock answer child.isRunning touches result next) :
      Ticks context info own child before (earlier ++ later) next changed result after

variable {context : Context D} {info : NodeInfo} {own next : Decorator A} {child changed : Node A}
  {before after : Stage A D} {trace : Trace A} {result : Except Panic Status}

/-- Without a predicate a tick of a decorator consists of its play. -/
theorem Ticks.unasked (silent : own.predicate? = none) {touches : List (Nat × Touch)}
    (handles : Handles context [child] before touches trace [changed] after)
    (plays : own.Plays context.clock true child.isRunning touches result next) :
    Ticks context info own child before trace next changed result after := by
  have asks : Asks context info own.predicate? before [] (.ok true) before := by
    rw [silent]
    exact .spared
  simpa using Ticks.played asks handles plays

/-- The handling of a single tick of the child. -/
theorem handles_tick
    (ticks : (child.tick (context.child 0)).Leads before trace ⟨changed, result⟩ after) :
    Handles context [child] before [(0, .ticked result)] trace [changed] after :=
  Handles.between [] [] rfl (.ticked ticks)

/-- What a decorator settles on tells how its tick ends when the child has returned. -/
theorem Plays.of_settle {clock : Clock} {answer running : Bool} {settled : Decorator A}
    {status final : Status} (decided : own.decide clock answer running = (next, .tick))
    (settles : next.settle status = ⟨settled, final, false⟩) :
    own.Plays clock answer running [(0, .ticked (.ok status))] (.ok final) settled := by
  have plays := Plays.ticked status decided (by rw [settles])
  rwa [settles] at plays

/-- A decorator may reset its child after a round. -/
theorem Plays.of_renewal {clock : Clock} {answer running : Bool} {settled : Decorator A}
    {status final : Status} (decided : own.decide clock answer running = (next, .tick))
    (settles : next.settle status = ⟨settled, final, true⟩) :
    own.Plays clock answer running [(0, .ticked (.ok status)), (0, .reset)] (.ok final) settled := by
  have plays := Plays.renewed status decided (by rw [settles])
  rwa [settles] at plays

/-- A decorator that keeps its own state passes on whatever the tick of its child returns. -/
theorem Plays.returned {clock : Clock} {answer running : Bool} {change : Status → Status}
    (decided : own.decide clock answer running = (next, .tick))
    (settled : ∀ status, next.settle status = ⟨next, change status, false⟩)
    (returned : Except Panic Status) :
    own.Plays clock answer running [(0, .ticked returned)] (returned.map change) next := by
  cases returned with
  | error panic => exact .unwound panic decided
  | ok status => exact .of_settle decided (settled status)

/-- What is passed on is one tick of the child. -/
theorem leads_pass {change : Status → Status}
    (passed : (pass context own change child.arm).Leads before trace ⟨(next, changed), result⟩
      after) :
    ∃ returned, next = own ∧ result = returned.map change ∧
      (child.tick (context.child 0)).Leads before trace ⟨changed, returned⟩ after := by
  obtain ⟨⟨_, returned⟩, ticks, rfl, rfl, rfl⟩ := Run.leads_bind_pair.1 passed
  exact ⟨returned, rfl, rfl, ticks⟩

/-- A decorator that passes its ticks on ticks as `Ticks` says. -/
theorem ticks_of_pass {change : Status → Status} (silent : own.predicate? = none)
    (decided : own.decide context.clock true child.isRunning = (own, .tick))
    (settled : ∀ status, own.settle status = ⟨own, change status, false⟩)
    (passed : (pass context own change child.arm).Leads before trace ⟨(next, changed), result⟩
      after) :
    Ticks context info own child before trace next changed result after := by
  obtain ⟨returned, rfl, rfl, ticks⟩ := leads_pass passed
  exact .unasked silent (handles_tick ticks) (.returned decided settled returned)

/-- A decorator that asks its predicate first ticks as `Ticks` says. -/
theorem ticks_of_hold {predicate : A.Predicate} (asked : own.predicate? = some predicate)
    (decided : ∀ answer, own.decide context.clock answer child.isRunning =
      (own, if answer then .tick else .skip .failure))
    (settled : ∀ status, own.settle status = ⟨own, status, false⟩)
    (held : (hold info context own predicate child.arm).Leads before trace
      ⟨(next, changed), result⟩ after) :
    Ticks context info own child before trace next changed result after := by
  obtain ⟨answer, middle, earlier, later, asks, ended, rfl⟩ := Run.leads_bind.1 held
  have asks : Asks context info own.predicate? before earlier answer middle := by
    rw [asked]
    exact .asked asks
  match answer with
  | .error panic =>
      obtain ⟨rfl, rfl, rfl, rfl, rfl⟩ := Run.leads_pair.1 ended
      rw [List.append_nil]
      exact .refused asks
  | .ok true =>
      obtain ⟨returned, rfl, rfl, ticks⟩ := leads_pass ended
      exact .played asks (handles_tick ticks) (.returned (decided true) settled returned)
  | .ok false =>
      obtain ⟨rfl, rfl, rfl, rfl, rfl⟩ := Run.leads_pair.1 ended
      exact .played asks .done (.skipped (decided false))

/-- A decorator that watches its predicate ticks as `Ticks` says. -/
theorem ticks_of_watch {predicate : A.Predicate}
    (watched : (watch info context (.reactiveGuard predicate) predicate child.arm).Leads before
      trace ⟨(next, changed), result⟩ after) :
    Ticks context info (.reactiveGuard predicate) child before trace next changed result after := by
  obtain ⟨answer, middle, earlier, later, asks, ended, rfl⟩ := Run.leads_bind.1 watched
  have asks : Asks context info (reactiveGuard predicate).predicate? before earlier answer middle :=
    .asked asks
  match answer with
  | .error panic =>
      obtain ⟨rfl, rfl, rfl, rfl, rfl⟩ := Run.leads_pair.1 ended
      rw [List.append_nil]
      exact .refused asks
  | .ok false =>
      cases running : child.isRunning with
      | false =>
          simp only [Node.arm, running, Bool.false_eq_true, if_false] at ended
          obtain ⟨rfl, rfl, rfl, rfl, rfl⟩ := Run.leads_pair.1 ended
          exact .played asks .done (.skipped (by simp [decide, running]))
      | true =>
          simp only [Node.arm, running, if_true] at ended
          obtain ⟨⟨_, aborted⟩, aborts, rfl, rfl, rfl⟩ := Run.leads_bind_pair.1 ended
          exact .played asks (Handles.between [] [] rfl (.aborted aborts))
            (.aborted aborted (by simp [decide, running]))
  | .ok true =>
      obtain ⟨⟨ticked, returned⟩, _, _, _, ticks, ended, rfl⟩ := Run.leads_bind.1 ended
      have decided : (reactiveGuard predicate).decide context.clock true child.isRunning =
          (.reactiveGuard predicate, .tick) := rfl
      match returned with
      | .error panic =>
          obtain ⟨rfl, rfl, rfl, rfl, rfl⟩ := Run.leads_pair.1 ended
          rw [List.append_nil]
          exact .played asks (handles_tick ticks) (.unwound panic decided)
      | .ok .running =>
          obtain ⟨rfl, rfl, rfl, rfl, rfl⟩ := Run.leads_pair.1 ended
          rw [List.append_nil]
          exact .played asks (handles_tick ticks) (.ticked .running decided rfl)
      | .ok .success | .ok .failure =>
          obtain ⟨renewed, resets, rfl, rfl, rfl⟩ := Run.leads_bind_pair.1 ended
          exact .played asks
            ((handles_tick ticks).trans (Handles.between [] [] rfl (.reset resets)))
            (.renewed _ decided rfl)

/-- What an iteration does once its child has finished a round. -/
theorem ticks_of_round {own : Nat → Decorator A} {goal status : Status} {times count : Nat}
    {ticked : Node A} {middle : Stage A D} {earlier : Trace A}
    (silent : (own count).predicate? = none) (finished : status ≠ .running)
    (decided : (own count).decide context.clock true child.isRunning = (own count, .tick))
    (settled : ∀ status, (own count).settle status = settleRound own goal times count status)
    (ticks : (child.tick (context.child 0)).Leads before earlier ⟨ticked, .ok status⟩ middle)
    (ended : ((if status = goal then
        if times ≤ count + 1 then pure ⟨(own 0, ticked), .ok goal⟩
        else do
          let child ← ticked.reset (0 :: context.place)
          pure ⟨(own (count + 1), child), .ok .running⟩
      else pure ⟨(own 0, ticked), .ok status⟩) :
        Run A D (Attempt (Decorator A × Node A) Status)).Leads middle trace ⟨(next, changed), result⟩
          after) :
    Ticks context info (own count) child before (earlier ++ trace) next changed result after := by
  have handles := handles_tick ticks
  have round : (own count).settle status =
      if status = goal then
        if times ≤ count + 1 then ⟨own 0, goal, false⟩ else ⟨own (count + 1), .running, true⟩
      else ⟨own 0, status, false⟩ := by
    rw [settled]
    cases status with
    | running => exact absurd rfl finished
    | success | failure => rfl
  by_cases reached : status = goal
  · rw [if_pos reached] at ended round
    by_cases enough : times ≤ count + 1
    · rw [if_pos enough] at ended round
      obtain ⟨rfl, rfl, rfl, rfl, rfl⟩ := Run.leads_pair.1 ended
      rw [List.append_nil]
      exact .unasked silent handles (.of_settle decided round)
    · rw [if_neg enough] at ended round
      obtain ⟨_, resets, rfl, rfl, rfl⟩ := Run.leads_bind_pair.1 ended
      have renewing := Handles.between [] [] rfl (.reset resets)
      exact .unasked silent (handles.trans renewing) (.of_renewal decided round)
  · rw [if_neg reached] at ended round
    obtain ⟨rfl, rfl, rfl, rfl, rfl⟩ := Run.leads_pair.1 ended
    rw [List.append_nil]
    exact .unasked silent handles (.of_settle decided round)

/-- An iteration ticks as `Ticks` says. -/
theorem ticks_of_iterate {own : Nat → Decorator A} {goal : Status} {times count : Nat}
    (silent : (own count).predicate? = none)
    (decided : (own count).decide context.clock true child.isRunning =
      (own count, if times = 0 then .skip goal else .tick))
    (settled : ∀ status, (own count).settle status = settleRound own goal times count status)
    (iterated : (iterate context own goal times count child.arm).Leads before trace
      ⟨(next, changed), result⟩ after) :
    Ticks context info (own count) child before trace next changed result after := by
  unfold iterate at iterated
  by_cases none : times = 0
  · rw [if_pos none] at iterated decided
    obtain ⟨rfl, rfl, rfl, rfl, rfl⟩ := Run.leads_pair.1 iterated
    exact .unasked silent .done (.skipped decided)
  · rw [if_neg none] at iterated decided
    obtain ⟨⟨ticked, returned⟩, _, _, _, ticks, ended, rfl⟩ := Run.leads_bind.1 iterated
    match returned with
    | .error panic =>
        obtain ⟨rfl, rfl, rfl, rfl, rfl⟩ := Run.leads_pair.1 ended
        rw [List.append_nil]
        exact .unasked silent (handles_tick ticks) (.unwound panic decided)
    | .ok .running =>
        obtain ⟨rfl, rfl, rfl, rfl, rfl⟩ := Run.leads_pair.1 ended
        rw [List.append_nil]
        exact .unasked silent (handles_tick ticks) (.of_settle decided (settled .running))
    | .ok .success => exact ticks_of_round silent (by decide) decided settled ticks ended
    | .ok .failure => exact ticks_of_round silent (by decide) decided settled ticks ended

/-- A timeout ticks as `Ticks` says. -/
theorem ticks_of_expire {limit elapsed : Float32}
    (expired : (expire context limit elapsed child.arm).Leads before trace
      ⟨(next, changed), result⟩ after) :
    Ticks context info (.timeout limit elapsed) child before trace next changed result after := by
  unfold expire at expired
  by_cases late : limit ≤ elapsed + context.clock.deltaTime
  · rw [if_pos late] at expired
    obtain ⟨_, _, _, _, wrote, ended, rfl⟩ := Run.leads_bind.1 expired
    obtain ⟨rfl, rfl⟩ := Run.leads_write.1 wrote
    obtain ⟨⟨_, aborted⟩, aborts, rfl, rfl, rfl⟩ := Run.leads_bind_pair.1 ended
    exact .unasked rfl (.wrote _ (Handles.between [] [] rfl (.aborted aborts)))
      (.aborted aborted (by simp [decide, late]))
  · rw [if_neg late] at expired
    have decided : (timeout limit elapsed : Decorator A).decide context.clock true child.isRunning =
        (.timeout limit (elapsed + context.clock.deltaTime), .tick) := by
      simp [decide, late]
    obtain ⟨⟨_, returned⟩, _, _, _, ticks, ended, rfl⟩ := Run.leads_bind.1 expired
    match returned with
    | .error panic =>
        obtain ⟨rfl, rfl, rfl, rfl, rfl⟩ := Run.leads_pair.1 ended
        rw [List.append_nil]
        exact .unasked rfl (handles_tick ticks) (.unwound panic decided)
    | .ok .running | .ok .success | .ok .failure =>
        obtain ⟨rfl, rfl, rfl, rfl, rfl⟩ := Run.leads_pair.1 ended
        rw [List.append_nil]
        exact .unasked rfl (handles_tick ticks) (.ticked _ decided rfl)

/-- A cooldown ticks as `Ticks` says. -/
theorem ticks_of_cool {period remaining : Float32}
    (cooled : (cool context period remaining child.arm).Leads before trace
      ⟨(next, changed), result⟩ after) :
    Ticks context info (.cooldown period remaining) child before trace next changed result after := by
  unfold cool at cooled
  by_cases blocked : 0 < remaining
  · rw [if_pos blocked] at cooled
    obtain ⟨rfl, rfl, rfl, rfl, rfl⟩ := Run.leads_pair.1 cooled
    exact .unasked rfl .done (.skipped (by simp [decide, blocked]))
  · rw [if_neg blocked] at cooled
    have decided : (cooldown period remaining : Decorator A).decide context.clock true
        child.isRunning = (.cooldown period remaining, .tick) := by
      simp [decide, blocked]
    obtain ⟨⟨_, returned⟩, _, _, _, ticks, ended, rfl⟩ := Run.leads_bind.1 cooled
    match returned with
    | .error panic =>
        obtain ⟨rfl, rfl, rfl, rfl, rfl⟩ := Run.leads_pair.1 ended
        rw [List.append_nil]
        exact .unasked rfl (handles_tick ticks) (.unwound panic decided)
    | .ok .running | .ok .success | .ok .failure =>
        obtain ⟨rfl, rfl, rfl, rfl, rfl⟩ := Run.leads_pair.1 ended
        rw [List.append_nil]
        exact .unasked rfl (handles_tick ticks) (.ticked _ decided rfl)

/-- Every tick of a decorator is refused or plays. -/
theorem ticks_of_tick
    (ticked : (own.tick info context child.arm).Leads before trace ⟨(next, changed), result⟩
      after) :
    Ticks context info own child before trace next changed result after := by
  cases own with
  | guard predicate | whileTrue predicate =>
      exact ticks_of_hold rfl (fun answer => by cases answer <;> rfl) (fun _ => rfl) ticked
  | invert | forceSuccess | forceFailure => exact ticks_of_pass rfl rfl (fun _ => rfl) ticked
  | repeating times count | retrying times count =>
      exact ticks_of_iterate rfl rfl (fun _ => rfl) ticked
  | timeout limit elapsed => exact ticks_of_expire ticked
  | cooldown period remaining => exact ticks_of_cool ticked
  | reactiveGuard predicate => exact ticks_of_watch ticked

end Decorator

end Behavior
