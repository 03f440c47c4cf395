import Behavior.Proofs.Renewal.Rebuilding
import Behavior.Proofs.Run.Effects
import Behavior.Proofs.Time.Clocks

namespace Behavior

variable {A : Agent} {D : Type}

namespace Tree

/-- A tree serves orders if it obeys one after the other and no panic cuts it short. -/
inductive Serves (start : Tree A D) : List (Order D) → Tree A D → Prop
  | start : Serves start [] start
  | obeyed {tree changed : Tree A D} {orders : List (Order D)} {order : Order D}
      {before after : Stage A D} {trace : Trace A} {status : Option Status}
      (serves : Serves start orders tree)
      (obeys : (tree.obey order).Leads before trace ⟨changed, .ok status⟩ after) :
      Serves start (orders ++ [order]) changed

variable {tree changed final : Tree A D} {order : Order D} {orders : List (Order D)}
  {deltaTime : Float32} {before after : Stage A D} {trace : Trace A}

/-- What an order leaves on a stage has been served if no panic has cut it short. -/
theorem Serves.next (serves : tree.Serves orders changed) (stage : Stage A D)
    {status : Option Status} (returned : (changed.obey order stage).value.result = .ok status) :
    tree.Serves (orders ++ [order]) (changed.obey order stage).value.after := by
  have obeys := Run.leads_self (changed.obey order) stage
  generalize changed.obey order stage = outcome at obeys returned ⊢
  obtain ⟨⟨next, result⟩, _, _⟩ := outcome
  obtain rfl : result = .ok status := returned
  exact .obeyed serves obeys

/-- A tick that returns counts as a frame. It leaves the root running, or clears it if the settings
ask for it. -/
theorem changed_of_tick {status : Status}
    (ticks : (tree.tick deltaTime).Leads before trace ⟨changed, .ok status⟩ after) :
    changed.settings = tree.settings ∧ changed.frame = tree.frame + 1 ∧
      (changed.root.last = some .running ∨
        (tree.settings.resetOnComplete = true → ∃ root : Node A, changed.root = root.cleared)) := by
  obtain ⟨⟨root, returned⟩, _, _, _, ticked, ended, rfl⟩ := Run.leads_bind.1 ticks
  match returned with
  | .error panic =>
      obtain ⟨_, contrary, _⟩ := Run.leads_attempt.1 ended
      cases contrary
  | .ok status =>
      obtain ⟨_, _, _, _, _, followed, rfl⟩ := Run.leads_bind.1 ended
      dsimp only at followed
      split at followed
      case isTrue =>
        obtain ⟨cleared, resets, rfl, _⟩ := Run.leads_bind_attempt.1 followed
        exact ⟨rfl, rfl, .inr fun _ => ⟨root, Node.cleared_of_reset resets⟩⟩
      case isFalse spared =>
        obtain ⟨rfl, _, _⟩ := Run.leads_attempt.1 followed
        refine ⟨rfl, rfl, ?_⟩
        by_cases running : status = .running
        · subst running
          exact .inl (Node.last_of_tick ticked)
        · exact .inr fun resets => absurd ⟨running, resets⟩ spared

/-- Only a tick changes the frame, whether or not a panic cuts the order short. -/
theorem frame_of_obey {result : Except Panic (Option Status)} (idle : order.isTick = false)
    (obeys : (tree.obey order).Leads before trace ⟨changed, result⟩ after) :
    changed.frame = tree.frame := by
  cases order with
  | tick => cases idle
  | reset =>
      obtain ⟨_, renewed, rfl, _⟩ := Run.leads_bind_attempt.1 obeys
      obtain ⟨_, _, rfl⟩ := Run.leads_bind_pure.1 renewed
      rfl
  | abort =>
      obtain ⟨⟨_, _⟩, stopped, rfl, _⟩ := Run.leads_bind_attempt.1 obeys
      obtain ⟨_, _, rfl, _⟩ := Run.leads_bind_attempt.1 stopped
      rfl
  | setSink | clearSink =>
      obtain ⟨rfl, _⟩ := Run.leads_attempt.1 obeys
      rfl

/-- A clean tree is in the middle of a run, or idle. -/
def Clean (tree : Tree A D) : Prop :=
  tree.root.last = some .running ∨ tree.root.Everywhere Node.Idle

/-- An order that is obeyed keeps the settings, counts if it is a tick, and leaves a clean tree clean if
the tree resets its finished root. -/
theorem changed_of_obey {status : Option Status}
    (obeys : (tree.obey order).Leads before trace ⟨changed, .ok status⟩ after) :
    changed.settings = tree.settings ∧
      changed.frame = tree.frame + (if order.isTick then 1 else 0) ∧
        (tree.settings.resetOnComplete = true → tree.Clean → changed.Clean) := by
  cases order with
  | tick deltaTime =>
      obtain ⟨⟨ticked, returned⟩, ticks, rfl, same⟩ := Run.leads_bind_attempt.1 obeys
      match returned with
      | .error _ => cases same
      | .ok _ =>
          obtain ⟨settings, frame, running | renews⟩ := changed_of_tick ticks
          · exact ⟨settings, frame, fun _ _ => .inl running⟩
          · refine ⟨settings, frame, fun resets _ => .inr ?_⟩
            obtain ⟨root, cleared⟩ := renews resets
            rw [cleared]
            exact root.idle_cleared
  | reset =>
      obtain ⟨_, renewed, rfl, _⟩ := Run.leads_bind_attempt.1 obeys
      obtain ⟨_, resets, rfl⟩ := Run.leads_bind_pure.1 renewed
      refine ⟨rfl, (UInt64.add_zero _).symm, fun _ _ => .inr ?_⟩
      obtain rfl := Node.cleared_of_reset resets
      exact tree.root.idle_cleared
  | abort =>
      obtain ⟨⟨aborted, returned⟩, stopped, rfl, same⟩ := Run.leads_bind_attempt.1 obeys
      obtain ⟨⟨stopping, result⟩, aborts, rfl, rfl⟩ := Run.leads_bind_attempt.1 stopped
      refine ⟨rfl, (UInt64.add_zero _).symm, fun _ _ => .inr ?_⟩
      cases Node.abortsIn_of_abortIn aborts with
      | silent | reported => exact tree.root.idle_cleared
      | unwound => cases same
  | setSink | clearSink =>
      obtain ⟨rfl, _⟩ := Run.leads_attempt.1 obeys
      exact ⟨rfl, (UInt64.add_zero _).symm, fun _ clean => clean⟩

/-- No order changes the settings. -/
theorem Serves.settings (serves : tree.Serves orders final) : final.settings = tree.settings := by
  induction serves with
  | start => rfl
  | obeyed _ obeys inductionHypothesis => exact (changed_of_obey obeys).1.trans inductionHypothesis

/-- The frame counts the ticks, and wraps around. -/
theorem Serves.frame (serves : tree.Serves orders final) :
    final.frame = tree.frame + .ofNat (orders.countP Order.isTick) := by
  induction serves with
  | start => exact (UInt64.add_zero _).symm
  | @obeyed _ _ orders order _ _ _ _ _ obeys inductionHypothesis =>
      obtain ⟨_, frame, _⟩ := changed_of_obey obeys
      have counted : (orders ++ [order]).countP Order.isTick =
          orders.countP Order.isTick + if order.isTick then 1 else 0 := by
        rw [List.countP_append, List.countP_singleton]
      rw [frame, inductionHypothesis, counted, UInt64.ofNat_add, UInt64.add_assoc]
      cases order.isTick <;> rfl

/-- A tree that resets on completion stays clean. -/
theorem Serves.clean (serves : tree.Serves orders final)
    (resets : tree.settings.resetOnComplete = true) (clean : tree.Clean) : final.Clean := by
  induction serves with
  | start => exact clean
  | obeyed serves obeys inductionHypothesis =>
      exact (changed_of_obey obeys).2.2 (by rw [serves.settings, resets]) inductionHypothesis

/-- All that a tick tells its nodes of the time is the clamped delta time and the frame of the tree. -/
theorem keepsTo_of_tick {result : Except Panic Status}
    (ticks : (tree.tick deltaTime).Leads before trace ⟨changed, result⟩ after) :
    trace.KeepsTo ⟨tree.settings.clamp deltaTime, tree.frame⟩ := by
  obtain ⟨_, evolves, _⟩ := Host.evolves_of_tick ticks
  exact evolves.keepsTo

end Tree

/-- A tree that resets its finished root is built from a root that has never been ticked, and serves
some orders. Then its root is running or all of its nodes are idle, and its frame is the number of
the ticks. Every action that the next tick calls, wherever it stands, is given the clamped delta time
of that tick and this frame: the agent performs the calls of the tick as they are told, and goes through
nothing else. No other order changes the frame. -/
theorem Tree.runs_start_clean {root : Node A} {settings : Settings} {tree final : Tree A D}
    {orders : List (Order D)} {before after : Stage A D} {building : Trace A} (built : root.Built)
    (resets : settings.resetOnComplete = true)
    (builds : (build root settings).Leads before building (.ok tree) after)
    (serves : tree.Serves orders final) (few : orders.countP Order.isTick < UInt64.size) :
    (final.root.last = some .running ∨ final.root.Everywhere Node.Idle) ∧
      final.frame.toNat = orders.countP Order.isTick ∧
      (∀ (deltaTime : Float32) (before after : Stage A D) (trace : Trace A) (changed : Tree A D)
        (result : Except Panic Status),
          (final.tick deltaTime).Leads before trace ⟨changed, result⟩ after →
            A.Performs before.agent trace.made after.agent ∧
              ∀ place action clock outcome, (place, .acted action clock outcome) ∈ trace.calls →
                clock = ⟨settings.clamp deltaTime, final.frame⟩) ∧
      ∀ (order : Order D) (before after : Stage A D) (trace : Trace A) (changed : Tree A D)
        (result : Except Panic (Option Status)), order.isTick = false →
          (final.obey order).Leads before trace ⟨changed, result⟩ after →
            changed.frame = final.frame := by
  obtain rfl := eq_of_build builds
  have idle : (root.number.run 0).1.Everywhere Node.Idle := by
    rw [← Node.descends_unnumbered.everywhere_iff Node.idle_unnumbered, Node.unnumbered_number,
      Node.descends_unnumbered.everywhere_iff Node.idle_unnumbered, ← built.pristine]
    exact root.idle_pristine
  refine ⟨serves.clean resets (.inr idle), ?frames, ?told, ?others⟩
  case frames =>
    rw [serves.frame, UInt64.zero_add]
    exact UInt64.toNat_ofNat_of_lt' few
  case told =>
    intro deltaTime _ _ trace _ _ ticks
    refine ⟨((final.carried_tick deltaTime).of_leads ticks).performed, ?_⟩
    intro place action clock outcome called
    have keeps := keepsTo_of_tick ticks
    rw [serves.settings] at keeps
    exact keeps.acted called
  case others =>
    intro _ _ _ _ _ _ untold obeys
    exact frame_of_obey untold obeys

namespace Sample

/-- A crew has one thing to do, and is busy with it as long as its flag is up. -/
def crew : Agent where
  State := Bool
  Predicate := Empty
  Action := Unit
  Starter := Empty
  Operation := Empty
  test predicate := nomatch predicate
  act _ _ busy := ⟨.ok (if busy then .running else .success), busy, []⟩
  start starter := nomatch starter
  poll operation := nomatch operation
  take operation := nomatch operation
  cancel operation := nomatch operation

def chore : Node crew := .invert (.action (A := crew) ())

/-- The chore in a tree that resets it when it has finished. -/
def yard : Tree crew Unit := ⟨"main", (chore.number.run 0).1, Settings.standard, 0, none⟩

/-- The crew is busy during the first tick and has finished in the second. -/
def yardAtNoon : Tree crew Unit := (yard.obey (.tick 0) ⟨true, ()⟩).value.after

def yardAtDusk : Tree crew Unit := (yardAtNoon.obey (.tick 0) ⟨false, ()⟩).value.after

theorem serves_yard : yard.Serves [.tick 0, .tick 0] yardAtDusk := by
  have busy : (yard.obey (.tick 0) ⟨true, ()⟩).value.result = .ok (some .running) := rfl
  have finished : (yardAtNoon.obey (.tick 0) ⟨false, ()⟩).value.result = .ok (some .failure) := rfl
  have morning : yard.Serves ([] ++ [.tick 0]) yardAtNoon := Tree.Serves.start.next _ busy
  exact morning.next _ finished

end Sample

/-- The yard is idle after two ticks, and the third one gives the frame two to its only action. -/
theorem Tree.yard_starts_clean :
    (Sample.yardAtDusk.root.last = some .running ∨ Sample.yardAtDusk.root.Everywhere Node.Idle) ∧
      Sample.yardAtDusk.root.last = none ∧ Sample.yardAtDusk.frame.toNat = 2 ∧
      Sample.crew.Performs true [.acted () ⟨Settings.standard.clamp 0, 2⟩ (.ok .running)] true ∧
      ∀ place action clock outcome,
        (place, .acted action clock outcome) ∈ (Sample.yardAtDusk.tick 0 ⟨true, ()⟩).trace.calls →
          clock = ⟨Settings.standard.clamp 0, Sample.yardAtDusk.frame⟩ := by
  have built : Sample.chore.Built := .invert (.action _)
  have builds : (build (D := Unit) Sample.chore Settings.standard).Leads ⟨true, ()⟩ _
      (.ok Sample.yard) _ := Run.leads_self _ _
  obtain ⟨clean, frames, told, _⟩ :=
    runs_start_clean built rfl builds Sample.serves_yard (by decide)
  obtain ⟨performs, clocks⟩ :=
    told 0 ⟨true, ()⟩ _ _ _ _ (Run.leads_self (Sample.yardAtDusk.tick 0) ⟨true, ()⟩)
  exact ⟨clean, rfl, frames, performs, clocks⟩

end Behavior
