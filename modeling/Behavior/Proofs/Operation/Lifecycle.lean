import Behavior.Proofs.History
import Behavior.Proofs.Idle.Coherence
import Behavior.Proofs.Operation.Threads
import Behavior.Proofs.Run.Effects
import Behavior.Proofs.Touch.Descent

namespace Behavior

variable {A : Agent} {D : Type}

namespace Leaf

variable {starter : A.Starter} {pending : Option A.Operation} {operation : A.Operation}
  {place : Place} {next : Leaf A} {before after : Stage A D} {trace : Trace A}
  {result : Except Panic Status}

/-- A poll continues the life of an operation, or ends it with a final status. -/
theorem threads_of_poll
    (polls : (poll place starter operation).Leads before trace ⟨next, result⟩ after) :
    ∃ status left, result = .ok status ∧ next = .asyncAction starter left ∧
      (left.isSome ↔ status = .running) ∧
        Threads starter (some operation) (trace.callsAt place) left := by
  obtain ⟨completed, _, _, _, polled, ended, rfl⟩ := Run.leads_bind.1 polls
  cases completed with
  | false =>
      obtain ⟨rfl, rfl, rfl, rfl⟩ := Run.leads_attempt.1 ended
      refine ⟨.running, some operation, rfl, rfl, by simp, ?_⟩
      rw [List.append_nil, polled.callsAt]
      exact .waited .done
  | true =>
      obtain ⟨success, taken, rfl, rfl⟩ := Run.leads_bind_attempt.1 ended
      refine ⟨.ofBool success, none, rfl, rfl, by cases success <;> simp [Status.ofBool], ?_⟩
      rw [Trace.callsAt_append, polled.callsAt, taken.callsAt]
      exact .taken success .done

/-- A tick of an asynchronous action is a thread. It leaves an operation pending exactly if it
returns running. -/
theorem threads_of_tick {context : Context D} {info : NodeInfo}
    (ticks : (asyncAction starter pending).tick info context |>.Leads before trace ⟨next, result⟩
      after) :
    ∃ left, next = .asyncAction starter left ∧
      Threads starter pending (trace.callsAt context.place) left ∧
      (∀ status, result = .ok status → (left.isSome ↔ status = .running)) ∧
      (∀ panic, result = .error panic → left = pending) := by
  cases pending with
  | some operation =>
      obtain ⟨status, left, rfl, rfl, waits, threads⟩ := threads_of_poll ticks
      refine ⟨left, rfl, threads, ?_, nofun⟩
      rintro _ ⟨⟩
      exact waits
  | none =>
      obtain ⟨started, _, _, _, starts, ended, rfl⟩ := Run.leads_bind.1 ticks
      rw [Trace.callsAt_append, starts.callsAt]
      match started with
      | .error panic =>
          obtain ⟨rfl, rfl, rfl, rfl⟩ := Run.leads_attempt.1 ended
          exact ⟨none, rfl, .refused panic .done, nofun, fun _ _ => rfl⟩
      | .ok operation =>
          obtain ⟨status, left, rfl, rfl, waits, threads⟩ := threads_of_poll ended
          refine ⟨left, rfl, .started operation threads, ?_, nofun⟩
          rintro _ ⟨⟩
          exact waits

/-- A cancellation ends the life of what is pending. -/
theorem threads_of_cancel
    (cancels : ((asyncAction starter pending).cancel place).Leads before trace next after) :
    Threads starter pending (trace.callsAt place) none := by
  cases pending with
  | none =>
      obtain ⟨_, rfl, _⟩ := Run.leads_pure.1 cancels
      exact .done
  | some operation =>
      obtain ⟨_, called, _⟩ := Run.leads_bind_pure.1 cancels
      rw [called.callsAt]
      exact .cancelled .done

end Leaf

namespace Node

/-- An asynchronous action waits for its pending operation, and it is running exactly then. -/
structure Waits (starter : A.Starter) (pending : Option A.Operation) (node : Node A) : Prop where
  body : node.body = .leaf (.asyncAction starter pending)
  running : pending.isSome ↔ node.last = some .running

variable {context : Context D} {node changed : Node A} {touch : Touch} {before after : Stage A D}
  {trace : Trace A} {starter : A.Starter} {pending : Option A.Operation}

/-- A reset leaves nothing pending. -/
theorem Resets.threads (resets : node.Resets context trace) (waits : node.Waits starter pending) :
    Threads starter pending (trace.callsAt context.place) none := by
  obtain ⟨cancels, handles⟩ := resets
  rw [waits.body] at cancels
  obtain ⟨_, released, _⟩ := Run.leads_bind_pure.1 cancels
  have childless : node.children = [] := by
    rw [children, waits.body]
    rfl
  rw [childless] at handles
  have silent : (clearing (A := A) context.place node.tag).callsAt context.place = [] := by
    unfold clearing
    split <;> simp
  simpa [silent, handles.nil.2.callsAt] using Leaf.threads_of_cancel released

/-- A cleared action waits for nothing. -/
theorem cleared_waits (waits : node.Waits starter pending) : node.cleared.Waits starter none := by
  refine ⟨?_, by simp⟩
  rw [body_cleared, waits.body]
  rfl

/-- Whatever an asynchronous action undergoes is a thread. -/
theorem Undergoes.threads (undergoes : node.Undergoes context touch before trace changed after)
    (waits : node.Waits starter pending) :
    ∃ left, changed.Waits starter left ∧
      Threads starter pending (trace.callsAt context.place) left := by
  have resetting {before after : Stage A D} {trace : Trace A}
      (resets : (node.reset context.place).Leads before trace node.cleared after) :
      node.cleared.Waits starter none ∧
        Threads starter pending (trace.callsAt context.place) none :=
    ⟨cleared_waits waits, (resets_of_reset resets).threads waits⟩
  cases undergoes with
  | reset resets =>
      obtain rfl := cleared_of_reset resets
      exact ⟨none, resetting resets⟩
  | aborted aborts =>
      cases abortsIn_of_abortIn aborts with
      | silent _ resets => exact ⟨none, resetting resets⟩
      | reported _ tells resets =>
          refine ⟨none, cleared_waits waits, ?_⟩
          simpa [tells.callsAt] using (resetting resets).2
      | unwound _ tells =>
          refine ⟨pending, waits, ?_⟩
          rw [Trace.callsAt_cons_output, tells.callsAt]
          exact .done
  | ticked ticks =>
      cases ticked_of_tick ticks with
      | refused announces =>
          refine ⟨pending, waits, ?_⟩
          rw [announces.callsAt]
          exact .done
      | unwound announces works =>
          rw [waits.body] at works
          rw [Trace.callsAt_append, announces.callsAt, List.nil_append]
          cases works with
          | leaf ticks =>
              obtain ⟨left, rfl, threads, _, unwound⟩ := Leaf.threads_of_tick ticks
              obtain rfl := unwound _ rfl
              exact ⟨left, ⟨rfl, waits.running⟩, threads⟩
          | refused asks => cases asks
          | played _ _ plays => cases plays
      | returned announces works leaves _ =>
          rw [waits.body] at works
          rw [Trace.callsAt_append, Trace.callsAt_append, announces.callsAt, leaves.callsAt,
            List.nil_append, List.append_nil]
          cases works with
          | leaf ticks =>
              obtain ⟨left, rfl, threads, returned, _⟩ := Leaf.threads_of_tick ticks
              refine ⟨left, ⟨rfl, ?_⟩, threads⟩
              simpa [last] using returned _ rfl
          | played _ _ plays => cases plays

/-- Threads of an asynchronous action accumulate. -/
theorem accumulates_threads (starter : A.Starter) :
    Accumulates D fun (node : Node A) events changed => ∀ pending, node.Waits starter pending →
      ∃ left, changed.Waits starter left ∧
        Threads starter pending (events.filterMap Event.call?) left where
  done _ pending waits := ⟨pending, waits, .done⟩
  wrote _ _ pending waits := ⟨pending, waits, .done⟩
  trans first second pending waits := by
    obtain ⟨middle, waits, threads⟩ := first pending waits
    obtain ⟨left, waits, more⟩ := second middle waits
    refine ⟨left, waits, ?_⟩
    rw [List.filterMap_append]
    exact threads.trans more
  own undergoes _ waits := undergoes.threads waits

/-- Whatever is done to a tree, each asynchronous action in it goes on with its thread. -/
theorem Evolves.threads_below {path : Place} {leaf : Node A} {touches : List Touch}
    (evolves : node.Evolves context touches trace changed)
    (leads : node.descendant? path = some leaf) (waits : leaf.Waits starter pending) :
    ∃ next left, changed.descendant? path = some next ∧ next.Waits starter left ∧
      Threads starter pending (trace.callsAt (path ++ context.place)) left := by
  obtain ⟨next, led, kept⟩ := (accumulates_threads starter).evolves evolves leads
  obtain ⟨left, waits, threads⟩ := kept pending waits
  exact ⟨next, left, led, waits, threads⟩

/-- In a threaded tree each asynchronous action has made a thread of calls so far, and no calls
have been made where there is no node. -/
structure Threaded (node : Node A) (trace : Trace A) : Prop where
  outside : ∀ path, node.descendant? path = none → trace.callsAt path = []
  action : ∀ path leaf starter pending, node.descendant? path = some leaf →
    leaf.body = .leaf (.asyncAction starter pending) →
      leaf.Waits starter pending ∧ Threads starter none (trace.callsAt path) pending

/-- Nodes that are built of the same are asynchronous actions together. -/
theorem action_of_pristine {leaf other : Node A} (built : other.pristine = leaf.pristine)
    (action : leaf.body = .leaf (.asyncAction starter pending)) :
    ∃ left, other.body = .leaf (.asyncAction starter left) := by
  obtain ⟨tag, body⟩ := leaf
  obtain rfl : body = _ := action
  have same := congrArg Node.body built
  rw [body_pristine, body_pristine] at same
  cases own : other.body with
  | leaf own' =>
      rw [own] at same
      cases own' with
      | asyncAction other left =>
          cases same
          exact ⟨left, rfl⟩
      | condition | action => cases same
  | decorator | choice | composite =>
      rw [own] at same
      cases same

/-- The calls of a tree stay threaded while its root evolves. -/
theorem Threaded.evolved {later : Trace A} {touches : List Touch}
    (rooted : context.place = Tree.rootPlace) (threaded : node.Threaded trace)
    (evolves : node.Evolves context touches later changed) :
    changed.Threaded (trace ++ later) := by
  have same (path : Place) :
      (changed.descendant? path).map pristine = (node.descendant? path).map pristine := by
    rw [← descends_pristine.descendant?, ← descends_pristine.descendant?, evolves.pristine]
  constructor
  · intro path nowhere
    have before : node.descendant? path = none := by
      have absent := same path
      rwa [nowhere, Option.map_none, eq_comm, Option.map_eq_none_iff] at absent
    have none : later.eventsAt path = [] := by
      apply List.eq_nil_iff_forall_not_mem.2
      intro event member
      obtain ⟨other, leads, there⟩ := evolves.populates _ ((Trace.mem_eventsAt event).1 member)
      rw [rooted, Tree.rootPlace, List.append_nil] at there
      rw [← there, before] at leads
      cases leads
    rw [Trace.callsAt_append, threaded.outside path before, Trace.callsAt, none]
    rfl
  · intro path leaf starter pending leads action
    have origin := same path
    rw [leads, Option.map_some, eq_comm, Option.map_eq_some_iff] at origin
    obtain ⟨old, led, built⟩ := origin
    obtain ⟨left, origin⟩ := action_of_pristine built action
    obtain ⟨waits, first⟩ := threaded.action path old starter left led origin
    obtain ⟨_, final, found, waiting, second⟩ := evolves.threads_below led waits
    obtain rfl := Option.some.inj (leads.symm.trans found)
    rw [waiting.body, Body.leaf.injEq, Leaf.asyncAction.injEq] at action
    obtain ⟨_, rfl⟩ := action
    rw [rooted, Tree.rootPlace, List.append_nil] at second
    rw [Trace.callsAt_append]
    exact ⟨waiting, first.trans second⟩

/-- An asynchronous action that has been built only waits for nothing. -/
theorem Built.waits {root leaf : Node A} {path : Place} (built : root.Built)
    (leads : root.descendant? path = some leaf)
    (action : leaf.body = .leaf (.asyncAction starter pending)) :
    pending = none ∧ leaf.Waits starter none := by
  have same : leaf.pristine = leaf := by
    have found := descends_pristine.descendant? root path
    rw [built.pristine, leads] at found
    exact (Option.some.inj found).symm
  have settled : leaf.Rests := by
    rw [← same]
    exact (rests_pristine leaf).here
  have idle : leaf.last = none := by
    rw [← same, last, tag_pristine]
    rfl
  obtain rfl : pending = none := by
    have rests := settled.2
    rwa [action] at rests
  exact ⟨rfl, action, by simp [idle]⟩

/-- New children have made no calls yet. -/
theorem Threaded.extended {child : Node A} (threaded : node.Threaded trace) (built : child.Built)
    (accepted : node.addChild child = .ok changed) : changed.Threaded trace := by
  constructor
  · intro path nowhere
    rcases List.eq_nil_or_concat path with rfl | ⟨rest, position, rfl⟩
    · cases nowhere
    · rw [List.concat_eq_append] at nowhere ⊢
      apply threaded.outside
      rw [descendant?_addChild accepted] at nowhere
      split at nowhere
      case isTrue new => rw [descendant?_concat, new, List.getElem?_eq_none (Nat.le_refl _)]; rfl
      case isFalse => exact nowhere
  · intro path leaf starter pending leads action
    rcases List.eq_nil_or_concat path with rfl | ⟨rest, position, rfl⟩
    · obtain ⟨tag, own, nodes, rfl, rfl⟩ := addChild_spec accepted
      obtain rfl := Option.some.inj leads
      cases action
    · rw [List.concat_eq_append] at leads ⊢
      rw [descendant?_addChild accepted] at leads
      split at leads
      case isTrue new =>
        obtain ⟨rfl, waits⟩ := built.waits leads action
        refine ⟨waits, ?_⟩
        rw [threaded.outside]
        · exact .done
        · rw [descendant?_concat, new, List.getElem?_eq_none (Nat.le_refl _)]
          rfl
      case isFalse => exact threaded.action _ leaf starter pending leads action

/-- Numbers have nothing to do with calls. -/
theorem Threaded.numbered {later : Trace A} (threaded : node.Threaded trace)
    (same : changed.unnumbered = node.unnumbered) (written : later.Written Tree.rootPlace) :
    changed.Threaded (trace ++ later) := by
  have found (path : Place) := descendant?_of_unnumbered same path
  constructor
  · intro path nowhere
    have absent := found path
    rw [nowhere, Option.map_none, eq_comm, Option.map_eq_none_iff] at absent
    rw [Trace.callsAt_append, threaded.outside path absent, written.callsAt]
    rfl
  · intro path leaf starter pending leads action
    have origin := found path
    rw [leads, Option.map_some, eq_comm, Option.map_eq_some_iff] at origin
    obtain ⟨old, led, numberless⟩ := origin
    have bodies := congrArg Node.body numberless
    rw [body_unnumbered, body_unnumbered, action] at bodies
    have lasts := congrArg Node.last numberless
    rw [last_unnumbered, last_unnumbered] at lasts
    have origin : old.body = .leaf (.asyncAction starter pending) := by
      cases own : old.body with
      | leaf own' =>
          rw [own] at bodies
          cases bodies
          rfl
      | decorator | choice | composite =>
          rw [own] at bodies
          cases bodies
    obtain ⟨waits, threads⟩ := threaded.action path old starter pending led origin
    rw [Trace.callsAt_append, written.callsAt, List.append_nil]
    exact ⟨⟨action, by rw [← lasts]; exact waits.running⟩, threads⟩

end Node

namespace Host

/-- Every history keeps the tree threaded, also if its steps are cut short. -/
theorem History.threaded {root : Node A} {host : Host A D} {trace : Trace A} (built : root.Built)
    (history : (Host.bare (D := D) root).History Node.Built (fun _ => True) trace host) :
    host.root.Threaded trace := by
  induction history with
  | start =>
      constructor
      · intro _ _
        rfl
      · intro path leaf starter pending leads action
        obtain ⟨rfl, waits⟩ := built.waits leads action
        exact ⟨waits, .done⟩
  | step _ steps _ inductionHypothesis =>
      cases steps.root with
      | evolved rooted evolves _ => exact inductionHypothesis.evolved rooted evolves
      | extended fresh accepted =>
          rw [List.append_nil]
          exact inductionHypothesis.extended fresh accepted
      | numbered same written => exact inductionHypothesis.numbered same written

/-- Whatever is done to a tree of any nodes, and whatever panics, the calls of an asynchronous action
are complete lives and at most one unfinished life. The action is running exactly while an
operation is pending, which is exactly while a life is unfinished. These calls are what happens to the
agent: whatever is done to the host next, unless it is given a child, is an act, and on every stage the
agent performs the calls of an act one after the other and goes through nothing else. -/
theorem operations_live_in_order {root : Node A} {host : Host A D} {trace : Trace A}
    (built : root.Built)
    (history : (Host.bare (D := D) root).History Node.Built (fun _ => True) trace host) :
    (∀ (path : Place) (leaf : Node A) (starter : A.Starter) (pending : Option A.Operation),
      host.root.descendant? path = some leaf → leaf.body = .leaf (.asyncAction starter pending) →
        Orderly starter (trace.callsAt path) pending ∧
          (pending.isSome ↔ leaf.last = some .running)) ∧
    (∀ (later : Trace A) (result : Except Panic (Option Status)) (next : Host A D),
      host.Steps Node.Built later result next →
        later = [] ∨ ∃ sink before after, host.Acts sink before later result next after) ∧
    ∀ (sink : Option (Sink D)) (before after : Stage A D) (later : Trace A)
      (result : Except Panic (Option Status)) (next : Host A D),
        host.Acts sink before later result next after →
          A.Performs before.agent later.made after.agent := by
  refine ⟨?lives, fun _ _ _ steps => steps.acts, fun _ _ _ _ _ _ acts => acts.carries.performed⟩
  intro path leaf starter pending leads action
  obtain ⟨waits, threads⟩ := (history.threaded built).action path leaf starter pending leads action
  exact ⟨threads.orderly.1 rfl, waits.running⟩

/-- The sample operation is started, polled and cancelled, and is not pending any more. What the agent
performs in the tick with the flag down is the test of the flag and the cancellation. -/
theorem operation_lived_in_order :
    Orderly (A := Sample.agent) () (((Sample.ticked Sample.root true).trace ++
        (Sample.ticked Sample.waiting false).trace).callsAt [0]) none ∧
      Sample.agent.Performs false [.tested () (.ok false), .cancelled ()]
        (Sample.ticked Sample.waiting false).stage.agent := by
  have stopped : (Host.bare (D := Unit) Sample.root).History Node.Built (fun _ => True) _ _ :=
    Sample.history_stopped fun _ => trivial
  have waiting : (Host.bare (D := Unit) Sample.root).History Node.Built (fun _ => True) _ _ :=
    Sample.history_waiting fun _ => trivial
  have acts : (Host.bare Sample.waiting).Acts (some .silent) ⟨false, ()⟩ _ _ _ _ :=
    .ticked rfl (Run.leads_self (Sample.waiting.tick Sample.context) ⟨false, ()⟩)
  obtain ⟨lives, _⟩ := operations_live_in_order Sample.built stopped
  obtain ⟨_, _, performs⟩ := operations_live_in_order Sample.built waiting
  exact ⟨(lives [0] _ () none rfl rfl).1, performs _ _ _ _ _ _ acts⟩

end Host

end Behavior
