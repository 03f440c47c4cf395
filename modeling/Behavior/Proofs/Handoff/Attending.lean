import Behavior.Proofs.Handoff.Switchboard
import Behavior.Proofs.Renewal.Cancellation
import Behavior.Proofs.Touch.Descent

namespace Behavior

variable {A : Agent} {D : Type}

/-- A doing of a node is a call, a report of a status or a clearing. -/
inductive Doing (A : Agent) where
  | called (call : Call A)
  | left (status : Status)
  | cleared

def Event.doing? : Event A → Option (Doing A)
  | .call made => some (.called made)
  | .notice (.left _ status _) => some (.left status)
  | .cleared => some .cleared
  | _ => none

theorem Event.blind_doing? : Event.Blind (Event.doing? (A := A)) := fun _ => rfl

/-- An event that is told as a call is one. -/
theorem Event.eq_call {event : Event A} {call : Call A} (told : event.doing? = some (.called call)) :
    event = .call call := by
  match event with
  | .call made =>
      cases told
      rfl
  | .notice (.left _ _ _) => cases told

/-- The operation that a doing starts or uses. -/
def Doing.operation? : Doing A → Option A.Operation
  | called call => call.operation?
  | _ => none

/-- An idle doing has to do with no operation. Where operations can be started, no status is reported
without one. -/
def Doing.Idle (starter : Option A.Starter) (doing : Doing A) : Prop :=
  doing.operation? = none ∧ (starter.isSome → ∀ status, doing ≠ .left status)

/-- A node attends to an operation from its start on: it reports running as long as it finds the
operation uncompleted, reports the result that it takes when it finds it completed, and cancels the
operation when it is cleared. -/
inductive Attends (starter : Option A.Starter) :
    Option A.Operation → List (Doing A) → Option A.Operation → Prop
  | done {pending : Option A.Operation} : Attends starter pending [] pending
  | idle {doing : Doing A} {doings : List (Doing A)} {final : Option A.Operation}
      (idle : doing.Idle starter) (rest : Attends starter none doings final) :
      Attends starter none (doing :: doings) final
  | started {source : A.Starter} {operation : A.Operation} {doings : List (Doing A)}
      {final : Option A.Operation} (own : starter = some source)
      (rest : Attends starter (some operation) doings final) :
      Attends starter none (.called (.started source (.ok operation)) :: doings) final
  | waited {operation : A.Operation} {doings : List (Doing A)} {final : Option A.Operation}
      (rest : Attends starter (some operation) doings final) :
      Attends starter (some operation) (.called (.polled operation false) :: .left .running :: doings)
        final
  | taken {operation : A.Operation} (success : Bool) {doings : List (Doing A)}
      {final : Option A.Operation} (rest : Attends starter none doings final) :
      Attends starter (some operation) (.called (.polled operation true) ::
        .called (.taken operation success) :: .left (.ofBool success) :: doings) final
  | cancelled {operation : A.Operation} {doings : List (Doing A)} {final : Option A.Operation}
      (rest : Attends starter none doings final) :
      Attends starter (some operation) (.cleared :: .called (.cancelled operation) :: doings) final

namespace Attends

variable {starter : Option A.Starter} {before middle after : Option A.Operation}
  {doings more : List (Doing A)} {operation : A.Operation} {doing : Doing A}

/-- An operation is attended to from one list of doings to the next. -/
theorem trans (first : Attends starter before doings middle)
    (second : Attends starter middle more after) : Attends starter before (doings ++ more) after := by
  induction first with
  | done => exact second
  | idle idle _ inductionHypothesis => exact .idle idle (inductionHypothesis second)
  | started own _ inductionHypothesis => exact .started own (inductionHypothesis second)
  | waited _ inductionHypothesis => exact .waited (inductionHypothesis second)
  | taken success _ inductionHypothesis => exact .taken success (inductionHypothesis second)
  | cancelled _ inductionHypothesis => exact .cancelled (inductionHypothesis second)

/-- Where nothing is pending, idle doings leave it so. -/
theorem of_idle (idle : ∀ doing ∈ doings, doing.Idle starter) : Attends starter none doings none := by
  induction doings with
  | nil => exact .done
  | cons doing rest inductionHypothesis =>
      obtain ⟨here, below⟩ := List.forall_mem_cons.1 idle
      exact .idle here (inductionHypothesis below)

/-- An operation that is used has been pending from the beginning or has been started. -/
theorem pending_or_started (attends : Attends starter before doings after) (member : doing ∈ doings)
    (used : doing.operation? = some operation) :
    before = some operation ∨
      ∃ source, .called (.started source (.ok operation)) ∈ doings := by
  induction attends with
  | done => cases member
  | idle idle _ inductionHypothesis =>
      rcases List.mem_cons.1 member with rfl | member
      · cases idle.1.symm.trans used
      · obtain contrary | ⟨source, started⟩ := inductionHypothesis member
        · cases contrary
        · exact .inr ⟨source, List.mem_cons_of_mem _ started⟩
  | @started source other _ _ _ _ inductionHypothesis =>
      rcases List.mem_cons.1 member with rfl | member
      · obtain rfl := Option.some.inj used
        exact .inr ⟨source, List.mem_cons_self⟩
      · obtain same | ⟨source, started⟩ := inductionHypothesis member
        · obtain rfl := Option.some.inj same
          exact .inr ⟨_, List.mem_cons_self⟩
        · exact .inr ⟨source, List.mem_cons_of_mem _ started⟩
  | waited _ inductionHypothesis =>
      simp only [List.mem_cons] at member ⊢
      rcases member with rfl | rfl | member
      · exact .inl used
      · cases used
      · obtain same | ⟨source, started⟩ := inductionHypothesis member
        · exact .inl same
        · exact .inr ⟨source, .inr (.inr started)⟩
  | taken _ _ inductionHypothesis =>
      simp only [List.mem_cons] at member ⊢
      rcases member with rfl | rfl | rfl | member
      · exact .inl used
      · exact .inl used
      · cases used
      · obtain contrary | ⟨source, started⟩ := inductionHypothesis member
        · cases contrary
        · exact .inr ⟨source, .inr (.inr (.inr started))⟩
  | cancelled _ inductionHypothesis =>
      simp only [List.mem_cons] at member ⊢
      rcases member with rfl | rfl | member
      · cases used
      · exact .inl used
      · obtain contrary | ⟨source, started⟩ := inductionHypothesis member
        · cases contrary
        · exact .inr ⟨source, .inr (.inr started)⟩

/-- From its start on an operation is attended to. Only the starter of the node starts it. -/
theorem of_started {source : A.Starter} {earlier later : List (Doing A)}
    (attends : Attends starter before
      (earlier ++ .called (.started source (.ok operation)) :: later) after) :
    starter = some source ∧ Attends starter (some operation) later after := by
  generalize split : earlier ++ .called (.started source (.ok operation)) :: later = doings at attends
  induction attends generalizing earlier with
  | done => cases earlier <;> cases split
  | idle idle _ inductionHypothesis =>
      obtain _ | ⟨_, earlier⟩ := earlier
      · obtain ⟨rfl, rfl⟩ := List.cons.inj split
        cases idle.1
      · exact inductionHypothesis (List.cons.inj split).2
  | started own rest inductionHypothesis =>
      obtain _ | ⟨_, earlier⟩ := earlier
      · obtain ⟨same, rfl⟩ := List.cons.inj split
        cases same
        exact ⟨own, rest⟩
      · exact inductionHypothesis (List.cons.inj split).2
  | waited _ inductionHypothesis | cancelled _ inductionHypothesis =>
      obtain _ | ⟨_, _ | ⟨_, earlier⟩⟩ := earlier
      · cases (List.cons.inj split).1
      · cases (List.cons.inj (List.cons.inj split).2).1
      · exact inductionHypothesis (List.cons.inj (List.cons.inj split).2).2
  | taken _ _ inductionHypothesis =>
      obtain _ | ⟨_, _ | ⟨_, _ | ⟨_, earlier⟩⟩⟩ := earlier
      · cases (List.cons.inj split).1
      · cases (List.cons.inj (List.cons.inj split).2).1
      · cases (List.cons.inj (List.cons.inj (List.cons.inj split).2).2).1
      · exact inductionHypothesis (List.cons.inj (List.cons.inj (List.cons.inj split).2).2).2

end Attends

namespace Trace

variable {place : Place} {trace first second : Trace A}

/-- The doings of the node at a place, in their order. -/
def doingsAt (place : Place) (trace : Trace A) : List (Doing A) :=
  (trace.eventsAt place).filterMap Event.doing?

/-- The doings at a place come trace by trace. -/
@[simp] theorem doingsAt_append :
    doingsAt place (first ++ second) = doingsAt place first ++ doingsAt place second :=
  viewAt_append

@[simp] theorem doingsAt_cons_output (other : Place) (output : Output) :
    doingsAt place (⟨other, .output output⟩ :: trace) = doingsAt place trace :=
  viewAt_cons_output Event.blind_doing? output

/-- An entry adds its own doing at its own place. -/
theorem doingsAt_cons (entry : Entry A) : doingsAt place (entry :: trace) =
    (if entry.place = place then entry.event.doing?.toList else []) ++ doingsAt place trace :=
  viewAt_cons entry

theorem doingsAt_cons_call (call : Call A) :
    doingsAt place (⟨place, .call call⟩ :: trace) = .called call :: doingsAt place trace := by
  rw [doingsAt_cons, if_pos rfl]
  rfl

/-- A call is among the doings at a place if the trace holds it there. -/
theorem mem_doingsAt_called {call : Call A} :
    .called call ∈ trace.doingsAt place ↔ ⟨place, .call call⟩ ∈ trace := by
  rw [← mem_eventsAt, doingsAt, List.mem_filterMap]
  constructor
  · rintro ⟨event, member, told⟩
    rwa [← Event.eq_call told]
  · intro member
    exact ⟨_, member, rfl⟩

/-- A place has no doings if no entry there is one. -/
theorem doingsAt_eq_nil (none : ∀ entry ∈ trace, entry.place = place → entry.event.doing? = .none) :
    trace.doingsAt place = [] :=
  viewAt_eq_nil none

end Trace

/-- A notice is told once, where it belongs. -/
theorem Context.Tells.doingsAt {context : Context D} {notice : Notice} {trace : Trace A}
    (tells : context.Tells notice trace) :
    trace.doingsAt context.place = (Event.doing? (A := A) (.notice notice)).toList :=
  tells.viewAt Event.blind_doing?

/-- A call is the only doing of its run. -/
theorem Run.Leads.doingsAt {Value : Type} {place : Place} {reply : A.State → Reply A.State Value}
    {describe : Value → Call A} {before after : Stage A D} {trace : Trace A} {value : Value}
    (called : (Run.call place reply describe).Leads before trace value after) :
    trace.doingsAt place = [.called (describe value)] :=
  (called.viewAt Event.blind_doing?).trans (if_pos rfl)

variable {context : Context D} {info : NodeInfo} {before after : Stage A D} {trace : Trace A}
  {result : Except Panic Status}

/-- To ask a predicate touches no operation. -/
theorem Context.idle_of_ask {predicate : A.Predicate} {answer : Except Panic Bool}
    (asks : (context.ask info predicate).Leads before trace answer after)
    (starter : Option A.Starter) : ∀ doing ∈ trace.doingsAt context.place, doing.Idle starter := by
  obtain ⟨outcome, _, _, _, called, ended, rfl⟩ := Run.leads_bind.1 asks
  have tested : Doing.Idle starter (.called (.tested predicate outcome)) :=
    ⟨rfl, fun _ _ => nofun⟩
  rw [Trace.doingsAt_append, called.doingsAt]
  match outcome with
  | .error panic =>
      obtain ⟨_, rfl, _⟩ := Run.leads_pure.1 ended
      exact List.forall_mem_singleton.2 tested
  | .ok value =>
      obtain ⟨_, notified, _⟩ := Run.leads_bind_pure.1 ended
      rw [(Context.tells_of_notify notified).doingsAt]
      exact List.forall_mem_singleton.2 tested

/-- To ask an optional predicate touches no operation. -/
theorem Asks.idle {predicate : Option A.Predicate} {answer : Except Panic Bool}
    (asks : Asks context info predicate before trace answer after) (starter : Option A.Starter) :
    ∀ doing ∈ trace.doingsAt context.place, doing.Idle starter := by
  cases asks with
  | spared => exact fun _ member => absurd member List.not_mem_nil
  | asked asks => exact Context.idle_of_ask asks starter

/-- A node does nothing of its own while it handles its children. -/
theorem Handles.doingsAt {nodes final : List (Node A)} {touches : List (Nat × Touch)}
    (handles : Handles context nodes before touches trace final after) :
    trace.doingsAt context.place = [] := by
  apply Trace.doingsAt_eq_nil
  induction handles with
  | done => exact fun _ member => absurd member List.not_mem_nil
  | wrote record _ inductionHypothesis =>
      exact List.forall_mem_cons.2 ⟨fun _ => rfl, inductionHypothesis⟩
  | touched _ undergoes _ inductionHypothesis =>
      refine List.forall_mem_append.2 ⟨fun entry member here => ?_, inductionHypothesis⟩
      have inside := (undergoes.populates.inside entry member).length_le
      rw [here] at inside
      exact absurd inside (by simp [Context.child])

/-- The starter of an asynchronous action. -/
def Leaf.starter? : Leaf A → Option A.Starter
  | .asyncAction starter _ => some starter
  | _ => none

def Body.starter? {Child : Type} : Body A Child → Option A.Starter
  | .leaf own => own.starter?
  | _ => none

/-- The report at the end of a tick. -/
def closing : Except Panic Status → List (Doing A)
  | .ok status => [.left status]
  | .error _ => []

/-- A tick attends to an operation if its doings and its report do. An operation is left pending by a
running status, or by a panic that has kept it. -/
structure Tended (starter : Option A.Starter) (pending : Option A.Operation) (doings : List (Doing A))
    (result : Except Panic Status) (left : Option A.Operation) : Prop where
  attends : Attends starter pending (doings ++ closing result) left
  waits : ∀ status, result = .ok status → left.isSome → status = .running
  kept : ∀ panic, result = .error panic → left = pending

/-- Where nothing can be started a tick does nothing with operations. -/
theorem Tended.of_idle {doings : List (Doing A)}
    (idle : ∀ doing ∈ doings, doing.Idle (none : Option A.Starter)) :
    Tended none none doings result none where
  attends := by
    refine .of_idle (List.forall_mem_append.2 ⟨idle, fun doing member => ?_⟩)
    cases result with
    | error => exact absurd member List.not_mem_nil
    | ok status =>
        rw [List.mem_singleton.1 member]
        exact ⟨rfl, nofun⟩
  waits _ _ := nofun
  kept _ _ := rfl

namespace Leaf

variable {own next : Leaf A} {place : Place}

/-- A poll tends the pending operation, and always answers. -/
theorem tended_of_poll {starter : A.Starter} {operation : A.Operation}
    (polls : (poll place starter operation).Leads before trace ⟨next, result⟩ after) :
    (∃ status, result = .ok status) ∧ next.starter? = some starter ∧
      Tended (some starter) (some operation) (trace.doingsAt place) result next.pending? := by
  obtain ⟨completed, _, _, _, polled, ended, rfl⟩ := Run.leads_bind.1 polls
  cases completed with
  | false =>
      obtain ⟨rfl, rfl, rfl, rfl⟩ := Run.leads_attempt.1 ended
      rw [List.append_nil, polled.doingsAt]
      refine ⟨⟨.running, rfl⟩, rfl, .waited .done, ?_, nofun⟩
      rintro _ ⟨⟩ _
      rfl
  | true =>
      obtain ⟨success, taken, rfl, rfl⟩ := Run.leads_bind_attempt.1 ended
      rw [Trace.doingsAt_append, polled.doingsAt, taken.doingsAt]
      exact ⟨⟨_, rfl⟩, rfl, .taken success .done, fun _ _ => nofun, nofun⟩

/-- A tick of a leaf attends to its operation. -/
theorem tended_of_tick (ticks : (own.tick info context).Leads before trace ⟨next, result⟩ after) :
    next.starter? = own.starter? ∧ Tended own.starter? own.pending? (trace.doingsAt context.place)
      result next.pending? := by
  match own with
  | .condition predicate =>
      obtain ⟨_, asks, rfl, rfl⟩ := Run.leads_bind_attempt.1 ticks
      exact ⟨rfl, .of_idle (Context.idle_of_ask asks none)⟩
  | .action deed =>
      obtain ⟨_, called, rfl, rfl⟩ := Run.leads_bind_attempt.1 ticks
      rw [called.doingsAt]
      exact ⟨rfl, .of_idle (List.forall_mem_singleton.2 ⟨rfl, nofun⟩)⟩
  | .asyncAction starter (some operation) => exact (tended_of_poll ticks).2
  | .asyncAction starter none =>
      obtain ⟨started, _, _, _, called, ended, rfl⟩ := Run.leads_bind.1 ticks
      rw [Trace.doingsAt_append, called.doingsAt]
      match started with
      | .error panic =>
          obtain ⟨rfl, rfl, rfl, rfl⟩ := Run.leads_attempt.1 ended
          exact ⟨rfl, .idle ⟨rfl, fun _ _ => nofun⟩ .done, nofun, fun _ _ => rfl⟩
      | .ok operation =>
          obtain ⟨⟨_, rfl⟩, same, tended⟩ := tended_of_poll ended
          exact ⟨same, .started rfl tended.attends, tended.waits, nofun⟩

end Leaf

namespace Body

variable {body changed : Body A (Node A)} {place : Place}

/-- A body that works attends to its operation. -/
theorem tended_of_works (works : body.Works context info before trace result changed after) :
    changed.starter? = body.starter? ∧
      Tended body.starter? body.pending? (trace.doingsAt context.place) result changed.pending? := by
  cases works with
  | leaf ticks => exact Leaf.tended_of_tick ticks
  | refused asks =>
      cases body with
      | leaf => cases asks
      | decorator | choice | composite => exact ⟨rfl, .of_idle (asks.idle none)⟩
  | played asks handles plays =>
      rw [Trace.doingsAt_append, handles.doingsAt, List.append_nil]
      cases plays with
      | decorator | choice | composite => exact ⟨rfl, .of_idle (asks.idle none)⟩

/-- A cancellation cancels what is pending and nothing else. -/
theorem doingsAt_of_cancel (cancels : (body.cancel place).Leads before trace changed after) :
    trace.doingsAt place = body.pending?.toList.map fun operation => .called (.cancelled operation) := by
  match body with
  | .leaf (.asyncAction starter (some operation)) =>
      obtain ⟨_, released, _⟩ := Run.leads_bind_pure.1 cancels
      obtain ⟨_, called, _⟩ := Run.leads_bind_pure.1 released
      exact called.doingsAt
  | .leaf (.asyncAction starter none) | .leaf (.condition predicate) | .leaf (.action deed) =>
      obtain ⟨_, released, _⟩ := Run.leads_bind_pure.1 cancels
      obtain ⟨_, rfl, _⟩ := Run.leads_pure.1 released
      rfl
  | .decorator _ _ | .choice _ _ _ | .composite _ _ =>
      obtain ⟨_, rfl, _⟩ := Run.leads_pure.1 cancels
      rfl

end Body

namespace Node

variable {node changed : Node A} {touch : Touch}

/-- An attentive node is running while an operation is pending. -/
def Attentive (node : Node A) : Prop := node.body.pending?.isSome → node.last = some .running

/-- A cleared node keeps its starter. -/
theorem starter?_cleared (node : Node A) : node.cleared.body.starter? = node.body.starter? := by
  rw [body_cleared]
  obtain ⟨tag, body⟩ := node
  cases body with
  | leaf own => cases own <;> rfl
  | decorator | choice | composite => rfl

/-- Nothing is pending on a cleared node. -/
theorem pending?_cleared (node : Node A) : node.cleared.body.pending? = none := by
  rw [body_cleared]
  obtain ⟨tag, body⟩ := node
  cases body with
  | leaf own => cases own <;> rfl
  | decorator | choice | composite => rfl

/-- A clearing is told once if there is a last status to forget. -/
theorem doingsAt_clearing (place : Place) (tag : Tag) :
    (clearing (A := A) place tag).doingsAt place = if tag.last.isSome then [.cleared] else [] := by
  unfold clearing
  split <;> simp [Trace.doingsAt, Event.doing?]

/-- A reset tells of the clearing before it cancels what is pending. -/
theorem Resets.attends (resets : node.Resets context trace) (attentive : node.Attentive) :
    Attends node.body.starter? node.body.pending? (trace.doingsAt context.place) none := by
  obtain ⟨cancels, handles⟩ := resets
  rw [Trace.doingsAt_append, Trace.doingsAt_append, doingsAt_clearing,
    Body.doingsAt_of_cancel cancels, handles.doingsAt, List.append_nil]
  cases waiting : node.body.pending? with
  | none =>
      refine .of_idle fun doing member => ?_
      split at member
      · obtain rfl : doing = .cleared := by simpa using member
        exact ⟨rfl, fun _ _ => nofun⟩
      · exact absurd member List.not_mem_nil
  | some operation =>
      have running : node.tag.last = some .running := attentive (by rw [waiting]; rfl)
      rw [running]
      exact .cancelled .done

/-- Whatever a node undergoes, it attends to its operation. -/
theorem Undergoes.attends (undergoes : node.Undergoes context touch before trace changed after)
    (attentive : node.Attentive) :
    changed.Attentive ∧ changed.body.starter? = node.body.starter? ∧
      Attends node.body.starter? node.body.pending? (trace.doingsAt context.place)
        changed.body.pending? := by
  have resetting {before after : Stage A D} {trace : Trace A}
      (resets : (node.reset context.place).Leads before trace node.cleared after) :
      node.cleared.Attentive ∧ node.cleared.body.starter? = node.body.starter? ∧
        Attends node.body.starter? node.body.pending? (trace.doingsAt context.place)
          node.cleared.body.pending? := by
    refine ⟨?_, node.starter?_cleared, ?_⟩
    · unfold Attentive
      rw [pending?_cleared]
      nofun
    · rw [pending?_cleared]
      exact (resets_of_reset resets).attends attentive
  cases undergoes with
  | reset resets =>
      obtain rfl := cleared_of_reset resets
      exact resetting resets
  | aborted aborts =>
      cases abortsIn_of_abortIn aborts with
      | silent _ resets => exact resetting resets
      | reported _ tells resets =>
          rw [Trace.doingsAt_cons_output, Trace.doingsAt_append, tells.doingsAt]
          exact resetting resets
      | unwound _ tells =>
          rw [Trace.doingsAt_cons_output, tells.doingsAt]
          exact ⟨attentive, rfl, .done⟩
  | ticked ticks =>
      cases ticked_of_tick ticks with
      | refused announces =>
          rw [announces.doingsAt]
          exact ⟨attentive, rfl, .done⟩
      | unwound announces works =>
          obtain ⟨same, tended⟩ := Body.tended_of_works works
          have attends := tended.attends
          rw [closing, List.append_nil] at attends
          rw [Trace.doingsAt_append, announces.doingsAt]
          refine ⟨fun waiting => attentive ?_, same, attends⟩
          rwa [← tended.kept _ rfl]
      | returned announces works leaves _ =>
          obtain ⟨same, tended⟩ := Body.tended_of_works works
          rw [Trace.doingsAt_append, Trace.doingsAt_append, announces.doingsAt, leaves.doingsAt]
          refine ⟨fun waiting => congrArg some (tended.waits _ rfl waiting), same, tended.attends⟩

/-- Attending accumulates. -/
theorem accumulates_attends :
    Accumulates D fun (node : Node A) events changed => node.Attentive →
      changed.Attentive ∧ changed.body.starter? = node.body.starter? ∧
        Attends node.body.starter? node.body.pending? (events.filterMap Event.doing?)
          changed.body.pending? where
  done _ attentive := ⟨attentive, rfl, .done⟩
  wrote _ _ attentive := ⟨attentive, rfl, .done⟩
  trans first second attentive := by
    obtain ⟨attentive, same, attends⟩ := first attentive
    obtain ⟨attentive, equal, more⟩ := second attentive
    rw [same] at equal more
    refine ⟨attentive, equal, ?_⟩
    rw [List.filterMap_append]
    exact attends.trans more
  own undergoes attentive := undergoes.attends attentive

/-- A tree attends through a trace if it keeps its shape, does nothing where it has no node, and if
its nodes attend to their operations. -/
structure AttendsThrough (node : Node A) (trace : Trace A) (changed : Node A) : Prop where
  shape : ∀ path, (changed.descendant? path).isSome = (node.descendant? path).isSome
  outside : ∀ path, node.descendant? path = none → trace.doingsAt path = []
  inside : ∀ path part, node.descendant? path = some part → part.Attentive →
    ∃ next, changed.descendant? path = some next ∧ next.Attentive ∧
      next.body.starter? = part.body.starter? ∧
        Attends part.body.starter? part.body.pending? (trace.doingsAt path) next.body.pending?

/-- Nothing happens in an empty trace. -/
theorem attendsThrough_nil (node : Node A) : node.AttendsThrough [] node where
  shape _ := rfl
  outside _ _ := rfl
  inside _ part leads attentive := ⟨part, leads, attentive, rfl, .done⟩

/-- What is attended to in two traces is attended to in both together. -/
theorem AttendsThrough.trans {middle : Node A} {first second : Trace A}
    (earlier : node.AttendsThrough first middle) (later : middle.AttendsThrough second changed) :
    node.AttendsThrough (first ++ second) changed where
  shape path := (later.shape path).trans (earlier.shape path)
  outside path nowhere := by
    have absent : middle.descendant? path = none := by
      apply Option.not_isSome_iff_eq_none.1
      rw [earlier.shape, nowhere]
      nofun
    rw [Trace.doingsAt_append, earlier.outside path nowhere, later.outside path absent]
    rfl
  inside path part leads attentive := by
    obtain ⟨next, led, attentive, same, attends⟩ := earlier.inside path part leads attentive
    obtain ⟨last, found, attentive, equal, more⟩ := later.inside path next led attentive
    rw [same] at equal more
    refine ⟨last, found, attentive, equal, ?_⟩
    rw [Trace.doingsAt_append]
    exact attends.trans more

/-- A root that evolves attends through its trace. -/
theorem Evolves.attendsThrough {touches : List Touch} (rooted : context.place = Tree.rootPlace)
    (evolves : node.Evolves context touches trace changed) : node.AttendsThrough trace changed where
  shape path := by
    have built := congrArg (fun node : Node A => (node.descendant? path).isSome) evolves.pristine
    simpa [descends_pristine.descendant?] using built
  outside path nowhere := by
    apply Trace.doingsAt_eq_nil
    intro entry member here
    obtain ⟨other, leads, there⟩ := evolves.populates entry member
    rw [rooted, Tree.rootPlace, List.append_nil, here] at there
    rw [← there, nowhere] at leads
    cases leads
  inside path part leads attentive := by
    obtain ⟨next, led, kept⟩ := accumulates_attends.evolves evolves leads
    rw [rooted, Tree.rootPlace, List.append_nil] at kept
    exact ⟨next, led, kept attentive⟩

end Node

end Behavior
