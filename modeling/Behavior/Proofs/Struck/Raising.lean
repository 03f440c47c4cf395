import Behavior.Proofs.Operation.Threads
import Behavior.Proofs.Report.Signs
import Behavior.Proofs.Valid.Panics

namespace Behavior

variable {A : Agent} {D : Type}

namespace Trace

variable {place other : Place} {trace first second : Trace A}

/-- The panics with which the calls at a place have ended. -/
def panicsAt (place : Place) (trace : Trace A) : List Panic :=
  (trace.callsAt place).filterMap Call.panic?

/-- The panics at a place come trace by trace. -/
@[simp] theorem panicsAt_append :
    panicsAt place (first ++ second) = panicsAt place first ++ panicsAt place second := by
  simp [panicsAt]

/-- No panic at a place is lost if only what lies below it is kept. -/
theorem panicsAt_within {upper : Place} (suffix : upper <:+ place) :
    (trace.within upper).panicsAt place = trace.panicsAt place := by
  rw [panicsAt, callsAt, eventsAt_within suffix, panicsAt, callsAt]

/-- Records do not panic. -/
theorem Written.panicsAt (written : trace.Written other) : trace.panicsAt place = [] := by
  rw [Trace.panicsAt, written.callsAt]
  rfl

/-- What is local to one place does not panic at another. -/
theorem Local.panicsAt_of_ne (all : trace.Local place) (different : place ≠ other) :
    trace.panicsAt other = [] := by
  rw [panicsAt, callsAt, all.eventsAt_of_ne different]
  rfl

theorem panicsAt_cons_record (record : Record) :
    panicsAt place (⟨other, .output (.record record)⟩ :: trace) = trace.panicsAt place := by
  have written : Written other [(⟨other, .output (.record record)⟩ : Entry A)] :=
    written_nil.cons record
  rw [← List.singleton_append, panicsAt_append, written.panicsAt, List.nil_append]

/-- A panic at a place comes from an entry there. -/
theorem exists_of_mem_panicsAt {panic : Panic} (member : panic ∈ trace.panicsAt place) :
    ∃ call, ⟨place, .call call⟩ ∈ trace ∧ call.panic? = some panic := by
  obtain ⟨call, made, ended⟩ := List.mem_filterMap.1 member
  obtain ⟨event, listed, same⟩ := List.mem_filterMap.1 made
  cases event with
  | call other =>
      obtain rfl := Option.some.inj same
      exact ⟨other, (mem_eventsAt _).1 listed, ended⟩
  | notice | output | cleared => cases same

end Trace

/-- No call panics in a notice. -/
theorem Context.Tells.panicsAt {context : Context D} {notice : Notice} {trace : Trace A}
    (tells : context.Tells notice trace) : trace.panicsAt context.place = [] := by
  rw [Trace.panicsAt, tells.callsAt]
  rfl

/-- A call panics as its reply does. -/
theorem Run.Leads.panicsAt {Value : Type} {place : Place} {reply : A.State → Reply A.State Value}
    {describe : Value → Call A} {before after : Stage A D} {trace : Trace A} {value : Value}
    (called : (Run.call place reply describe).Leads before trace value after) :
    trace.panicsAt place = (describe value).panic?.toList := by
  rw [Trace.panicsAt, called.callsAt]
  cases ended : (describe value).panic? <;> simp [ended]

variable {context : Context D} {info : NodeInfo} {before after : Stage A D} {trace : Trace A}
  {panic : Panic}

/-- A predicate that panics gives no answer but its panic. -/
theorem Context.panics_of_ask {predicate : A.Predicate} {answer : Except Panic Bool}
    (asks : (context.ask info predicate).Leads before trace answer after)
    (raised : panic ∈ trace.panicsAt context.place) : answer = .error panic := by
  obtain ⟨outcome, _, _, _, called, ended, rfl⟩ := Run.leads_bind.1 asks
  rw [Trace.panicsAt_append, called.panicsAt] at raised
  match outcome with
  | .error other =>
      obtain ⟨rfl, rfl, rfl⟩ := Run.leads_pure.1 ended
      obtain rfl : panic = other := by simpa [Call.panic?, Trace.panicsAt] using raised
      rfl
  | .ok value =>
      obtain ⟨_, notified, _⟩ := Run.leads_bind_pure.1 ended
      rw [(Context.tells_of_notify notified).panicsAt] at raised
      simp [Call.panic?] at raised

/-- A predicate that panics gives no other answer. -/
theorem Asks.panics {predicate : Option A.Predicate} {answer : Except Panic Bool}
    (asks : Asks context info predicate before trace answer after)
    (raised : panic ∈ trace.panicsAt context.place) : answer = .error panic := by
  cases asks with
  | spared => cases raised
  | asked asks => exact Context.panics_of_ask asks raised

namespace Leaf

variable {place : Place} {own next : Leaf A} {result : Except Panic Status}

/-- Polls do not panic. -/
theorem panicsAt_of_poll {starter : A.Starter} {operation : A.Operation}
    (polls : (poll place starter operation).Leads before trace ⟨next, result⟩ after) :
    trace.panicsAt place = [] := by
  obtain ⟨completed, _, _, _, polled, ended, rfl⟩ := Run.leads_bind.1 polls
  rw [Trace.panicsAt_append, polled.panicsAt]
  cases completed with
  | false =>
      obtain ⟨_, _, rfl, _⟩ := Run.leads_attempt.1 ended
      rfl
  | true =>
      obtain ⟨_, taken, _⟩ := Run.leads_bind_attempt.1 ended
      rw [taken.panicsAt]
      rfl

/-- A leaf whose call panics ends with the panic and stays as it was. -/
theorem panics_of_tick
    (ticks : (own.tick info context).Leads before trace ⟨next, result⟩ after)
    (raised : panic ∈ trace.panicsAt context.place) : result = .error panic ∧ next = own := by
  match own with
  | .condition predicate =>
      obtain ⟨answer, asks, rfl, rfl⟩ := Run.leads_bind_attempt.1 ticks
      rw [Context.panics_of_ask asks raised]
      exact ⟨rfl, rfl⟩
  | .action deed =>
      obtain ⟨_, called, rfl, rfl⟩ := Run.leads_bind_attempt.1 ticks
      rw [called.panicsAt] at raised
      cases result with
      | error other =>
          obtain rfl : panic = other := by simpa [Call.panic?] using raised
          exact ⟨rfl, rfl⟩
      | ok => cases raised
  | .asyncAction starter (some operation) =>
      rw [panicsAt_of_poll ticks] at raised
      cases raised
  | .asyncAction starter none =>
      obtain ⟨started, _, _, _, called, ended, rfl⟩ := Run.leads_bind.1 ticks
      rw [Trace.panicsAt_append, called.panicsAt] at raised
      match started with
      | .error other =>
          obtain ⟨rfl, rfl, rfl, rfl⟩ := Run.leads_attempt.1 ended
          obtain rfl : panic = other := by simpa [Call.panic?, Trace.panicsAt] using raised
          exact ⟨rfl, rfl⟩
      | .ok operation =>
          rw [panicsAt_of_poll ended] at raised
          cases raised

/-- To cancel a leaf raises no panic. -/
theorem panicsAt_of_cancel (cancels : (own.cancel place).Leads before trace next after) :
    trace.panicsAt place = [] := by
  match own with
  | .asyncAction starter (some operation) =>
      obtain ⟨_, called, _⟩ := Run.leads_bind_pure.1 cancels
      rw [called.panicsAt]
      rfl
  | .asyncAction starter none | .condition predicate | .action deed =>
      obtain ⟨_, rfl, _⟩ := Run.leads_pure.1 cancels
      rfl

end Leaf

/-- To cancel what a body waits for raises no panic. -/
theorem Body.panicsAt_of_cancel {Child : Type} {body changed : Body A Child} {place : Place}
    (cancels : (body.cancel place).Leads before trace changed after) :
    trace.panicsAt place = [] := by
  cases body with
  | leaf own =>
      obtain ⟨_, released, _⟩ := Run.leads_bind_pure.1 cancels
      exact Leaf.panicsAt_of_cancel released
  | decorator | choice | composite =>
      obtain ⟨_, rfl, _⟩ := Run.leads_pure.1 cancels
      rfl

/-- Nothing that a node does with its children panics at its own place. -/
theorem Handles.panicsAt {nodes final : List (Node A)} {touches : List (Nat × Touch)}
    (handles : Handles context nodes before touches trace final after) :
    trace.panicsAt context.place = [] := by
  induction handles with
  | done => rfl
  | wrote record _ inductionHypothesis => rw [Trace.panicsAt_cons_record, inductionHypothesis]
  | touched _ undergoes _ inductionHypothesis =>
      rw [Trace.panicsAt_append, inductionHypothesis, List.append_nil]
      apply List.eq_nil_iff_forall_not_mem.2
      intro panic raised
      obtain ⟨_, made, _⟩ := Trace.exists_of_mem_panicsAt raised
      have inside := (undergoes.populates.inside _ made).length_le
      exact absurd inside (by simp [Context.child])

namespace Node

variable {node changed : Node A} {touch : Touch} {place : Place}

theorem panicsAt_clearing (tag : Tag) :
    Trace.panicsAt place (clearing place tag : Trace A) = [] := by
  unfold clearing
  split <;> simp [Trace.panicsAt]

/-- A reset raises no panic. -/
theorem Resets.panicsAt (resets : node.Resets context trace) :
    trace.panicsAt context.place = [] := by
  obtain ⟨cancels, handles⟩ := resets
  rw [Trace.panicsAt_append, Trace.panicsAt_append, panicsAt_clearing,
    Body.panicsAt_of_cancel cancels, handles.panicsAt, List.append_nil, List.append_nil]

/-- A body whose own call panics ends with the panic and stays as it was. -/
theorem panics_of_works {body next : Body A (Node A)} {result : Except Panic Status}
    (works : body.Works context info before trace result next after)
    (raised : panic ∈ trace.panicsAt context.place) : result = .error panic ∧ next = body := by
  cases works with
  | leaf ticks =>
      obtain ⟨ended, rfl⟩ := Leaf.panics_of_tick ticks raised
      exact ⟨ended, rfl⟩
  | refused asks => exact ⟨congrArg _ (Except.error.inj (asks.panics raised)), rfl⟩
  | played asks handles _ =>
      rw [Trace.panicsAt_append, handles.panicsAt, List.append_nil] at raised
      cases asks.panics raised

/-- A node whose own call panics is ticked, ends with the panic and stays as it was. -/
theorem Undergoes.panics (undergoes : node.Undergoes context touch before trace changed after)
    (raised : panic ∈ trace.panicsAt context.place) :
    touch = .ticked (.error panic) ∧ changed = node ∧ trace.signsAt context.place = [.entered] := by
  cases undergoes with
  | reset resets =>
      rw [(resets_of_reset resets).panicsAt] at raised
      cases raised
  | aborted aborts =>
      cases abortsIn_of_abortIn aborts with
      | silent _ resets =>
          rw [(resets_of_reset resets).panicsAt] at raised
          cases raised
      | reported _ tells resets =>
          rw [Trace.panicsAt_cons_record, Trace.panicsAt_append, tells.panicsAt,
            (resets_of_reset resets).panicsAt] at raised
          cases raised
      | unwound _ tells =>
          rw [Trace.panicsAt_cons_record, tells.panicsAt] at raised
          cases raised
  | ticked ticks =>
      cases ticked_of_tick ticks with
      | refused announces =>
          rw [announces.panicsAt] at raised
          cases raised
      | unwound announces works =>
          rw [Trace.panicsAt_append, announces.panicsAt, List.nil_append] at raised
          obtain ⟨ended, same⟩ := panics_of_works works raised
          obtain ⟨tag, body⟩ := node
          refine ⟨congrArg Touch.ticked ended, congrArg (Node.mk tag) same, ?_⟩
          rw [Trace.signsAt_append, announces.signsAt, works.signsAt]
          rfl
      | returned announces works leaves _ =>
          rw [Trace.panicsAt_append, Trace.panicsAt_append, announces.panicsAt, leaves.panicsAt,
            List.append_nil, List.nil_append] at raised
          cases (panics_of_works works raised).1

end Node

end Behavior
