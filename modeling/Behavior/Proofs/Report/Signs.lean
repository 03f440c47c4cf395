import Behavior.Proofs.Touch.Descent
import Behavior.Proofs.Trace.View

namespace Behavior

variable {A : Agent} {D : Type}

/-- A sign is a notice or a clearing that has to do with the last status of a node. -/
inductive Sign where
  | entered
  | left (status : Status)
  | aborted (node : NodeInfo)
  | cleared
  deriving DecidableEq

def Event.sign? : Event A → Option Sign
  | .notice (.entered _ _) => some .entered
  | .notice (.left _ status _) => some (.left status)
  | .notice (.aborted node) => some (.aborted node)
  | .cleared => some .cleared
  | _ => none

theorem Event.blind_sign? : Event.Blind (Event.sign? (A := A)) := fun _ => rfl

/-- The status with which a node is left. -/
def Sign.returned? : Sign → Option Status
  | left status => some status
  | _ => none

/-- The last status of a node after a sign. -/
def Sign.status (last : Option Status) : Sign → Option Status
  | left status => some status
  | cleared => none
  | _ => last

/-- The last status of a node after some signs. -/
def statusAfter (last : Option Status) (signs : List Sign) : Option Status :=
  signs.foldl Sign.status last

/-- The last status follows sign after sign. -/
theorem statusAfter_append (last : Option Status) (first second : List Sign) :
    statusAfter last (first ++ second) = statusAfter (statusAfter last first) second :=
  List.foldl_append

namespace Trace

variable {place other : Place} {trace first second : Trace A}

/-- The signs at a place, in their order. -/
def signsAt (place : Place) (trace : Trace A) : List Sign :=
  (trace.eventsAt place).filterMap Event.sign?

/-- The signs at a place come trace by trace. -/
@[simp] theorem signsAt_append :
    signsAt place (first ++ second) = signsAt place first ++ signsAt place second :=
  viewAt_append

@[simp] theorem signsAt_cons_output (output : Output) :
    signsAt place (⟨other, .output output⟩ :: trace) = signsAt place trace :=
  viewAt_cons_output Event.blind_sign? output

/-- No sign at a place is lost if only what lies below it is kept. -/
theorem signsAt_within {upper : Place} (suffix : upper <:+ place) :
    (trace.within upper).signsAt place = trace.signsAt place :=
  viewAt_within suffix

/-- Records are no signs. -/
theorem Written.signsAt (written : trace.Written other) : trace.signsAt place = [] :=
  written.viewAt Event.blind_sign?

/-- What is local to one place signs nothing at another. -/
theorem Local.signsAt_of_ne (all : trace.Local place) (different : place ≠ other) :
    trace.signsAt other = [] :=
  all.viewAt_of_ne different

/-- A sign at a place comes from an entry of the trace. -/
theorem exists_of_mem_signsAt {sign : Sign} (member : sign ∈ trace.signsAt place) :
    ∃ entry ∈ trace, entry.place = place ∧ entry.event.sign? = some sign := by
  obtain ⟨event, listed, same⟩ := List.mem_filterMap.1 member
  exact ⟨⟨place, event⟩, (mem_eventsAt event).1 listed, rfl, same⟩

end Trace

/-- A notice signs once, where it belongs. -/
theorem Context.Tells.signsAt {context : Context D} {notice : Notice} {trace : Trace A}
    (tells : context.Tells notice trace) :
    trace.signsAt context.place = (Event.sign? (A := A) (.notice notice)).toList :=
  tells.viewAt Event.blind_sign?

/-- Calls sign nothing. -/
theorem Run.Leads.signsAt {Value : Type} {place other : Place}
    {reply : A.State → Reply A.State Value} {describe : Value → Call A} {before after : Stage A D}
    {trace : Trace A} {value : Value}
    (called : (Run.call place reply describe).Leads before trace value after) :
    trace.signsAt other = [] :=
  (called.viewAt Event.blind_sign?).trans (ite_self [])

/-- To ask a predicate signs nothing at the node that asks. -/
theorem Context.signsAt_of_ask {context : Context D} {info : NodeInfo} {predicate : A.Predicate}
    {before after : Stage A D} {trace : Trace A} {answer : Except Panic Bool}
    (asks : (context.ask info predicate).Leads before trace answer after) :
    trace.signsAt context.place = [] := by
  obtain ⟨outcome, _, _, _, called, ended, rfl⟩ := Run.leads_bind.1 asks
  rw [Trace.signsAt_append, called.signsAt, List.nil_append]
  match outcome with
  | .error panic =>
      obtain ⟨_, rfl, _⟩ := Run.leads_pure.1 ended
      rfl
  | .ok value =>
      obtain ⟨_, notified, _⟩ := Run.leads_bind_pure.1 ended
      rw [(Context.tells_of_notify notified).signsAt]
      rfl

/-- To ask an optional predicate signs nothing at the node that asks. -/
theorem Asks.signsAt {context : Context D} {info : NodeInfo} {predicate : Option A.Predicate}
    {before after : Stage A D} {trace : Trace A} {answer : Except Panic Bool}
    (asks : Asks context info predicate before trace answer after) :
    trace.signsAt context.place = [] := by
  cases asks with
  | spared => rfl
  | asked asks => exact Context.signsAt_of_ask asks

namespace Leaf

variable {place other : Place} {own next : Leaf A} {before after : Stage A D} {trace : Trace A}
  {result : Except Panic Status}

/-- A poll signs nothing. -/
theorem signsAt_of_poll {starter : A.Starter} {operation : A.Operation}
    (polls : (poll place starter operation).Leads before trace ⟨next, result⟩ after) :
    trace.signsAt other = [] := by
  obtain ⟨completed, _, _, _, called, ended, rfl⟩ := Run.leads_bind.1 polls
  rw [Trace.signsAt_append, called.signsAt, List.nil_append]
  cases completed with
  | false =>
      obtain ⟨_, _, rfl, _⟩ := Run.leads_attempt.1 ended
      rfl
  | true =>
      obtain ⟨_, taken, _⟩ := Run.leads_bind_attempt.1 ended
      rw [taken.signsAt]

/-- A leaf signs nothing by itself. -/
theorem signsAt_of_tick {context : Context D} {info : NodeInfo}
    (ticks : (own.tick info context).Leads before trace ⟨next, result⟩ after) :
    trace.signsAt context.place = [] := by
  match own with
  | .condition predicate =>
      obtain ⟨_, asks, _⟩ := Run.leads_bind_attempt.1 ticks
      rw [Context.signsAt_of_ask asks]
  | .action deed =>
      obtain ⟨_, called, _⟩ := Run.leads_bind_attempt.1 ticks
      rw [called.signsAt]
  | .asyncAction starter (some operation) => exact signsAt_of_poll ticks
  | .asyncAction starter none =>
      obtain ⟨started, _, _, _, called, ended, rfl⟩ := Run.leads_bind.1 ticks
      rw [Trace.signsAt_append, called.signsAt, List.nil_append]
      match started with
      | .error panic =>
          obtain ⟨_, _, rfl, _⟩ := Run.leads_attempt.1 ended
          rfl
      | .ok operation => exact signsAt_of_poll ended

/-- To cancel a leaf signs nothing. -/
theorem signsAt_of_cancel (cancels : (own.cancel place).Leads before trace next after) :
    trace.signsAt other = [] := by
  match own with
  | .asyncAction starter (some operation) =>
      obtain ⟨_, called, _⟩ := Run.leads_bind_pure.1 cancels
      rw [called.signsAt]
  | .asyncAction starter none | .condition predicate | .action deed =>
      obtain ⟨_, rfl, _⟩ := Run.leads_pure.1 cancels
      rfl

end Leaf

/-- To cancel what a body waits for signs nothing. -/
theorem Body.signsAt_of_cancel {Child : Type} {body changed : Body A Child} {place other : Place}
    {before after : Stage A D} {trace : Trace A}
    (cancels : (body.cancel place).Leads before trace changed after) :
    trace.signsAt other = [] := by
  cases body with
  | leaf own =>
      obtain ⟨_, released, _⟩ := Run.leads_bind_pure.1 cancels
      rw [Leaf.signsAt_of_cancel released]
  | decorator | choice | composite =>
      obtain ⟨_, rfl, _⟩ := Run.leads_pure.1 cancels
      rfl

/-- What a node does with its children is not seen at its own place. -/
theorem Handles.viewAt {View : Type} {view : Event A → Option View} {context : Context D}
    {nodes final : List (Node A)} {before after : Stage A D} {touches : List (Nat × Touch)}
    {trace : Trace A} (handles : Handles context nodes before touches trace final after)
    (blind : Event.Blind view) : trace.viewAt view context.place = [] := by
  apply Trace.viewAt_eq_nil
  induction handles with
  | done => exact fun _ member => absurd member List.not_mem_nil
  | wrote record _ inductionHypothesis =>
      exact List.forall_mem_cons.2 ⟨fun _ => blind _, inductionHypothesis⟩
  | touched _ undergoes _ inductionHypothesis =>
      refine List.forall_mem_append.2 ⟨fun entry member here => ?_, inductionHypothesis⟩
      have inside := (undergoes.populates.inside entry member).length_le
      rw [here] at inside
      exact absurd inside (by simp [Context.child])

/-- What a node does with its children gives no sign at its own place. -/
theorem Handles.signsAt {context : Context D} {nodes final : List (Node A)}
    {before after : Stage A D} {touches : List (Nat × Touch)} {trace : Trace A}
    (handles : Handles context nodes before touches trace final after) :
    trace.signsAt context.place = [] :=
  handles.viewAt Event.blind_sign?

/-- Whatever a body works at, the signs of its node are up to the node. -/
theorem Body.Works.signsAt {context : Context D} {info : NodeInfo} {body changed : Body A (Node A)}
    {before after : Stage A D} {trace : Trace A} {result : Except Panic Status}
    (works : body.Works context info before trace result changed after) :
    trace.signsAt context.place = [] := by
  cases works with
  | leaf ticks => exact Leaf.signsAt_of_tick ticks
  | refused asks => exact asks.signsAt
  | played asks handles _ => rw [Trace.signsAt_append, asks.signsAt, handles.signsAt, List.nil_append]

namespace Node

variable {context : Context D} {node changed : Node A} {touch : Touch} {before after : Stage A D}
  {trace : Trace A} {status : Status}

/-- A tick that returns is signed by its beginning and its end. -/
theorem signsAt_of_tick
    (ticks : (node.tick context).Leads before trace ⟨changed, .ok status⟩ after) :
    trace.signsAt context.place = [.entered, .left status] := by
  obtain ⟨_, _, _, _, _, rfl, announces, works, leaves, _⟩ := returned_of_tick ticks
  rw [Trace.signsAt_append, Trace.signsAt_append, announces.signsAt, works.signsAt, leaves.signsAt]
  rfl

/-- A clearing is signed if there has been a last status. -/
theorem signsAt_clearing (place : Place) (tag : Tag) :
    (clearing (A := A) place tag).signsAt place = if tag.last.isSome then [.cleared] else [] := by
  unfold clearing
  split <;> simp [Trace.signsAt, Event.sign?]

/-- A reset signs at most one clearing. -/
theorem Resets.signsAt (resets : node.Resets context trace) :
    trace.signsAt context.place = if node.last.isSome then [.cleared] else [] := by
  obtain ⟨cancels, handles⟩ := resets
  rw [Trace.signsAt_append, Trace.signsAt_append, signsAt_clearing, Body.signsAt_of_cancel cancels,
    handles.signsAt, List.append_nil, List.append_nil]
  rfl

/-- The last status of a node is the one that the signs at its place tell. -/
theorem accumulates_status :
    Accumulates D fun (node : Node A) events changed =>
      changed.last = statusAfter node.last (events.filterMap Event.sign?) where
  done _ := rfl
  wrote _ _ := rfl
  trans first second := by rw [List.filterMap_append, statusAfter_append, ← first, second]
  own {context node changed touch before after trace} undergoes := by
    change changed.last = statusAfter node.last (trace.signsAt context.place)
    have resetting {before after : Stage A D} {trace : Trace A}
        (resets : (node.reset context.place).Leads before trace node.cleared after) :
        node.cleared.last = statusAfter node.last (trace.signsAt context.place) := by
      rw [(resets_of_reset resets).signsAt, last_cleared]
      cases node.last <;> rfl
    cases undergoes with
    | reset resets =>
        obtain rfl := cleared_of_reset resets
        exact resetting resets
    | aborted aborts =>
        cases abortsIn_of_abortIn aborts with
        | silent _ resets => exact resetting resets
        | reported _ tells resets =>
            rw [Trace.signsAt_cons_output, Trace.signsAt_append, tells.signsAt]
            exact resetting resets
        | unwound _ tells =>
            rw [Trace.signsAt_cons_output, tells.signsAt]
            rfl
    | ticked ticks =>
        cases ticked_of_tick ticks with
        | refused announces =>
            rw [announces.signsAt]
            rfl
        | unwound announces works =>
            rw [Trace.signsAt_append, announces.signsAt, works.signsAt]
            rfl
        | returned announces works leaves _ =>
            rw [Trace.signsAt_append, Trace.signsAt_append, announces.signsAt, works.signsAt,
              leaves.signsAt]
            rfl

/-- The entries of a cancellation and of what an agent answers to it are no signs. -/
theorem sign?_of_mem_cancel {body rested : Body A (Node A)} {place : Place}
    (cancels : (body.cancel place).Leads before trace rested after) :
    ∀ entry ∈ trace, entry.event.sign? = none := by
  intro entry member
  have none : trace.signsAt entry.place = [] := Body.signsAt_of_cancel cancels
  exact List.filterMap_eq_nil_iff.1 none entry.event ((Trace.mem_eventsAt _).2 member)

/-- A reset gives no sign but clearings, at any place. -/
theorem cleared_of_mem_reset {place : Place} {sign : Sign}
    (undergoes : node.Undergoes context .reset before trace changed after)
    (member : sign ∈ trace.signsAt place) : sign = .cleared := by
  suffices all : ∀ entry ∈ trace, ∀ sign, entry.event.sign? = some sign → sign = .cleared by
    obtain ⟨entry, listed, _, same⟩ := Trace.exists_of_mem_signsAt member
    exact all entry listed sign same
  clear member
  induction node using Node.rebuilding generalizing context before trace changed after with
  | step node inductionHypothesis =>
      cases undergoes with
      | reset resets =>
          obtain ⟨cancels, handles⟩ := resets_of_reset resets
          refine List.forall_mem_append.2 ⟨List.forall_mem_append.2 ⟨?_, ?_⟩, ?_⟩
          · intro entry member sign same
            unfold clearing at member
            split at member
            · rw [List.mem_singleton.1 member] at same
              exact (Option.some.inj same).symm
            · exact absurd member List.not_mem_nil
          · intro entry member sign same
            rw [sign?_of_mem_cancel cancels entry member] at same
            cases same
          · refine entries_of_handles handles rfl (fun _ _ same => nomatch same) ?_
            intro position touch member child present other built _ _ _ _ undergoes
            obtain rfl := eq_reset_of_mem_resetsFrom member
            exact inductionHypothesis child (List.mem_of_getElem? present) other built undergoes

end Node

end Behavior
