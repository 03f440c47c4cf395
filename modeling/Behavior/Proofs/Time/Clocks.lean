import Behavior.Proofs.Touch.Evolution

namespace Behavior

variable {A : Agent} {D : Type}

/-- The clock that an event tells of. -/
def Event.clock? : Event A → Option Clock
  | .notice (.entered _ clock) => some clock
  | .notice (.left _ _ clock) => some clock
  | .call (.acted _ clock _) => some clock
  | _ => none

/-- A trace keeps to a clock if its events tell of no other one. -/
def Trace.KeepsTo (clock : Clock) (trace : Trace A) : Prop :=
  ∀ entry ∈ trace, ∀ told ∈ entry.event.clock?, told = clock

variable {clock : Clock} {context : Context D} {place : Place} {before after : Stage A D}
  {trace first second : Trace A} {result : Except Panic Status}

namespace Trace

theorem keepsTo_nil : KeepsTo clock ([] : Trace A) := fun _ member => nomatch member

/-- Traces that keep to a clock keep to it together. -/
theorem KeepsTo.append (left : first.KeepsTo clock) (right : second.KeepsTo clock) :
    (first ++ second).KeepsTo clock :=
  List.forall_mem_append.2 ⟨left, right⟩

/-- An entry in front keeps to the clock if its event does. -/
theorem KeepsTo.cons {event : Event A} (here : ∀ told ∈ event.clock?, told = clock)
    (rest : trace.KeepsTo clock) : KeepsTo clock (⟨place, event⟩ :: trace) :=
  List.forall_mem_cons.2 ⟨here, rest⟩

/-- Outputs tell of no clock. -/
theorem keepsTo_outputs (outputs : List Output) :
    KeepsTo clock (outputs.map fun output => (⟨place, .output output⟩ : Entry A)) := by
  intro entry member
  obtain ⟨_, _, rfl⟩ := List.mem_map.1 member
  exact fun _ told => nomatch told

/-- An action in a trace that keeps to a clock is given that one. -/
theorem KeepsTo.acted (keeps : trace.KeepsTo clock) {action : A.Action} {given : Clock}
    {outcome : Except Panic Status} (called : (place, .acted action given outcome) ∈ trace.calls) :
    given = clock := by
  obtain ⟨⟨_, event⟩, member, same⟩ := List.mem_filterMap.1 called
  cases event with
  | call made =>
      cases same
      exact keeps _ member given rfl
  | notice | output | cleared => cases same

end Trace

/-- A notice keeps to the clock that it tells of. -/
theorem Context.Tells.keepsTo {notice : Notice} (tells : context.Tells notice trace)
    (here : ∀ told ∈ (Event.notice notice : Event A).clock?, told = clock) :
    trace.KeepsTo clock := by
  obtain ⟨outputs, rfl⟩ := tells
  exact (Trace.keepsTo_outputs outputs).cons here

/-- A call keeps to the clock that it is given. -/
theorem Run.Leads.keepsTo {Value : Type} {reply : A.State → Reply A.State Value}
    {describe : Value → Call A} {value : Value}
    (called : (Run.call place reply describe).Leads before trace value after)
    (here : ∀ told ∈ (Event.call (describe value)).clock?, told = clock) :
    trace.KeepsTo clock := by
  obtain ⟨lines, rfl⟩ := called.trace_of_call
  have written : Trace.KeepsTo clock
      ((lines.map Output.line).map fun output => (⟨place, .output output⟩ : Entry A)) :=
    Trace.keepsTo_outputs _
  rw [List.map_map] at written
  exact written.cons here

/-- A predicate is asked without a clock. -/
theorem Context.keepsTo_of_ask {info : NodeInfo} {predicate : A.Predicate}
    {answer : Except Panic Bool} (asks : (context.ask info predicate).Leads before trace answer after) :
    trace.KeepsTo clock := by
  obtain ⟨outcome, _, _, _, called, ended, rfl⟩ := Run.leads_bind.1 asks
  refine (called.keepsTo nofun).append ?_
  match outcome with
  | .error panic =>
      obtain ⟨_, rfl, _⟩ := Run.leads_pure.1 ended
      exact Trace.keepsTo_nil
  | .ok value =>
      obtain ⟨_, notified, _⟩ := Run.leads_bind_pure.1 ended
      exact (Context.tells_of_notify notified).keepsTo nofun

/-- An optional predicate is asked without a clock. -/
theorem Asks.keepsTo {info : NodeInfo} {predicate : Option A.Predicate}
    {answer : Except Panic Bool} (asks : Asks context info predicate before trace answer after) :
    trace.KeepsTo clock := by
  cases asks with
  | spared => exact Trace.keepsTo_nil
  | asked asks => exact Context.keepsTo_of_ask asks

namespace Leaf

variable {own next : Leaf A}

/-- Operations are polled without a clock. -/
theorem keepsTo_of_poll {starter : A.Starter} {operation : A.Operation}
    (polls : (poll place starter operation).Leads before trace ⟨next, result⟩ after) :
    trace.KeepsTo clock := by
  obtain ⟨completed, _, _, _, called, ended, rfl⟩ := Run.leads_bind.1 polls
  refine (called.keepsTo nofun).append ?_
  cases completed with
  | false =>
      obtain ⟨_, _, rfl, _⟩ := Run.leads_attempt.1 ended
      exact Trace.keepsTo_nil
  | true =>
      obtain ⟨_, taken, _⟩ := Run.leads_bind_attempt.1 ended
      exact taken.keepsTo nofun

/-- An action is given the clock of its tick. -/
theorem keepsTo_of_tick {info : NodeInfo}
    (ticks : (own.tick info context).Leads before trace ⟨next, result⟩ after) :
    trace.KeepsTo context.clock := by
  match own with
  | .condition predicate =>
      obtain ⟨_, asks, _⟩ := Run.leads_bind_attempt.1 ticks
      exact Context.keepsTo_of_ask asks
  | .action deed =>
      obtain ⟨_, called, _⟩ := Run.leads_bind_attempt.1 ticks
      exact called.keepsTo fun _ told => (Option.some.inj told).symm
  | .asyncAction starter (some operation) => exact keepsTo_of_poll ticks
  | .asyncAction starter none =>
      obtain ⟨started, _, _, _, called, ended, rfl⟩ := Run.leads_bind.1 ticks
      refine (called.keepsTo nofun).append ?_
      match started with
      | .error panic =>
          obtain ⟨_, _, rfl, _⟩ := Run.leads_attempt.1 ended
          exact Trace.keepsTo_nil
      | .ok operation => exact keepsTo_of_poll ended

/-- Leaves are cancelled without a clock. -/
theorem keepsTo_of_cancel (cancels : (own.cancel place).Leads before trace next after) :
    trace.KeepsTo clock := by
  match own with
  | .asyncAction starter (some operation) =>
      obtain ⟨_, called, _⟩ := Run.leads_bind_pure.1 cancels
      exact called.keepsTo nofun
  | .asyncAction starter none | .condition predicate | .action deed =>
      obtain ⟨_, rfl, _⟩ := Run.leads_pure.1 cancels
      exact Trace.keepsTo_nil

end Leaf

/-- What a body waits for is cancelled without a clock. -/
theorem Body.keepsTo_of_cancel {Child : Type} {body changed : Body A Child}
    (cancels : (body.cancel place).Leads before trace changed after) : trace.KeepsTo clock := by
  cases body with
  | leaf own =>
      obtain ⟨_, released, _⟩ := Run.leads_bind_pure.1 cancels
      exact Leaf.keepsTo_of_cancel released
  | decorator | choice | composite =>
      obtain ⟨_, rfl, _⟩ := Run.leads_pure.1 cancels
      exact Trace.keepsTo_nil

namespace Node

variable {node changed : Node A} {touch : Touch} {touches : List Touch}

theorem keepsTo_clearing (place : Place) (tag : Tag) :
    (clearing (A := A) place tag).KeepsTo clock := by
  unfold clearing
  split
  · exact Trace.keepsTo_nil.cons nofun
  · exact Trace.keepsTo_nil

/-- During a touch, no node is told of another clock than that of the context. -/
theorem Undergoes.keepsTo (undergoes : node.Undergoes context touch before trace changed after) :
    trace.KeepsTo context.clock := by
  induction node using Node.rebuilding generalizing context touch before trace changed after with
  | step node inductionHypothesis =>
      have handled {nodes : List (Node A)} {touches : List (Nat × Touch)} {before after : Stage A D}
          {trace : Trace A}
          (handles : Handles context node.children before touches trace nodes after) :
          trace.KeepsTo context.clock := by
        refine entries_of_handles handles rfl (fun _ => nofun) ?_
        intro position touch _ child present other built _ _ _ _ undergoes
        have below :=
          inductionHypothesis child (List.mem_of_getElem? present) other built undergoes
        exact below
      have resetting {before after : Stage A D} {trace : Trace A} {changed : Node A}
          (resets : (node.reset context.place).Leads before trace changed after) :
          trace.KeepsTo context.clock := by
        obtain ⟨cancels, handles⟩ := resets_of_reset resets
        exact ((keepsTo_clearing _ _).append (Body.keepsTo_of_cancel cancels)).append
          (handled handles)
      have working {changed : Body A (Node A)} {before after : Stage A D} {trace : Trace A}
          {result : Except Panic Status}
          (works : node.body.Works context node.info before trace result changed after) :
          trace.KeepsTo context.clock := by
        generalize own : node.body = body at works
        cases works with
        | leaf ticks => exact Leaf.keepsTo_of_tick ticks
        | refused asks => exact asks.keepsTo
        | played asks handles _ =>
            subst own
            exact asks.keepsTo.append (handled handles)
      cases undergoes with
      | reset resets => exact resetting resets
      | aborted aborts =>
          cases abortsIn_of_abortIn aborts with
          | silent _ resets => exact resetting resets
          | reported _ tells resets =>
              exact ((tells.keepsTo nofun).append (resetting resets)).cons nofun
          | unwound _ tells => exact (tells.keepsTo nofun).cons nofun
      | ticked ticks =>
          have entering {trace : Trace A}
              (tells : context.Tells (.entered node.info context.clock) trace) :
              trace.KeepsTo context.clock :=
            tells.keepsTo fun _ told => (Option.some.inj told).symm
          cases ticked_of_tick ticks with
          | refused announces => exact entering announces
          | unwound announces works => exact (entering announces).append (working works)
          | returned announces works leaves _ =>
              have leaving := leaves.keepsTo fun _ told => (Option.some.inj told).symm
              exact ((entering announces).append (working works)).append leaving

/-- A node that evolves in a context keeps to its clock. -/
theorem Evolves.keepsTo (evolves : node.Evolves context touches trace changed) :
    trace.KeepsTo context.clock := by
  induction evolves with
  | done => exact Trace.keepsTo_nil
  | wrote record _ inductionHypothesis => exact inductionHypothesis.cons nofun
  | touched undergoes _ inductionHypothesis => exact undergoes.keepsTo.append inductionHypothesis

end Node

end Behavior
