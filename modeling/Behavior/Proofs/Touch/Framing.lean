import Behavior.Proofs.Run.Effects
import Behavior.Proofs.Touch.Entrances

namespace Behavior

variable {A : Agent} {D : Type}

/-- With an only child, a handling calls and tells nothing outside that child. -/
theorem Handles.within_only {context : Context D} {nodes final : List (Node A)}
    {before after : Stage A D} {touches : List (Nat × Touch)} {trace : Trace A}
    (handles : Handles context nodes before touches trace final after) (only : nodes.length = 1) :
    trace.made = (trace.within (0 :: context.place)).made ∧
      trace.told = (trace.within (0 :: context.place)).told := by
  induction handles with
  | done => exact ⟨rfl, rfl⟩
  | wrote record _ inductionHypothesis =>
      rw [Trace.within_below_cons]
      exact inductionHypothesis only
  | @touched nodes _ _ _ _ _ _ _ position _ _ _ present undergoes _ inductionHypothesis =>
      obtain ⟨made, told⟩ := inductionHypothesis (by rwa [List.length_set])
      obtain rfl : position = 0 := by
        have bound := (List.getElem?_eq_some_iff.1 present).1
        omega
      have inside : Trace.Inside (0 :: context.place) _ := undergoes.populates.inside
      rw [Trace.within_append, inside.within_self, Trace.made_append, Trace.made_append,
        Trace.told_append, Trace.told_append, ← made, ← told]
      exact ⟨rfl, rfl⟩

/-- Before a body plays, its predicate is tested and the value is told. -/
theorem Asks.account {context : Context D} {info : NodeInfo} {asked : Option A.Predicate}
    {before after : Stage A D} {trace : Trace A} {answer : Bool}
    (asks : Asks context info asked before trace (.ok answer) after) :
    trace.made = (asked.map fun predicate => Call.tested predicate (.ok answer)).toList ∧
      trace.told = (asked.map fun _ => Notice.evaluated info answer).toList := by
  cases asks with
  | spared => exact ⟨rfl, rfl⟩
  | asked asks =>
      obtain ⟨outcome, _, _, _, called, ended, rfl⟩ := Run.leads_bind.1 asks
      match outcome with
      | .error _ =>
          obtain ⟨contrary, _⟩ := Run.leads_pure.1 ended
          cases contrary
      | .ok value =>
          obtain ⟨reported, notified, same⟩ := Run.leads_bind_pure.1 ended
          have tells := Context.tells_of_notify notified
          cases reported with
          | error => cases same
          | ok =>
              cases same
              rw [Trace.made_append, Trace.told_append, called.made, called.told, tells.made,
                tells.told]
              exact ⟨rfl, rfl⟩

namespace Node

variable {context : Context D} {node child changed : Node A} {own : Decorator A}
  {before after : Stage A D} {trace : Trace A} {status : Status}

/-- A tick of a decorator that returns frames what it does with its child: it calls and tells nothing of
its own but its entry, the test of its predicate with the value, and its return. -/
theorem framed_of_tick (shape : node.body = .decorator own child)
    (ticks : (node.tick context).Leads before trace ⟨changed, .ok status⟩ after) :
    ∃ answer, trace.callsAt context.place =
        (own.predicate?.map fun predicate => Call.tested predicate (.ok answer)).toList ∧
      trace.made = (own.predicate?.map fun predicate => Call.tested predicate (.ok answer)).toList ++
        (trace.within (0 :: context.place)).made ∧
      trace.told = [.entered node.info context.clock] ++
        (own.predicate?.map fun _ => Notice.evaluated node.info answer).toList ++
          (trace.within (0 :: context.place)).told ++ [.left node.info status context.clock] := by
  obtain ⟨_, _, announcing, _, leaving, rfl, announces, works, leaves, _⟩ := returned_of_tick ticks
  rw [shape] at works
  have outer := Context.local_of_tells announces
  have final := Context.local_of_tells leaves
  cases works with
  | @played _ _ _ _ _ earlier later answer touches _ asks handles plays =>
      refine ⟨answer, ?_⟩
      have silent : later.callsAt context.place = [] := handles.viewAt Event.blind_call?
      have part : Trace.within (0 :: context.place) (announcing ++ (earlier ++ later) ++ leaving) =
          later.within (0 :: context.place) := by
        rw [Trace.within_append, Trace.within_append, Trace.within_append, outer.within_below,
          final.within_below, (local_of_asks asks).within_below, List.nil_append,
          List.nil_append, List.append_nil]
      obtain ⟨made, told⟩ := handles.within_only rfl
      obtain ⟨tested, evaluated⟩ := asks.account
      refine ⟨?_, ?_, ?_⟩
      · rw [Trace.callsAt_append, Trace.callsAt_append, Trace.callsAt_append, announces.callsAt,
          leaves.callsAt, asks.callsAt, silent]
        simp [Body.predicate?]
      · rw [part, ← made, Trace.made_append, Trace.made_append, Trace.made_append, tested,
          announces.made, leaves.made]
        simp [Body.predicate?]
      · rw [part, ← told, Trace.told_append, Trace.told_append, Trace.told_append, evaluated,
          announces.told, leaves.told]
        simp [Body.predicate?]

/-- A tick of a decorator tests its predicate before anything else, and what the agent does after that it
does for the child. -/
theorem tested_of_tick {predicate : A.Predicate} {answer : Bool}
    (shape : node.body = .decorator own child) (asks : own.predicate? = some predicate)
    (asked : trace.callsAt context.place = [.tested predicate (.ok answer)])
    (ticks : (node.tick context).Leads before trace ⟨changed, .ok status⟩ after) :
    (A.test predicate before.agent).value = .ok answer ∧
      A.Performs (A.test predicate before.agent).state (trace.within (0 :: context.place)).made
        after.agent ∧
      trace.told = [.entered node.info context.clock, .evaluated node.info answer] ++
        (trace.within (0 :: context.place)).told ++ [.left node.info status context.clock] := by
  obtain ⟨given, same, made, told⟩ := framed_of_tick shape ticks
  rw [asks] at same made told
  obtain rfl : answer = given := by
    have same := asked.symm.trans same
    simpa using same
  have performed := ((node.carried_tick context).of_leads ticks).performed
  rw [made] at performed
  obtain ⟨answered, rest⟩ := performed.of_tested
  exact ⟨answered, rest, told⟩

/-- A node abandons its child if the agent cancels each pending operation below, once and in preorder,
while the sink hears that the node is entered, what its predicate has answered, that the child is aborted
if that has been running, and that the node fails. Nothing else happens on the stage. -/
structure Abandons (node child : Node A) (context : Context D) (answers : List Notice)
    (before after : Stage A D) : Prop where
  agent : after.agent = A.cancelAll child.pending before.agent
  debugger : after.debugger = Sink.hearAll context.sink ([.entered node.info context.clock] ++ answers ++
    (if child.isRunning then [.aborted child.info] else []) ++ [.left node.info .failure context.clock])
      before.debugger

end Node

end Behavior
