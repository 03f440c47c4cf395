import Behavior.Proofs.Touch.Composite

namespace Behavior

variable {A : Agent} {D : Type}

namespace Body

/-- The predicate that a tick of the body asks before anything else. -/
def predicate? {Child : Type} : Body A Child → Option A.Predicate
  | .decorator own _ => own.predicate?
  | .choice own _ _ => some own.predicate
  | _ => none

/-- A play of a body is a play of its own state. What becomes of the children is left open, but
none is added or lost. -/
inductive Plays (clock : Clock) (answer : Bool) :
    Body A (Node A) → List (Nat × Touch) → Except Panic Status → Body A (Node A) → Prop
  | decorator {own next : Decorator A} {child changed : Node A} {touches : List (Nat × Touch)}
      {result : Except Panic Status}
      (plays : own.Plays clock answer child.isRunning touches result next) :
      Plays clock answer (.decorator own child) touches result (.decorator next changed)
  | choice {own next : Choice A} {yes changedYes : Node A} {no changedNo : Option (Node A)}
      {touches : List (Nat × Touch)} {result : Except Panic Status}
      (plays : own.Plays no.isSome answer touches result next)
      (kept : changedNo.isSome = no.isSome) :
      Plays clock answer (.choice own yes no) touches result (.choice next changedYes changedNo)
  | composite {own next : Composite} {nodes changed : List (Node A)}
      {touches : List (Nat × Touch)} {result : Except Panic Status}
      (plays : own.Plays nodes.length touches result next)
      (kept : changed.length = nodes.length) :
      Plays clock answer (.composite own nodes) touches result (.composite next changed)

/-- A body works as a leaf, is refused by its predicate, or plays with its children. -/
inductive Works (context : Context D) (info : NodeInfo) :
    Body A (Node A) → Stage A D → Trace A → Except Panic Status → Body A (Node A) → Stage A D →
      Prop
  | leaf {own next : Leaf A} {before after : Stage A D} {trace : Trace A}
      {result : Except Panic Status}
      (ticks : (own.tick info context).Leads before trace ⟨next, result⟩ after) :
      Works context info (.leaf own) before trace result (.leaf next) after
  | refused {body : Body A (Node A)} {before after : Stage A D} {trace : Trace A} {panic : Panic}
      (asks : Asks context info body.predicate? before trace (.error panic) after) :
      Works context info body before trace (.error panic) body after
  | played {body changed : Body A (Node A)} {before middle after : Stage A D}
      {earlier later : Trace A} {answer : Bool} {touches : List (Nat × Touch)}
      {result : Except Panic Status}
      (asks : Asks context info body.predicate? before earlier (.ok answer) middle)
      (handles : Handles context body.children middle touches later changed.children after)
      (plays : body.Plays context.clock answer touches result changed) :
      Works context info body before (earlier ++ later) result changed after

variable {context : Context D} {info : NodeInfo} {body changed : Body A (Node A)}
  {before after : Stage A D} {trace : Trace A} {result : Except Panic Status}

/-- Every tick of a body works in one of the three ways. -/
theorem works_of_tick
    (ticked : ((body.map (Node.arm (D := D))).tick info context).Leads before trace
      ⟨changed, result⟩ after) :
    body.Works context info before trace result changed after := by
  cases body with
  | leaf own =>
      obtain ⟨⟨_, _⟩, ticks, rfl, rfl⟩ := Run.leads_bind_attempt.1 ticked
      exact .leaf ticks
  | decorator own child =>
      obtain ⟨⟨⟨_, _⟩, _⟩, ticks, rfl, rfl⟩ := Run.leads_bind_attempt.1 ticked
      cases Decorator.ticks_of_tick ticks with
      | refused asks => exact .refused asks
      | played asks handles plays => exact .played asks handles (.decorator plays)
  | choice own yes no =>
      obtain ⟨_, _, _, rfl, ticks⟩ := Choice.ticks_of_tick ticked
      cases ticks with
      | refused asks => exact .refused asks
      | played asks handles kept plays => exact .played asks handles (.choice plays kept)
  | composite own nodes =>
      obtain ⟨⟨⟨_, _⟩, _⟩, ticks, rfl, rfl⟩ := Run.leads_bind_attempt.1 ticked
      obtain ⟨touches, plays, handles⟩ := Composite.plays_of_tick ticks
      exact .played .spared handles (.composite plays handles.length_eq)

end Body

/-- Nothing but the announcement and a pause happens before the body works. -/
theorem Context.tells_of_enter {context : Context D} {info : NodeInfo} {before after : Stage A D}
    {trace : Trace A} {result : Except Panic Unit}
    (entered : (context.enter info).Leads before trace result after) :
    context.Tells (.entered info context.clock) trace := by
  obtain ⟨announced, _, _, _, notified, ended, rfl⟩ := Run.leads_bind.1 entered
  obtain ⟨outputs, rfl⟩ := Context.tells_of_notify notified
  match announced with
  | .error panic =>
      obtain ⟨rfl, rfl, rfl⟩ := Run.leads_pure.1 ended
      exact ⟨outputs, by simp⟩
  | .ok () =>
      obtain ⟨more, rfl⟩ := Context.trace_of_pauseBefore ended
      exact ⟨outputs ++ more, by simp⟩

namespace Node

/-- A tick is refused at its announcement, unwound by its body, or returned with a status. The
sink may still panic when it learns of the status. -/
inductive Ticked (context : Context D) :
    Node A → Trace A → Except Panic Status → Node A → Prop
  | refused {node : Node A} {announcing : Trace A} {panic : Panic}
      (announces : context.Tells (.entered node.info context.clock) announcing) :
      Ticked context node announcing (.error panic) node
  | unwound {node : Node A} {changed : Body A (Node A)} {before after : Stage A D}
      {announcing working : Trace A} {panic : Panic}
      (announces : context.Tells (.entered node.info context.clock) announcing)
      (works : node.body.Works context node.info before working (.error panic) changed after) :
      Ticked context node (announcing ++ working) (.error panic) ⟨node.tag, changed⟩
  | returned {node : Node A} {changed : Body A (Node A)} {before after : Stage A D}
      {announcing working leaving : Trace A} {status : Status} {result : Except Panic Status}
      (announces : context.Tells (.entered node.info context.clock) announcing)
      (works : node.body.Works context node.info before working (.ok status) changed after)
      (leaves : context.Tells (.left node.info status context.clock) leaving)
      (returns : ∀ final, result = .ok final → final = status) :
      Ticked context node (announcing ++ working ++ leaving) result
        ⟨{ node.tag with last := some status }, changed⟩

/-- Every tick of a node is refused, unwound or returned. -/
theorem ticked_of_tick {context : Context D} {node changed : Node A} {before after : Stage A D}
    {trace : Trace A} {result : Except Panic Status}
    (ticks : (node.tick context).Leads before trace ⟨changed, result⟩ after) :
    Ticked context node trace result changed := by
  obtain ⟨tag, body⟩ := node
  rw [tick_eq, tickStep, Body.kind_map, map_node] at ticks
  obtain ⟨announced, _, _, _, entered, worked, rfl⟩ := Run.leads_bind.1 ticks
  have announces := Context.tells_of_enter entered
  match announced with
  | .error panic =>
      obtain ⟨rfl, rfl, rfl, rfl⟩ := Run.leads_attempt.1 worked
      rw [List.append_nil]
      exact .refused announces
  | .ok () =>
      obtain ⟨⟨_, returned⟩, _, _, _, works, ended, rfl⟩ := Run.leads_bind.1 worked
      replace works := Body.works_of_tick works
      match returned with
      | .error panic =>
          obtain ⟨rfl, rfl, rfl, rfl⟩ := Run.leads_attempt.1 ended
          rw [List.append_nil]
          exact .unwound announces works
      | .ok status =>
          obtain ⟨left, notified, rfl, rfl⟩ := Run.leads_bind_attempt.1 ended
          rw [← List.append_assoc]
          refine .returned announces works (Context.tells_of_notify notified) ?_
          rintro final kept
          cases left with
          | error => cases kept
          | ok => exact (Except.ok.inj kept).symm

/-- A tick that returns is announced, lets the body work, and is told of with its status, which the
node remembers. -/
theorem returned_of_tick {context : Context D} {node changed : Node A} {before after : Stage A D}
    {trace : Trace A} {status : Status}
    (ticks : (node.tick context).Leads before trace ⟨changed, .ok status⟩ after) :
    ∃ first final announcing working leaving, trace = announcing ++ working ++ leaving ∧
      context.Tells (.entered node.info context.clock) announcing ∧
      node.body.Works context node.info first working (.ok status) changed.body final ∧
      context.Tells (.left node.info status context.clock) leaving ∧ changed.last = some status := by
  generalize returned : (.ok status : Except Panic Status) = result at ticks
  cases ticked_of_tick ticks with
  | refused | unwound => cases returned
  | returned announces works leaves same =>
      subst returned
      obtain rfl := same status rfl
      exact ⟨_, _, _, _, _, rfl, announces, works, leaves, rfl⟩

/-- A tick that returns a status is remembered by it. -/
theorem last_of_tick {context : Context D} {node changed : Node A} {before after : Stage A D}
    {trace : Trace A} {status : Status}
    (ticks : (node.tick context).Leads before trace ⟨changed, .ok status⟩ after) :
    changed.last = some status := by
  obtain ⟨_, _, _, _, _, _, _, _, _, last⟩ := returned_of_tick ticks
  exact last

end Node

end Behavior
