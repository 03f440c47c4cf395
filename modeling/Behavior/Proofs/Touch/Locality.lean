import Behavior.Proofs.Node.Pristine
import Behavior.Proofs.Trace.Place

namespace Behavior

variable {A : Agent} {D : Type}

/-- What passes from all nodes that are built as the children to the node holds of all nodes. -/
theorem Node.rebuilding {Property : Node A → Prop}
    (step : ∀ node : Node A, (∀ child ∈ node.children, ∀ other : Node A,
      other.pristine = child.pristine → Property other) → Property node)
    (node : Node A) : Property node := by
  suffices holds : ∀ other : Node A, other.pristine = node.pristine → Property other from
    holds node rfl
  induction node using Node.induction with
  | step tag body inductionHypothesis =>
      intro other built
      apply step
      intro child member twin same
      have listed : child.pristine ∈ (Node.pristine ⟨tag, body⟩).children := by
        rw [← built, Node.children_pristine]
        exact List.mem_map_of_mem member
      rw [Node.children_pristine, List.mem_map] at listed
      obtain ⟨original, member, origin⟩ := listed
      exact inductionHypothesis original member twin (same.trans origin.symm)

/-- A notice stands at the place of its node. -/
theorem Context.local_of_tells {context : Context D} {notice : Notice} {trace : Trace A}
    (tells : context.Tells notice trace) : trace.Local context.place := by
  obtain ⟨outputs, rfl⟩ := tells
  exact (Trace.local_outputs outputs).cons

/-- A call stands where it is made. -/
theorem Run.Leads.local_of_call {Value : Type} {place : Place}
    {reply : A.State → Reply A.State Value} {describe : Value → Call A} {before after : Stage A D}
    {trace : Trace A} {value : Value}
    (called : (Run.call place reply describe).Leads before trace value after) :
    trace.Local place := by
  obtain ⟨lines, rfl⟩ := called.trace_of_call
  have outputs : Trace.Local place
      ((lines.map Output.line).map fun output => (⟨place, .output output⟩ : Entry A)) :=
    Trace.local_outputs _
  rw [List.map_map] at outputs
  exact outputs.cons

/-- A predicate is asked at the place of its node. -/
theorem Context.local_of_ask {context : Context D} {info : NodeInfo} {predicate : A.Predicate}
    {before after : Stage A D} {trace : Trace A} {answer : Except Panic Bool}
    (asks : (context.ask info predicate).Leads before trace answer after) :
    trace.Local context.place := by
  obtain ⟨outcome, _, _, _, called, ended, rfl⟩ := Run.leads_bind.1 asks
  refine called.local_of_call.append ?_
  match outcome with
  | .error panic =>
      obtain ⟨_, rfl, _⟩ := Run.leads_pure.1 ended
      exact Trace.local_nil
  | .ok value =>
      obtain ⟨_, notified, _⟩ := Run.leads_bind_pure.1 ended
      exact Context.local_of_tells (Context.tells_of_notify notified)

/-- An optional predicate is asked at the place of its node. -/
theorem local_of_asks {context : Context D} {info : NodeInfo} {predicate : Option A.Predicate}
    {before after : Stage A D} {trace : Trace A} {answer : Except Panic Bool}
    (asks : Asks context info predicate before trace answer after) :
    trace.Local context.place := by
  cases asks with
  | spared => exact Trace.local_nil
  | asked asks => exact Context.local_of_ask asks

namespace Leaf

variable {place : Place} {own next : Leaf A} {before after : Stage A D} {trace : Trace A}

/-- A leaf is cancelled at its place. -/
theorem local_of_cancel (cancels : (own.cancel place).Leads before trace next after) :
    trace.Local place := by
  match own with
  | .asyncAction starter (some operation) =>
      obtain ⟨_, called, _⟩ := Run.leads_bind_pure.1 cancels
      exact called.local_of_call
  | .asyncAction starter none | .condition predicate | .action deed =>
      obtain ⟨_, rfl, _⟩ := Run.leads_pure.1 cancels
      exact Trace.local_nil

/-- An operation is polled at its place. -/
theorem local_of_poll {starter : A.Starter} {operation : A.Operation}
    {result : Except Panic Status}
    (polls : (poll place starter operation).Leads before trace ⟨next, result⟩ after) :
    trace.Local place := by
  obtain ⟨completed, _, _, _, called, ended, rfl⟩ := Run.leads_bind.1 polls
  refine called.local_of_call.append ?_
  cases completed with
  | false =>
      obtain ⟨_, _, rfl, _⟩ := Run.leads_attempt.1 ended
      exact Trace.local_nil
  | true =>
      obtain ⟨_, taken, _⟩ := Run.leads_bind_attempt.1 ended
      exact taken.local_of_call

/-- A leaf is ticked at its place. -/
theorem local_of_tick {context : Context D} {info : NodeInfo} {result : Except Panic Status}
    (ticks : (own.tick info context).Leads before trace ⟨next, result⟩ after) :
    trace.Local context.place := by
  match own with
  | .condition predicate =>
      obtain ⟨_, asks, _⟩ := Run.leads_bind_attempt.1 ticks
      exact Context.local_of_ask asks
  | .action deed =>
      obtain ⟨_, called, _⟩ := Run.leads_bind_attempt.1 ticks
      exact called.local_of_call
  | .asyncAction starter (some operation) => exact local_of_poll ticks
  | .asyncAction starter none =>
      obtain ⟨started, _, _, _, called, ended, rfl⟩ := Run.leads_bind.1 ticks
      refine called.local_of_call.append ?_
      match started with
      | .error panic =>
          obtain ⟨_, _, rfl, _⟩ := Run.leads_attempt.1 ended
          exact Trace.local_nil
      | .ok operation => exact local_of_poll ended

end Leaf

/-- A body cancels at its own place. -/
theorem Body.local_of_cancel {Child : Type} {body changed : Body A Child} {place : Place}
    {before after : Stage A D} {trace : Trace A}
    (cancels : (body.cancel place).Leads before trace changed after) : trace.Local place := by
  cases body with
  | leaf own =>
      obtain ⟨_, released, _⟩ := Run.leads_bind_pure.1 cancels
      exact Leaf.local_of_cancel released
  | decorator | choice | composite =>
      obtain ⟨_, rfl, _⟩ := Run.leads_pure.1 cancels
      exact Trace.local_nil

/-- The reset of one child in a visit of all of them. -/
def Context.renew (context : Context D) (position : Nat) (child : Node A) : Run A D (Node A) :=
  child.reset (position :: context.place)

/-- The touches of a visit that resets every child, from a position on. -/
def resetsFrom (position count : Nat) : List (Nat × Touch) :=
  (List.range' position count).map fun place => (place, .reset)

/-- A visit that resets does nothing else. -/
theorem eq_reset_of_mem_resetsFrom {start count position : Nat} {touch : Touch}
    (member : (position, touch) ∈ resetsFrom start count) : touch = .reset := by
  obtain ⟨_, _, same⟩ := List.mem_map.1 member
  exact (Prod.mk.inj same).2.symm

/-- A visit resets each child once. -/
theorem touchesOf_resetsFrom {start count position : Nat} (reached : start ≤ position)
    (inside : position < start + count) : touchesOf position (resetsFrom start count) = [.reset] := by
  have passed (count first : Nat) (below : position < first) :
      touchesOf position (resetsFrom first count) = [] := by
    apply List.filterMap_eq_nil_iff.2
    intro touch member
    obtain ⟨other, listed, rfl⟩ := List.mem_map.1 member
    have later := (List.mem_range'_1.1 listed).1
    exact if_neg (by omega)
  induction count generalizing start with
  | zero => omega
  | succ count inductionHypothesis =>
      have unfolded : resetsFrom start (count + 1) = (start, .reset) :: resetsFrom (start + 1) count := by
        simp [resetsFrom, List.range'_succ]
      rw [unfolded]
      rcases Nat.eq_or_lt_of_le reached with rfl | later
      · rw [touchesOf_cons_self, passed count (start + 1) (Nat.lt_succ_self start)]
      · rw [touchesOf_cons_of_ne (by omega), inductionHypothesis later (by omega)]

/-- A visit that resets handles every child once. -/
theorem Body.handles_of_visitFrom {context : Context D} (left : List (Node A))
    {nodes changed : List (Node A)} {position : Nat} {before after : Stage A D} {trace : Trace A}
    (start : left.length = position)
    (visits : (visitFrom context.renew position nodes).Leads before trace changed after) :
    Handles context (left ++ nodes) before (resetsFrom position nodes.length) trace
      (left ++ changed) after := by
  induction nodes generalizing left position before trace changed with
  | nil =>
      obtain ⟨rfl, rfl, rfl⟩ := Run.leads_pure.1 visits
      exact .done
  | cons node rest inductionHypothesis =>
      obtain ⟨renewed, _, _, _, resets, followed, rfl⟩ := Run.leads_bind.1 visits
      obtain ⟨others, visited, rfl⟩ := Run.leads_bind_pure.1 followed
      have longer : (left ++ [renewed]).length = position + 1 := by simp [start]
      have handles := inductionHypothesis _ longer visited
      rw [← List.append_cons, ← List.append_cons] at handles
      exact (Handles.between left rest start (.reset resets)).trans handles

/-- A visit that resets the children handles them in order. -/
theorem Body.handles_of_visit {context : Context D} {body changed : Body A (Node A)}
    {before after : Stage A D} {trace : Trace A}
    (visits : (body.visit context.renew).Leads before trace changed after) :
    Handles context body.children before (resetsFrom 0 body.children.length) trace
      changed.children after := by
  cases body with
  | leaf own =>
      obtain ⟨rfl, rfl, rfl⟩ := Run.leads_pure.1 visits
      exact .done
  | decorator own child =>
      obtain ⟨renewed, resets, rfl⟩ := Run.leads_bind_pure.1 visits
      exact .between [] [] rfl (.reset resets)
  | choice own yes no =>
      cases no with
      | none =>
          obtain ⟨renewed, resets, rfl⟩ := Run.leads_bind_pure.1 visits
          exact .between [] [] rfl (.reset resets)
      | some no =>
          obtain ⟨changedYes, _, _, _, resets, followed, rfl⟩ := Run.leads_bind.1 visits
          obtain ⟨changedNo, resetsNo, rfl⟩ := Run.leads_bind_pure.1 followed
          exact (Handles.between [] [no] rfl (.reset resets)).trans
            (.between [changedYes] [] rfl (.reset resetsNo))
  | composite own nodes =>
      obtain ⟨others, visited, rfl⟩ := Run.leads_bind_pure.1 visits
      exact handles_of_visitFrom [] rfl visited

namespace Node

/-- The trace of a clearing tells whether there was a status. -/
def clearing (place : Place) (tag : Tag) : Trace A :=
  if tag.last.isSome then [⟨place, .cleared⟩] else []

/-- A clearing stands at its place. -/
theorem local_clearing (place : Place) (tag : Tag) : (clearing (A := A) place tag).Local place := by
  unfold clearing
  split
  · exact Trace.local_nil.cons
  · exact Trace.local_nil

/-- To clear a tag leaves the trace of a clearing. -/
theorem trace_of_clear (tag : Tag) (place : Place) (stage : Stage A D) :
    (tag.clear place stage).trace = clearing place tag := by
  unfold Tag.clear clearing
  split <;> rfl

/-- A reset clears the tag, cancels what is pending, and resets the children in order. -/
inductive Resets (context : Context D) (node : Node A) : Trace A → Prop
  | reset {before middle after : Stage A D} {cancelling handling : Trace A}
      {rested : Body A (Node A)}
      (cancels : (node.body.cancel context.place).Leads before cancelling rested middle)
      (handles : Handles context node.children middle (resetsFrom 0 node.children.length) handling
        node.cleared.children after) :
      Resets context node (clearing context.place node.tag ++ cancelling ++ handling)

variable {context : Context D} {node changed : Node A} {before after : Stage A D} {trace : Trace A}

/-- A reset clears a node. -/
theorem cleared_of_reset {place : Place}
    (resets : (node.reset place).Leads before trace changed after) :
    changed = node.cleared :=
  (congrArg Outcome.value resets).symm.trans (node.reset_value place before)

/-- A reset goes as `Resets` says. -/
theorem resets_of_reset (resets : (node.reset context.place).Leads before trace changed after) :
    node.Resets context trace := by
  obtain rfl := cleared_of_reset resets
  obtain ⟨tag, body⟩ := node
  rw [reset_eq] at resets
  obtain ⟨_, _, _, _, clears, cancelled, rfl⟩ := Run.leads_bind.1 resets
  obtain ⟨rested, _, _, _, cancels, visited, rfl⟩ := Run.leads_bind.1 cancelled
  obtain ⟨final, visits, same⟩ := Run.leads_bind_pure.1 visited
  have kept : rested.forget.children = body.children := by
    have value : rested.forget = body.rested := by
      rw [← Body.forget_cancel_value body context.place, cancels]
    rw [value, Body.children_rested]
  have handles := Body.handles_of_visit visits
  rw [kept] at handles
  have traced := trace_of_clear tag context.place before
  rw [clears] at traced
  have resets : Resets context ⟨tag, body⟩ _ := .reset cancels (by rw [same]; exact handles)
  rw [← traced] at resets
  simpa using resets

/-- An abort clears a node, unless a panic comes first. -/
theorem cleared_or_same_of_abortIn {result : Except Panic Unit}
    (aborts : (node.abortIn context).Leads before trace ⟨changed, result⟩ after) :
    changed = node.cleared ∨ changed = node := by
  cases abortsIn_of_abortIn aborts with
  | silent | reported => exact .inl rfl
  | unwound => exact .inr rfl

end Node

/-- A list of nodes stays built of the same if one of them is changed into a node that is. -/
theorem map_pristine_set {nodes : List (Node A)} {node changed : Node A} {position : Nat}
    (present : nodes[position]? = some node) (built : changed.pristine = node.pristine) :
    (nodes.set position changed).map Node.pristine = nodes.map Node.pristine := by
  obtain ⟨inside, rfl⟩ := List.getElem?_eq_some_iff.1 present
  have bound : position < (nodes.map Node.pristine).length := by simpa using inside
  have listed : nodes[position].pristine = (nodes.map Node.pristine)[position] := by simp
  rw [List.map_set, built, listed, List.set_getElem_self bound]

/-- Handling keeps what the children are built of if every touch does. -/
theorem Handles.pristine {context : Context D} {nodes final : List (Node A)}
    {before after : Stage A D} {touches : List (Nat × Touch)} {trace : Trace A}
    (handles : Handles context nodes before touches trace final after)
    (keeps : ∀ child ∈ nodes, ∀ other : Node A, other.pristine = child.pristine →
      ∀ {context : Context D} {touch before trace changed after},
        other.Undergoes context touch before trace changed after →
          changed.pristine = other.pristine) :
    final.map Node.pristine = nodes.map Node.pristine := by
  induction handles with
  | done => rfl
  | wrote _ _ inductionHypothesis => exact inductionHypothesis keeps
  | @touched nodes _ _ _ _ _ _ _ position _ node changed present undergoes _ inductionHypothesis =>
      have same := keeps node (List.mem_of_getElem? present) node rfl undergoes
      have list := map_pristine_set present same
      rw [← list]
      apply inductionHypothesis
      intro child member
      have listed := List.mem_map_of_mem (f := Node.pristine) member
      rw [list, List.mem_map] at listed
      obtain ⟨original, member, origin⟩ := listed
      rw [← origin]
      exact keeps original member

namespace Node

variable {context : Context D} {node changed : Node A} {touch : Touch} {before after : Stage A D}
  {trace : Trace A}

/-- No touch changes what a node is built of. -/
theorem Undergoes.pristine (undergoes : node.Undergoes context touch before trace changed after) :
    changed.pristine = node.pristine := by
  induction node using Node.rebuilding generalizing context touch before trace changed after with
  | step node inductionHypothesis =>
      cases undergoes with
      | reset resets => rw [cleared_of_reset resets, pristine_cleared]
      | aborted aborts =>
          obtain rfl | rfl := cleared_or_same_of_abortIn aborts
          · exact pristine_cleared node
          · rfl
      | ticked ticks =>
          have below {changed : Body A (Node A)} {before after : Stage A D} {trace : Trace A}
              {result : Except Panic Status}
              (works : node.body.Works context node.info before trace result changed after) :
              changed.children.map Node.pristine = node.children.map Node.pristine := by
            rw [children]
            generalize own : node.body = body at works
            cases works with
            | leaf | refused => rfl
            | played _ handles _ =>
                subst own
                exact handles.pristine fun child member other built _ _ _ _ _ _ =>
                  inductionHypothesis child member other built
          cases ticked_of_tick ticks with
          | refused => rfl
          | unwound _ works | returned _ works _ _ =>
              exact pristine_congr rfl works.shape (below works)

section Shapes

variable {nodes : List (Node A)} {child yes : Node A} {no : Option (Node A)}

/-- What is a decorator after a touch has been one before, and of the same parameters. -/
theorem Undergoes.decorator {own : Decorator A}
    (undergoes : node.Undergoes context touch before trace changed after)
    (shape : changed.body = .decorator own child) :
    ∃ former twin, node.body = .decorator former twin ∧ own.pristine = former.pristine := by
  have shapes := shape_of_pristine undergoes.pristine
  rw [shape] at shapes
  generalize node.body = body at shapes ⊢
  cases body with
  | leaf | choice | composite => cases shapes
  | decorator former twin => exact ⟨former, twin, rfl, (Body.decorator.inj shapes).1⟩

/-- What is a choice after a touch has been one before. -/
theorem Undergoes.choice {own : Choice A}
    (undergoes : node.Undergoes context touch before trace changed after)
    (shape : changed.body = .choice own yes no) :
    ∃ former formerYes formerNo, node.body = .choice former formerYes formerNo := by
  have shapes := shape_of_pristine undergoes.pristine
  rw [shape] at shapes
  generalize node.body = body at shapes ⊢
  cases body with
  | leaf | decorator | composite => cases shapes
  | choice => exact ⟨_, _, _, rfl⟩

/-- What is a composite after a touch has been one before, and forgets to the same. -/
theorem Undergoes.composite {own : Composite}
    (undergoes : node.Undergoes context touch before trace changed after)
    (shape : changed.body = .composite own nodes) :
    ∃ former twins, node.body = .composite former twins ∧ own.forget = former.forget := by
  have shapes := shape_of_pristine undergoes.pristine
  rw [shape] at shapes
  generalize node.body = body at shapes ⊢
  cases body with
  | leaf | decorator | choice => cases shapes
  | composite former twins => exact ⟨former, twins, rfl, (Body.composite.inj shapes).1⟩

end Shapes

/-- The entries of a trace populate a node if they stand at the places of its descendants. -/
def Populates (node : Node A) (place : Place) (trace : Trace A) : Prop :=
  ∀ entry ∈ trace, ∃ path, (node.descendant? path).isSome ∧ entry.place = path ++ place

/-- What stands at the place of a node populates it. -/
theorem populates_of_local {place : Place} (all : trace.Local place) :
    node.Populates place trace :=
  fun entry member => ⟨[], rfl, all entry member⟩

/-- Traces that populate a node populate it together. -/
theorem Populates.append {place : Place} {first second : Trace A}
    (left : node.Populates place first) (right : node.Populates place second) :
    node.Populates place (first ++ second) := by
  intro entry member
  exact (List.mem_append.1 member).elim (left entry) (right entry)

/-- What populates a node stands at its place or below. -/
theorem Populates.inside {place : Place} (populates : node.Populates place trace) :
    trace.Inside place := by
  intro entry member
  obtain ⟨path, _, stands⟩ := populates entry member
  exact ⟨path, stands.symm⟩

/-- Nodes that are built of the same are populated alike. -/
theorem Populates.congr {other : Node A} {place : Place} (built : other.pristine = node.pristine)
    (populates : node.Populates place trace) : other.Populates place trace := by
  intro entry member
  obtain ⟨path, leads, stands⟩ := populates entry member
  obtain ⟨_, leads⟩ := Option.isSome_iff_exists.1 leads
  obtain ⟨_, twin, _⟩ := descendant?_of_pristine built leads
  exact ⟨path, Option.isSome_iff_exists.2 ⟨_, twin⟩, stands⟩

/-- What populates a child populates its parent. -/
theorem Populates.child {child : Node A} {position : Nat} {place : Place}
    (present : node.children[position]? = some child)
    (populates : child.Populates (position :: place) trace) : node.Populates place trace := by
  intro entry member
  obtain ⟨path, leads, stands⟩ := populates entry member
  refine ⟨path ++ [position], ?_, by simp [stands]⟩
  rwa [descendant?_concat, present]

/-- Every entry of a handling is a record of the parent or belongs to the touch of a child. -/
theorem entries_of_handles {Property : Entry A → Prop} {parent : Node A} {nodes final : List (Node A)}
    {touches : List (Nat × Touch)}
    (handles : Handles context nodes before touches trace final after)
    (built : nodes.map pristine = parent.children.map pristine)
    (records : ∀ record, Property ⟨context.place, .output (.record record)⟩)
    (touched : ∀ position touch, (position, touch) ∈ touches →
      ∀ child : Node A, parent.children[position]? = some child →
        ∀ other : Node A, other.pristine = child.pristine → ∀ {before trace changed after},
          other.Undergoes (context.child position) touch before trace changed after →
            ∀ entry ∈ trace, Property entry) :
    ∀ entry ∈ trace, Property entry := by
  induction handles with
  | done => exact fun _ member => absurd member List.not_mem_nil
  | wrote record _ inductionHypothesis =>
      exact List.forall_mem_cons.2 ⟨records record, inductionHypothesis built touched⟩
  | @touched nodes _ _ _ _ _ _ _ position touch node changed present undergoes _
      inductionHypothesis =>
      have origin : (parent.children.map pristine)[position]? = some node.pristine := by
        rw [← built, List.getElem?_map, present, Option.map_some]
      rw [List.getElem?_map, Option.map_eq_some_iff] at origin
      obtain ⟨child, taken, same⟩ := origin
      have first := touched position touch List.mem_cons_self child taken node same.symm undergoes
      refine List.forall_mem_append.2 ⟨first, inductionHypothesis ?_ ?_⟩
      · rw [map_pristine_set present undergoes.pristine, built]
      · exact fun position touch member => touched position touch (List.mem_cons_of_mem _ member)

/-- Whatever a node undergoes happens at the places of its descendants. -/
theorem Undergoes.populates (undergoes : node.Undergoes context touch before trace changed after) :
    node.Populates context.place trace := by
  induction node using Node.rebuilding generalizing context touch before trace changed after with
  | step node inductionHypothesis =>
      have handled {nodes : List (Node A)} {touches : List (Nat × Touch)} {before after : Stage A D}
          {trace : Trace A}
          (handles : Handles context node.children before touches trace nodes after) :
          node.Populates context.place trace := by
        refine entries_of_handles handles rfl (fun _ => ⟨[], rfl, rfl⟩) ?_
        intro position touch _ child present other built _ _ _ _ undergoes
        have populates :=
          inductionHypothesis child (List.mem_of_getElem? present) other built undergoes
        exact Populates.child present (populates.congr built.symm)
      have resetting {before after : Stage A D} {trace : Trace A} {changed : Node A}
          (resets : (node.reset context.place).Leads before trace changed after) :
          node.Populates context.place trace := by
        obtain ⟨cancels, handles⟩ := resets_of_reset resets
        exact (populates_of_local ((local_clearing _ _).append (Body.local_of_cancel cancels))).append
          (handled handles)
      have working {changed : Body A (Node A)} {before after : Stage A D} {trace : Trace A}
          {result : Except Panic Status}
          (works : node.body.Works context node.info before trace result changed after) :
          node.Populates context.place trace := by
        generalize own : node.body = body at works
        cases works with
        | leaf ticks => exact populates_of_local (Leaf.local_of_tick ticks)
        | refused asks => exact populates_of_local (local_of_asks asks)
        | played asks handles _ =>
            subst own
            exact (populates_of_local (local_of_asks asks)).append (handled handles)
      have telling {notice : Notice} {trace : Trace A} (tells : context.Tells notice trace) :
          node.Populates context.place trace :=
        populates_of_local (Context.local_of_tells tells)
      cases undergoes with
      | reset resets => exact resetting resets
      | aborted aborts =>
          cases abortsIn_of_abortIn aborts with
          | silent _ resets => exact resetting resets
          | reported _ tells resets =>
              exact (populates_of_local Trace.local_nil.cons).append
                ((telling tells).append (resetting resets))
          | unwound _ tells => exact (populates_of_local Trace.local_nil.cons).append (telling tells)
      | ticked ticks =>
          cases ticked_of_tick ticks with
          | refused announces => exact telling announces
          | unwound announces works => exact (telling announces).append (working works)
          | returned announces works leaves _ =>
              exact ((telling announces).append (working works)).append (telling leaves)

end Node

end Behavior
