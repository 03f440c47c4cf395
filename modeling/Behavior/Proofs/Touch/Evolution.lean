import Behavior.Proofs.Touch.Locality
import Behavior.Proofs.Touch.Order

namespace Behavior

variable {A : Agent} {D : Type}

/-- A node evolves by undergoing touches one after the other. The owner of a root may write
records in between. -/
inductive Node.Evolves (context : Context D) : Node A → List Touch → Trace A → Node A → Prop
  | done {node : Node A} : Evolves context node [] [] node
  | wrote {node final : Node A} {touches : List Touch} {trace : Trace A} (record : Record)
      (rest : Evolves context node touches trace final) :
      Evolves context node touches (⟨context.place, .output (.record record)⟩ :: trace) final
  | touched {node middle final : Node A} {touch : Touch} {touches : List Touch}
      {before after : Stage A D} {earlier later : Trace A}
      (undergoes : node.Undergoes context touch before earlier middle after)
      (rest : Evolves context middle touches later final) :
      Evolves context node (touch :: touches) (earlier ++ later) final

/-- Without a touch there is nothing but what the node writes itself. -/
theorem Handles.nil {context : Context D} {nodes final : List (Node A)}
    {before after : Stage A D} {trace : Trace A}
    (handles : Handles context nodes before [] trace final after) :
    final = nodes ∧ trace.Written context.place := by
  generalize none : ([] : List (Nat × Touch)) = touches at handles
  induction handles with
  | done => exact ⟨rfl, Trace.written_nil⟩
  | wrote record _ inductionHypothesis =>
      obtain ⟨same, written⟩ := inductionHypothesis none
      exact ⟨same, written.cons record⟩
  | touched => cases none

/-- A handling may be taken apart between any two of its touches. -/
theorem Handles.split {context : Context D} {nodes final : List (Node A)}
    {before after : Stage A D} {first second : List (Nat × Touch)} {trace : Trace A}
    (handles : Handles context nodes before (first ++ second) trace final after) :
    ∃ middle stage earlier later, trace = earlier ++ later ∧
      Handles context nodes before first earlier middle stage ∧
        Handles context middle stage second later final after := by
  generalize whole : first ++ second = touches at handles
  induction handles generalizing first with
  | done =>
      obtain ⟨rfl, rfl⟩ := List.append_eq_nil_iff.1 whole
      exact ⟨_, _, [], [], rfl, .done, .done⟩
  | wrote record _ inductionHypothesis =>
      obtain ⟨_, _, _, _, rfl, earlier, later⟩ := inductionHypothesis whole
      exact ⟨_, _, _, _, rfl, .wrote record earlier, later⟩
  | @touched nodes _ _ _ _ _ part rest _ _ _ _ present undergoes following inductionHypothesis =>
      cases first with
      | nil =>
          obtain rfl : second = _ := whole
          exact ⟨_, _, [], _, rfl, .done, .touched present undergoes following⟩
      | cons touch first =>
          obtain ⟨rfl, others⟩ := List.cons.inj whole
          obtain ⟨_, _, _, _, rfl, earlier, later⟩ := inductionHypothesis others
          exact ⟨_, _, _, _, (List.append_assoc _ _ _).symm, .touched present undergoes earlier, later⟩

/-- Nothing happens within a child that is not touched. -/
theorem Handles.within_of_untouched {context : Context D} {nodes final : List (Node A)}
    {before after : Stage A D} {touches : List (Nat × Touch)} {trace : Trace A} {position : Nat}
    (handles : Handles context nodes before touches trace final after)
    (untouched : touchesOf position touches = []) :
    trace.within (position :: context.place) = [] := by
  induction handles with
  | done => rfl
  | wrote record _ inductionHypothesis =>
      rw [Trace.within_below_cons]
      exact inductionHypothesis untouched
  | @touched _ _ _ _ _ _ _ _ other touch _ _ _ undergoes _ inductionHypothesis =>
      by_cases same : other = position
      · subst same
        rw [touchesOf_cons_self] at untouched
        cases untouched
      · rw [touchesOf_cons_of_ne same] at untouched
        have inside : Trace.Inside (other :: context.place) _ := undergoes.populates.inside
        rw [Trace.within_append, inside.within_of_ne same, inductionHypothesis untouched]
        rfl

/-- Each child evolves through the touches that are its own, and leaves its part of the trace. -/
theorem Handles.evolves {context : Context D} {nodes final : List (Node A)}
    {before after : Stage A D} {touches : List (Nat × Touch)} {trace : Trace A} {position : Nat}
    {node : Node A} (handles : Handles context nodes before touches trace final after)
    (present : nodes[position]? = some node) :
    ∃ changed, final[position]? = some changed ∧
      node.Evolves (context.child position) (touchesOf position touches)
        (trace.within (position :: context.place)) changed := by
  induction handles generalizing node with
  | done => exact ⟨node, present, .done⟩
  | wrote record _ inductionHypothesis =>
      obtain ⟨changed, taken, evolves⟩ := inductionHypothesis present
      refine ⟨changed, taken, ?_⟩
      rw [Trace.within_below_cons]
      exact evolves
  | @touched nodes _ _ _ _ _ earlier _ other touch child changed listed undergoes _
      inductionHypothesis =>
      have inside : earlier.Inside (other :: context.place) := undergoes.populates.inside
      by_cases same : other = position
      · subst same
        obtain rfl : child = node := Option.some.inj (listed.symm.trans present)
        have bound := (List.getElem?_eq_some_iff.1 present).1
        obtain ⟨last, taken, evolves⟩ := inductionHypothesis (List.getElem?_set_self bound)
        refine ⟨last, taken, ?_⟩
        rw [touchesOf_cons_self, Trace.within_append, inside.within_self]
        exact .touched undergoes evolves
      · obtain ⟨last, taken, evolves⟩ :=
          inductionHypothesis ((List.getElem?_set_ne same).trans present)
        refine ⟨last, taken, ?_⟩
        rw [touchesOf_cons_of_ne same, Trace.within_append, inside.within_of_ne same]
        exact evolves

namespace Node

variable {context : Context D} {node changed : Node A} {touch : Touch} {touches : List Touch}
  {before after : Stage A D} {trace : Trace A}

/-- An evolution keeps what a node is built of. -/
theorem Evolves.pristine (evolves : node.Evolves context touches trace changed) :
    changed.pristine = node.pristine := by
  induction evolves with
  | done => rfl
  | wrote _ _ inductionHypothesis => exact inductionHypothesis
  | touched undergoes _ inductionHypothesis => rw [inductionHypothesis, undergoes.pristine]

/-- An evolution happens at the places of the descendants. -/
theorem Evolves.populates (evolves : node.Evolves context touches trace changed) :
    node.Populates context.place trace := by
  induction evolves with
  | done => exact populates_of_local Trace.local_nil
  | wrote _ _ inductionHypothesis =>
      exact (populates_of_local Trace.local_nil.cons).append inductionHypothesis
  | touched undergoes _ inductionHypothesis =>
      exact undergoes.populates.append (inductionHypothesis.congr undergoes.pristine.symm)

/-- One touch is an evolution. -/
theorem Evolves.single (undergoes : node.Undergoes context touch before trace changed after) :
    node.Evolves context [touch] trace changed := by
  simpa using Evolves.touched undergoes .done

/-- Without a touch nothing but records is written. -/
theorem Evolves.nil (evolves : node.Evolves context [] trace changed) :
    changed = node ∧ trace.Written context.place := by
  generalize none : ([] : List Touch) = touches at evolves
  induction evolves with
  | done => exact ⟨rfl, Trace.written_nil⟩
  | wrote record _ inductionHypothesis =>
      obtain ⟨same, written⟩ := inductionHypothesis none
      exact ⟨same, written.cons record⟩
  | touched => cases none

/-- An evolution starts with its first touch, apart from what has been written before it. -/
theorem Evolves.uncons (evolves : node.Evolves context (touch :: touches) trace changed) :
    ∃ before middle after writing earlier later, trace = writing ++ earlier ++ later ∧
      writing.Written context.place ∧ node.Undergoes context touch before earlier middle after ∧
        middle.Evolves context touches later changed := by
  generalize some : touch :: touches = more at evolves
  induction evolves with
  | done => cases some
  | wrote record _ inductionHypothesis =>
      obtain ⟨before, middle, after, writing, earlier, later, rfl, written, undergoes, rest⟩ :=
        inductionHypothesis some
      exact ⟨before, middle, after, _ :: writing, earlier, later, rfl, written.cons record,
        undergoes, rest⟩
  | touched undergoes rest =>
      cases some
      exact ⟨_, _, _, [], _, _, rfl, Trace.written_nil, undergoes, rest⟩

/-- Each touch of an evolution happens to what the touches before it have left. -/
theorem Evolves.exists_of_mem (evolves : node.Evolves context touches trace changed)
    (member : touch ∈ touches) :
    ∃ earlier first middle before part next after, node.Evolves context earlier first middle ∧
      middle.Undergoes context touch before part next after ∧ part ⊆ trace := by
  induction evolves with
  | done => cases member
  | wrote record _ inductionHypothesis =>
      obtain ⟨earlier, first, middle, before, part, next, after, evolves, undergoes, inside⟩ :=
        inductionHypothesis member
      exact ⟨earlier, first, middle, before, part, next, after, evolves, undergoes,
        List.subset_cons_of_subset _ inside⟩
  | @touched node _ _ _ _ _ _ _ _ undergoes _ inductionHypothesis =>
      rcases List.mem_cons.1 member with rfl | member
      · exact ⟨[], [], node, _, _, _, _, .done, undergoes, List.subset_append_left _ _⟩
      · obtain ⟨_, _, middle, before, part, next, after, evolves, later, inside⟩ :=
          inductionHypothesis member
        exact ⟨_, _, middle, before, part, next, after, .touched undergoes evolves, later,
          List.subset_append_of_subset_right _ inside⟩

end Node

/-- Each touch of a handling happens to what the touches before it have left of the child. -/
theorem Handles.exists_of_mem {context : Context D} {nodes final : List (Node A)}
    {before after : Stage A D} {touches : List (Nat × Touch)} {trace : Trace A} {position : Nat}
    {touch : Touch} (handles : Handles context nodes before touches trace final after)
    (member : (position, touch) ∈ touches) :
    ∃ child ∈ nodes, ∃ earlier first middle before part next after,
      child.Evolves (context.child position) earlier first middle ∧
        middle.Undergoes (context.child position) touch before part next after ∧ part ⊆ trace := by
  have present := List.getElem?_eq_getElem (handles.lt_of_mem member)
  obtain ⟨_, _, evolves⟩ := handles.evolves present
  obtain ⟨earlier, first, middle, before, part, next, after, evolves, undergoes, inside⟩ :=
    evolves.exists_of_mem (mem_touchesOf.2 member)
  exact ⟨_, List.getElem_mem _, earlier, first, middle, before, part, next, after, evolves,
    undergoes, fun _ listed => (List.mem_filter.1 (inside listed)).1⟩

/-- A body that works leaves each child to its own evolution, and ticks it at most once. If it returns,
no touch of a child has been cut short. -/
theorem Body.Works.evolves {context : Context D} {info : NodeInfo} {body changed : Body A (Node A)}
    {before after : Stage A D} {trace : Trace A} {result : Except Panic Status} {position : Nat}
    {child : Node A} (works : body.Works context info before trace result changed after)
    (present : body.children[position]? = some child) :
    ∃ touches last, changed.children[position]? = some last ∧
      child.Evolves (context.child position) touches (trace.within (position :: context.place))
        last ∧ touches.countP Touch.isTicked ≤ 1 ∧
          ((∃ status, result = .ok status) → ∀ touch ∈ touches, touch.Calm) := by
  cases works with
  | leaf => simp [Body.children] at present
  | refused asks =>
      refine ⟨[], child, present, ?_, Nat.zero_le 1, fun _ => List.forall_mem_nil _⟩
      rw [(local_of_asks asks).within_below]
      exact .done
  | @played _ _ _ _ _ _ _ _ touches _ asks handles plays =>
      obtain ⟨last, taken, evolves⟩ := handles.evolves present
      refine ⟨touchesOf position touches, last, taken, ?_, plays.ascending.countP_le_one position, ?_⟩
      · rw [Trace.within_append, (local_of_asks asks).within_below, List.nil_append]
        exact evolves
      · rintro ⟨status, rfl⟩ touch member
        exact plays.calm _ (mem_touchesOf.1 member)

namespace Node

variable {context : Context D} {node changed : Node A} {touch : Touch} {before after : Stage A D}
  {trace : Trace A} {position : Nat} {child : Node A}

/-- A reset of a node resets each child once. -/
theorem Resets.resets_child (resets : node.Resets context trace)
    (present : node.children[position]? = some child) :
    ∃ last, node.cleared.children[position]? = some last ∧
      child.Evolves (context.child position) [.reset] (trace.within (position :: context.place))
        last := by
  obtain ⟨cancels, handles⟩ := resets
  obtain ⟨last, taken, evolves⟩ := handles.evolves present
  have inside := (List.getElem?_eq_some_iff.1 present).1
  have own := (local_clearing context.place node.tag).append (Body.local_of_cancel cancels)
  rw [touchesOf_resetsFrom (Nat.zero_le position) (by omega)] at evolves
  refine ⟨last, taken, ?_⟩
  rw [Trace.within_append, own.within_below, List.nil_append]
  exact evolves

/-- A reset of a node leaves each child to its own evolution, and ticks none. -/
theorem Resets.evolves (resets : node.Resets context trace)
    (present : node.children[position]? = some child) :
    ∃ touches last, node.cleared.children[position]? = some last ∧
      child.Evolves (context.child position) touches (trace.within (position :: context.place))
        last ∧ touches.countP Touch.isTicked ≤ 0 ∧ ∀ touch ∈ touches, touch.Calm := by
  obtain ⟨last, taken, evolves⟩ := resets.resets_child present
  exact ⟨[.reset], last, taken, evolves, Nat.le_refl 0, List.forall_mem_singleton.2 calm_reset⟩

/-- A calm clearing of a node resets each child once. -/
theorem Undergoes.resets_child (undergoes : node.Undergoes context touch before trace changed after)
    (clears : touch = .reset ∨ touch = .aborted (.ok ()))
    (present : node.children[position]? = some child) :
    ∃ last, changed.children[position]? = some last ∧
      child.Evolves (context.child position) [.reset] (trace.within (position :: context.place))
        last := by
  cases undergoes with
  | ticked => simp at clears
  | reset resets =>
      obtain rfl := cleared_of_reset resets
      exact (resets_of_reset resets).resets_child present
  | aborted aborts =>
      obtain rfl : _ = Except.ok () := by simpa using clears
      cases abortsIn_of_abortIn aborts with
      | silent _ resets => exact (resets_of_reset resets).resets_child present
      | reported _ tells resets =>
          rw [Trace.within_below_cons, Trace.within_append,
            (Context.local_of_tells tells).within_below, List.nil_append]
          exact (resets_of_reset resets).resets_child present

/-- Whatever a node undergoes, each child evolves below it. A tick of the node ticks it at most once,
and no other touch does. A calm touch of the node touches its children calmly. -/
theorem Undergoes.evolves (undergoes : node.Undergoes context touch before trace changed after)
    (present : node.children[position]? = some child) :
    ∃ touches last, changed.children[position]? = some last ∧
      child.Evolves (context.child position) touches (trace.within (position :: context.place))
        last ∧ touches.countP Touch.isTicked ≤ [touch].countP Touch.isTicked ∧
          (touch.Calm → ∀ other ∈ touches, other.Calm) := by
  have unmoved (most : Nat) {own : Trace A} (all : own.Local context.place) :
      ∃ touches last, node.children[position]? = some last ∧
        child.Evolves (context.child position) touches (own.within (position :: context.place))
          last ∧ touches.countP Touch.isTicked ≤ most ∧
            (touch.Calm → ∀ other ∈ touches, other.Calm) := by
    refine ⟨[], child, present, ?_, Nat.zero_le most, fun _ => List.forall_mem_nil _⟩
    rw [all.within_below]
    exact .done
  have renewed {own : Trace A} (resets : node.Resets context own) :
      ∃ touches last, node.cleared.children[position]? = some last ∧
        child.Evolves (context.child position) touches (own.within (position :: context.place))
          last ∧ touches.countP Touch.isTicked ≤ 0 ∧
            (touch.Calm → ∀ other ∈ touches, other.Calm) := by
    obtain ⟨touches, last, taken, evolves, none, calm⟩ := resets.evolves present
    exact ⟨touches, last, taken, evolves, none, fun _ => calm⟩
  cases undergoes with
  | reset resets =>
      obtain rfl := cleared_of_reset resets
      exact renewed (resets_of_reset resets)
  | aborted aborts =>
      cases abortsIn_of_abortIn aborts with
      | silent _ resets => exact renewed (resets_of_reset resets)
      | reported _ tells resets =>
          rw [Trace.within_below_cons, Trace.within_append,
            (Context.local_of_tells tells).within_below, List.nil_append]
          exact renewed (resets_of_reset resets)
      | unwound _ tells => exact unmoved 0 (Context.local_of_tells tells).cons
  | ticked ticks =>
      cases ticked_of_tick ticks with
      | refused announces => exact unmoved 1 (Context.local_of_tells announces)
      | unwound announces works =>
          rw [Trace.within_append, (Context.local_of_tells announces).within_below,
            List.nil_append]
          exact works.evolves present
      | returned announces works leaves _ =>
          rw [Trace.within_append, Trace.within_append,
            (Context.local_of_tells announces).within_below,
            (Context.local_of_tells leaves).within_below, List.nil_append, List.append_nil]
          obtain ⟨touches, last, taken, evolves, once, calm⟩ := works.evolves present
          exact ⟨touches, last, taken, evolves, once, fun _ => calm ⟨_, rfl⟩⟩

end Node

end Behavior
