import Behavior.Proofs.Node.Clearing
import Behavior.Tick.Node

namespace Behavior

variable {A : Agent} {D : Type}

/-- A node together with its tick. -/
def Node.arm (node : Node A) : Arm A D := ⟨node, node.tick⟩

@[simp] theorem map_node_arm (nodes : List (Node A)) :
    (nodes.map (Node.arm (D := D))).map Part.node = nodes := by
  rw [List.map_map]
  exact List.map_id nodes

/-- A touch ticks, aborts or resets a child. -/
inductive Touch where
  | ticked (result : Except Panic Status)
  | aborted (result : Except Panic Unit)
  | reset

/-- A calm touch has not been cut short by a panic. -/
def Touch.Calm : Touch → Prop
  | ticked result => ∃ status, result = .ok status
  | aborted result => result = .ok ()
  | reset => True

/-- The status that the tick of a child has returned. -/
def Touch.returned? : Touch → Option Status
  | ticked (.ok status) => some status
  | _ => none

/-- The touches of one child, without those of the others. -/
def touchesOf (position : Nat) (touches : List (Nat × Touch)) : List Touch :=
  touches.filterMap fun touch => if touch.1 = position then some touch.2 else none

@[simp] theorem touchesOf_nil (position : Nat) : touchesOf position [] = [] := rfl

@[simp] theorem touchesOf_cons_self (position : Nat) (touch : Touch)
    (touches : List (Nat × Touch)) :
    touchesOf position ((position, touch) :: touches) = touch :: touchesOf position touches := by
  simp [touchesOf]

theorem touchesOf_cons_of_ne {position other : Nat} (different : other ≠ position) (touch : Touch)
    (touches : List (Nat × Touch)) :
    touchesOf position ((other, touch) :: touches) = touchesOf position touches := by
  simp [touchesOf, different]

@[simp] theorem touchesOf_append (position : Nat) (first second : List (Nat × Touch)) :
    touchesOf position (first ++ second) = touchesOf position first ++ touchesOf position second :=
  List.filterMap_append

/-- The touches of a child are those at its position. -/
theorem mem_touchesOf {position : Nat} {touch : Touch} {touches : List (Nat × Touch)} :
    touch ∈ touchesOf position touches ↔ (position, touch) ∈ touches := by
  simp only [touchesOf, List.mem_filterMap, Option.ite_none_right_eq_some, Option.some.injEq]
  constructor
  · rintro ⟨_, member, rfl, rfl⟩
    exact member
  · intro member
    exact ⟨_, member, rfl, rfl⟩

/-- A node undergoes a touch when its parent ticks, aborts or resets it. -/
inductive Node.Undergoes (context : Context D) (node : Node A) :
    Touch → Stage A D → Trace A → Node A → Stage A D → Prop
  | ticked {before after : Stage A D} {trace : Trace A} {changed : Node A}
      {result : Except Panic Status}
      (ticks : (node.tick context).Leads before trace ⟨changed, result⟩ after) :
      Undergoes context node (.ticked result) before trace changed after
  | aborted {before after : Stage A D} {trace : Trace A} {changed : Node A}
      {result : Except Panic Unit}
      (aborts : (node.abortIn context).Leads before trace ⟨changed, result⟩ after) :
      Undergoes context node (.aborted result) before trace changed after
  | reset {before after : Stage A D} {trace : Trace A} {changed : Node A}
      (resets : (node.reset context.place).Leads before trace changed after) :
      Undergoes context node .reset before trace changed after

/-- A handling goes through the touches of a list of children. In between the node may write
records of its own. -/
inductive Handles (context : Context D) :
    List (Node A) → Stage A D → List (Nat × Touch) → Trace A → List (Node A) → Stage A D → Prop
  | done {nodes : List (Node A)} {stage : Stage A D} :
      Handles context nodes stage [] [] nodes stage
  | wrote {nodes final : List (Node A)} {before after : Stage A D} {touches : List (Nat × Touch)}
      {trace : Trace A} (record : Record)
      (rest : Handles context nodes before touches trace final after) :
      Handles context nodes before touches
        (⟨context.place, .output (.record record)⟩ :: trace) final after
  | touched {nodes final : List (Node A)} {before middle after : Stage A D}
      {touches : List (Nat × Touch)} {earlier later : Trace A} {position : Nat} {touch : Touch}
      {node changed : Node A} (present : nodes[position]? = some node)
      (undergoes : node.Undergoes (context.child position) touch before earlier changed middle)
      (rest : Handles context (nodes.set position changed) middle touches later final after) :
      Handles context nodes before ((position, touch) :: touches) (earlier ++ later) final after

namespace Handles

variable {context : Context D} {nodes middle final : List (Node A)}
  {before stage after : Stage A D} {touches more : List (Nat × Touch)} {trace rest : Trace A}
  {position : Nat} {node changed : Node A}

/-- Children are handled in steps. -/
theorem trans (first : Handles context nodes before touches trace middle stage)
    (second : Handles context middle stage more rest final after) :
    Handles context nodes before (touches ++ more) (trace ++ rest) final after := by
  induction first with
  | done => exact second
  | wrote record _ inductionHypothesis => exact .wrote record (inductionHypothesis second)
  | touched present undergoes _ inductionHypothesis =>
      rw [List.append_assoc]
      exact .touched present undergoes (inductionHypothesis second)

/-- One touch handles one child. -/
theorem single {touch : Touch} (present : nodes[position]? = some node)
    (undergoes : node.Undergoes (context.child position) touch before trace changed after) :
    Handles context nodes before [(position, touch)] trace (nodes.set position changed) after := by
  simpa using Handles.touched present undergoes .done

/-- A handling may touch just the child between those on its left and the rest. -/
theorem between (left rest : List (Node A)) {touch : Touch} (start : left.length = position)
    (undergoes : node.Undergoes (context.child position) touch before trace changed after) :
    Handles context (left ++ node :: rest) before [(position, touch)] trace (left ++ changed :: rest)
      after := by
  have present : (left ++ node :: rest)[position]? = some node := by simp [← start]
  simpa [← start] using single present undergoes

/-- No child is added or taken away. -/
theorem length_eq (handles : Handles context nodes before touches trace final after) :
    final.length = nodes.length := by
  induction handles with
  | done => rfl
  | wrote _ _ inductionHypothesis => exact inductionHypothesis
  | touched _ _ _ inductionHypothesis => rw [inductionHypothesis, List.length_set]

/-- Only children are touched. -/
theorem lt_of_mem {touch : Touch} (handles : Handles context nodes before touches trace final after)
    (member : (position, touch) ∈ touches) : position < nodes.length := by
  induction handles with
  | done => cases member
  | wrote _ _ inductionHypothesis => exact inductionHypothesis member
  | touched present _ _ inductionHypothesis =>
      rcases List.mem_cons.1 member with same | member
      · cases same
        exact (List.getElem?_eq_some_iff.1 present).1
      · simpa using inductionHypothesis member

end Handles

end Behavior
