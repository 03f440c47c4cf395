import Behavior.Node.Build
import Behavior.Proofs.Node.Pristine

namespace Behavior.Node

variable {A : Agent}

/-- A built node comes from the constructors alone and has never been ticked. -/
inductive Built : Node A → Prop
  | condition (predicate : A.Predicate) : Built (.condition predicate)
  | action (action : A.Action) : Built (.action action)
  | asyncAction (starter : A.Starter) : Built (.asyncAction starter)
  | selector {nodes : List (Node A)} (below : ∀ node ∈ nodes, Built node) :
      Built (.selector nodes)
  | sequence {nodes : List (Node A)} (below : ∀ node ∈ nodes, Built node) :
      Built (.sequence nodes)
  | parallel {policy : Policy} {nodes : List (Node A)} {node : Node A}
      (accepted : Node.parallel policy nodes = .ok node) (below : ∀ node ∈ nodes, Built node) :
      Built node
  | reactiveSelector {nodes : List (Node A)} (below : ∀ node ∈ nodes, Built node) :
      Built (.reactiveSelector nodes)
  | reactiveSequence {nodes : List (Node A)} (below : ∀ node ∈ nodes, Built node) :
      Built (.reactiveSequence nodes)
  | guard (predicate : A.Predicate) {child : Node A} (below : Built child) :
      Built (.guard predicate child)
  | ifElse (predicate : A.Predicate) (switch : BranchSwitch) {yes : Node A} {no : Option (Node A)}
      (belowYes : Built yes) (belowNo : ∀ node ∈ no, Built node) :
      Built (.ifElse predicate switch yes no)
  | invert {child : Node A} (below : Built child) : Built (.invert child)
  | forceSuccess {child : Node A} (below : Built child) : Built (.forceSuccess child)
  | forceFailure {child : Node A} (below : Built child) : Built (.forceFailure child)
  | repeating (times : Nat) {child : Node A} (below : Built child) : Built (.repeating times child)
  | retrying (times : Nat) {child : Node A} (below : Built child) : Built (.retrying times child)
  | timeout {seconds : Float32} {child node : Node A}
      (accepted : Node.timeout seconds child = .ok node) (below : Built child) : Built node
  | cooldown {seconds : Float32} {child node : Node A}
      (accepted : Node.cooldown seconds child = .ok node) (below : Built child) : Built node
  | whileTrue (predicate : A.Predicate) {child : Node A} (below : Built child) :
      Built (.whileTrue predicate child)
  | reactiveGuard (predicate : A.Predicate) {child : Node A} (below : Built child) :
      Built (.reactiveGuard predicate child)
  | labelled {node : Node A} (label : String) (built : Built node) : Built (node.withLabel label)
  | extended {node child changed : Node A} (built : Built node) (below : Built child)
      (accepted : node.addChild child = .ok changed) : Built changed

/-- An extension puts one child behind the others. -/
theorem addChild_spec {node child changed : Node A} (accepted : node.addChild child = .ok changed) :
    ∃ tag own nodes, node = ⟨tag, .composite own nodes⟩ ∧
      changed = ⟨tag, .composite own (nodes ++ [child])⟩ := by
  obtain ⟨tag, body⟩ := node
  cases body with
  | composite own nodes =>
      cases accepted
      exact ⟨tag, own, nodes, rfl, rfl⟩
  | leaf | decorator | choice => cases accepted

/-- A child of an extended list is an old one or the new one. -/
theorem getElem?_extended {nodes : List (Node A)} {child other : Node A} {position : Nat}
    (present : (nodes ++ [child])[position]? = some other) :
    nodes[position]? = some other ∨ position = nodes.length ∧ other = child := by
  rw [List.getElem?_append] at present
  split at present
  · exact .inl present
  · rw [List.getElem?_singleton] at present
    split at present
    · exact .inr ⟨by omega, (Option.some.inj present).symm⟩
    · cases present

/-- The new child is the only new branch of paths. -/
theorem descendant?_addChild {node child changed : Node A}
    (accepted : node.addChild child = .ok changed) (path : Place) (position : Nat) :
    changed.descendant? (path ++ [position]) =
      if position = node.children.length then child.descendant? path
      else node.descendant? (path ++ [position]) := by
  obtain ⟨tag, own, nodes, rfl, rfl⟩ := addChild_spec accepted
  have listed : (nodes ++ [child])[position]? =
      if position = nodes.length then some child else nodes[position]? := by
    rw [List.getElem?_append]
    grind
  rw [descendant?_concat, descendant?_concat]
  change ((nodes ++ [child])[position]?).bind _ = if position = nodes.length then _ else _
  rw [listed]
  by_cases new : position = nodes.length
  · rw [if_pos new, if_pos new]
    rfl
  · rw [if_neg new, if_neg new]
    rfl

/-- What holds everywhere in a node and in its new child holds everywhere in the extended node, if it
holds of that node itself. -/
theorem everywhere_of_addChild {Property : Node A → Prop} {node child changed : Node A}
    (accepted : node.addChild child = .ok changed) (holds : node.Everywhere Property)
    (below : child.Everywhere Property) (here : Property changed) :
    changed.Everywhere Property := by
  obtain ⟨tag, own, nodes, rfl, rfl⟩ := addChild_spec accepted
  refine everywhere_mk here fun other member => ?_
  rcases List.mem_append.1 member with old | new
  · exact holds.child old
  · rw [List.mem_singleton.1 new]
    exact below

/-- A node of a pristine body with pristine children is pristine. -/
theorem pristine_ofBody {body : Body A (Node A)} (own : body.pristine = body)
    (below : ∀ child ∈ body.children, child.pristine = child) :
    (ofBody body).pristine = ofBody body := by
  have same : body.map pristine = body := by
    apply Body.eq_of_shape
    · simp
    · rw [Body.children_map, List.map_congr_left below, List.map_id']
  rw [ofBody, pristine_eq, same, own]
  rfl

/-- A node that has been built only is pristine. -/
theorem Built.pristine {node : Node A} (built : node.Built) : node.pristine = node := by
  induction built with
  | condition | action | asyncAction =>
      exact pristine_ofBody rfl fun _ member => absurd member List.not_mem_nil
  | selector _ below | sequence _ below | reactiveSelector _ below | reactiveSequence _ below =>
      exact pristine_ofBody rfl below
  | parallel accepted _ below =>
      unfold Node.parallel at accepted
      split at accepted
      · cases accepted
        exact pristine_ofBody rfl below
      · cases accepted
  | guard _ _ below | whileTrue _ _ below | reactiveGuard _ _ below | invert _ below
  | forceSuccess _ below | forceFailure _ below | repeating _ _ below | retrying _ _ below =>
      exact pristine_ofBody rfl (by simpa [Body.children] using below)
  | ifElse _ _ _ _ belowYes belowNo =>
      refine pristine_ofBody rfl ?_
      simp only [Body.children, List.mem_cons, Option.mem_toList]
      rintro child (rfl | member)
      · exact belowYes
      · exact belowNo child member
  | timeout accepted _ below =>
      unfold Node.timeout at accepted
      split at accepted
      · cases accepted
        exact pristine_ofBody rfl (by simpa [Body.children] using below)
      · cases accepted
  | cooldown accepted _ below =>
      unfold Node.cooldown at accepted
      split at accepted
      · cases accepted
        exact pristine_ofBody rfl (by simpa [Body.children] using below)
      · cases accepted
  | @labelled node _ _ same =>
      obtain ⟨⟨id, old, last⟩, body⟩ := node
      rw [pristine_eq, Node.mk.injEq] at same
      obtain rfl : none = last := congrArg Tag.last same.1
      rw [withLabel, pristine_eq, same.2]
      rfl
  | @extended node child changed _ _ accepted same below =>
      obtain ⟨tag, own, nodes, rfl, rfl⟩ := addChild_spec accepted
      rw [pristine_eq, Node.mk.injEq] at same
      simp only [Body.map, Body.pristine, Body.composite.injEq] at same
      rw [pristine_eq, same.1]
      simp [Body.map, Body.pristine, same.2, below]

end Behavior.Node
