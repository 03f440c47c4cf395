import Behavior.Node.Basic
import Behavior.Trace
import Mathlib.Data.List.Basic

namespace Behavior.Node

variable {A : Agent}

/-- A path leads from a node down to a descendant; its last position is taken first. -/
def descendant? (node : Node A) (path : Place) : Option (Node A) :=
  path.foldr (fun position found => found.bind fun parent => parent.children[position]?) (some node)

@[simp] theorem descendant?_nil (node : Node A) : node.descendant? [] = some node := rfl

theorem descendant?_cons (node : Node A) (position : Nat) (path : Place) :
    node.descendant? (position :: path) =
      (node.descendant? path).bind fun parent => parent.children[position]? := rfl

/-- A path that ends in a position first takes that child. -/
theorem descendant?_concat (node : Node A) (path : Place) (position : Nat) :
    node.descendant? (path ++ [position]) =
      (node.children[position]?).bind fun child => child.descendant? path := by
  induction path with
  | nil => simp [descendant?]
  | cons first rest inductionHypothesis =>
      rw [List.cons_append, descendant?_cons, inductionHypothesis, Option.bind_assoc]
      rfl

/-- A path through a node is a path to it and one from it on. -/
theorem descendant?_append (node : Node A) (lower upper : Place) :
    node.descendant? (lower ++ upper) =
      (node.descendant? upper).bind fun middle => middle.descendant? lower := by
  induction lower with
  | nil => simp
  | cons first rest inductionHypothesis =>
      rw [List.cons_append, descendant?_cons, inductionHypothesis, Option.bind_assoc]
      rfl

/-- A property holds everywhere if it holds of a node and of all its descendants. -/
def Everywhere (Property : Node A → Prop) (node : Node A) : Prop :=
  ∀ part ∈ node.preorder, Property part

variable {Property Other : Node A → Prop}

/-- A property holds everywhere if it holds here and everywhere below. -/
theorem everywhere_iff (node : Node A) :
    node.Everywhere Property ↔
      Property node ∧ ∀ child ∈ node.children, child.Everywhere Property := by
  obtain ⟨tag, body⟩ := node
  simp only [Everywhere, preorder_eq, List.mem_cons, List.mem_flatMap, children]
  constructor
  · intro holds
    exact ⟨holds _ (.inl rfl), fun child member part found => holds part (.inr ⟨child, member, found⟩)⟩
  · rintro ⟨here, below⟩ part (rfl | ⟨child, member, found⟩)
    · exact here
    · exact below child member part found

/-- What holds everywhere holds of the node itself. -/
theorem Everywhere.here {node : Node A} (holds : node.Everywhere Property) : Property node :=
  ((everywhere_iff node).1 holds).1

/-- What holds everywhere holds everywhere from each child on. -/
theorem Everywhere.child {node child : Node A} (holds : node.Everywhere Property)
    (member : child ∈ node.children) : child.Everywhere Property :=
  ((everywhere_iff node).1 holds).2 child member

/-- Children with the property and a node with it give a tree with it. -/
theorem everywhere_mk {tag : Tag} {body : Body A (Node A)} (here : Property ⟨tag, body⟩)
    (below : ∀ child ∈ body.children, child.Everywhere Property) :
    Everywhere Property ⟨tag, body⟩ :=
  (everywhere_iff _).2 ⟨here, below⟩

/-- The preorder lists exactly the descendants that paths lead to. -/
theorem mem_preorder_iff (node part : Node A) :
    part ∈ node.preorder ↔ ∃ path, node.descendant? path = some part := by
  induction node using Node.induction generalizing part with
  | step tag body inductionHypothesis =>
      rw [preorder_eq, List.mem_cons, List.mem_flatMap]
      constructor
      · rintro (rfl | ⟨child, member, found⟩)
        · exact ⟨[], rfl⟩
        · obtain ⟨path, leads⟩ := (inductionHypothesis child member part).1 found
          obtain ⟨position, taken⟩ := List.mem_iff_getElem?.1 member
          refine ⟨path ++ [position], ?_⟩
          rw [descendant?_concat, children, taken, Option.bind_some, leads]
      · rintro ⟨path, leads⟩
        rcases List.eq_nil_or_concat path with rfl | ⟨rest, position, rfl⟩
        · exact .inl (Option.some.inj leads).symm
        · rw [List.concat_eq_append, descendant?_concat, Option.bind_eq_some_iff] at leads
          obtain ⟨child, taken, leads⟩ := leads
          have member : child ∈ body.children := List.mem_of_getElem? taken
          exact .inr ⟨child, member, (inductionHypothesis child member part).2 ⟨rest, leads⟩⟩

/-- Each step of a path leads to another node. -/
theorem length_lt_of_descendant? {node part : Node A} {path : Place}
    (leads : node.descendant? path = some part) : path.length < node.preorder.length := by
  induction node using Node.induction generalizing path with
  | step tag body inductionHypothesis =>
      rw [preorder_eq, List.length_cons]
      rcases List.eq_nil_or_concat path with rfl | ⟨rest, position, rfl⟩
      · exact Nat.succ_pos _
      · rw [List.concat_eq_append, descendant?_concat, Option.bind_eq_some_iff] at leads
        obtain ⟨child, taken, leads⟩ := leads
        have member : child ∈ body.children := List.mem_of_getElem? taken
        have shorter := inductionHypothesis child member leads
        obtain ⟨before, after, listed⟩ := List.append_of_mem member
        rw [listed, List.flatMap_append, List.flatMap_cons, List.length_append, List.length_append,
          List.concat_eq_append, List.length_append, List.length_singleton]
        omega

/-- What holds everywhere holds wherever a path leads. -/
theorem Everywhere.descendant {node part : Node A} {path : Place}
    (holds : node.Everywhere Property) (leads : node.descendant? path = some part) :
    Property part :=
  holds part ((mem_preorder_iff node part).2 ⟨path, leads⟩)

/-- The subtree of a descendant has what the whole tree has. -/
theorem Everywhere.below {node part : Node A} {path : Place} (holds : node.Everywhere Property)
    (leads : node.descendant? path = some part) : part.Everywhere Property := by
  intro lower found
  obtain ⟨lowerPath, lowerLeads⟩ := (mem_preorder_iff part lower).1 found
  have below : node.descendant? (lowerPath ++ path) = some lower := by
    rw [descendant?_append, leads, Option.bind_some, lowerLeads]
  exact holds.descendant below

/-- A change of nodes descends if the children of a changed node are its changed children. -/
def Descends (change : Node A → Node A) : Prop :=
  ∀ node : Node A, (change node).children = node.children.map change

variable {change : Node A → Node A}

/-- Changed nodes lie on the same paths. -/
theorem Descends.descendant? (descends : Descends change) (node : Node A) (path : Place) :
    (change node).descendant? path = (node.descendant? path).map change := by
  induction path with
  | nil => rfl
  | cons position rest inductionHypothesis =>
      rw [descendant?_cons, descendant?_cons, inductionHypothesis]
      cases node.descendant? rest with
      | none => rfl
      | some parent => simp [descends parent]

/-- A preorder starts with the node itself. -/
theorem preorder_eq_cons (node : Node A) :
    node.preorder = node :: node.children.flatMap Node.preorder := by
  obtain ⟨tag, body⟩ := node
  exact preorder_eq tag body

/-- Changed nodes have changed preorders. -/
theorem Descends.preorder (descends : Descends change) (node : Node A) :
    (change node).preorder = node.preorder.map change := by
  induction node using Node.induction with
  | step tag body inductionHypothesis =>
      have below : (body.children.map change).flatMap Node.preorder =
          (body.children.flatMap Node.preorder).map change := by
        rw [List.flatMap_map, List.map_flatMap]
        exact List.flatMap_congr inductionHypothesis
      rw [preorder_eq_cons, preorder_eq, descends, List.map_cons, ← below]
      rfl

/-- What holds of all changed nodes holds everywhere in each of them. -/
theorem Descends.everywhere (descends : Descends change)
    (holds : ∀ node : Node A, Property (change node)) (node : Node A) :
    (change node).Everywhere Property := by
  intro part member
  obtain ⟨path, leads⟩ := (mem_preorder_iff _ part).1 member
  rw [descends.descendant?, Option.map_eq_some_iff] at leads
  obtain ⟨original, _, rfl⟩ := leads
  exact holds original

/-- What does not depend on the change holds everywhere with and without it. -/
theorem Descends.everywhere_iff (descends : Descends change)
    (same : ∀ node : Node A, Property (change node) ↔ Property node) (node : Node A) :
    (change node).Everywhere Property ↔ node.Everywhere Property := by
  induction node using Node.induction with
  | step tag body inductionHypothesis =>
      rw [Node.everywhere_iff, Node.everywhere_iff, descends, List.forall_mem_map]
      exact and_congr (same _) (forall₂_congr inductionHypothesis)

end Behavior.Node
