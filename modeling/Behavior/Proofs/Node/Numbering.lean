import Behavior.Proofs.Lockstep.Correspondence
import Behavior.Proofs.Node.Path

namespace Behavior

variable {A : Agent}

/-- A visit that gives each child a value with a known image gives the body of these images. -/
theorem Body.visit_image {State Child Other Image : Type}
    {act : Nat → Child → StateM State Other} {view : Other → Image} {change : Child → Image}
    {body : Body A Child}
    (same : ∀ child ∈ body.children, ∀ position state,
      view ((act position child).run state).1 = change child) (state : State) :
    ((body.visit act).run state).1.map view = body.map change := by
  have list (children : List Child)
      (same : ∀ child ∈ children, ∀ position state,
        view ((act position child).run state).1 = change child) (position : Nat) (state : State) :
      ((visitFrom act position children).run state).1.map view = children.map change := by
    induction children generalizing position state with
    | nil => rfl
    | cons child rest inductionHypothesis =>
        have head := same child List.mem_cons_self position state
        have tail := inductionHypothesis
          (fun other member => same other (List.mem_cons_of_mem _ member)) (position + 1)
          ((act position child).run state).2
        exact congrArg₂ List.cons head tail
  cases body with
  | leaf => rfl
  | decorator own child =>
      exact congrArg (Body.decorator own) (same child List.mem_cons_self 0 state)
  | choice own yes no =>
      have first := same yes List.mem_cons_self 0 state
      cases no with
      | none => exact congrArg (Body.choice own · none) first
      | some no =>
          have second := same no (List.mem_cons_of_mem _ List.mem_cons_self) 1
            ((act 0 yes).run state).2
          exact congrArg₂ (fun yes no => Body.choice own yes (some no)) first second
  | composite own children => exact congrArg (Body.composite own) (list children same 0 state)

namespace Node

/-- A node without the numbers of its descendants and its own. -/
def unnumbered : Node A → Node A :=
  fold fun tag body => ⟨{ tag with id := ⟨0⟩ }, body.map Part.value⟩

theorem unnumbered_eq (tag : Tag) (body : Body A (Node A)) :
    unnumbered ⟨tag, body⟩ = ⟨{ tag with id := ⟨0⟩ }, body.map unnumbered⟩ := by
  rw [unnumbered, fold_eq, Body.map_map]
  rfl

theorem descends_unnumbered : Descends (unnumbered (A := A)) := by
  rintro ⟨tag, body⟩
  simp [unnumbered_eq, children]

/-- Numbering changes nothing but the numbers. -/
theorem unnumbered_number (node : Node A) (next : UInt32) :
    (node.number.run next).1.unnumbered = node.unnumbered := by
  induction node using Node.induction generalizing next with
  | step tag body inductionHypothesis =>
      have below :
          ((body.visit fun _ (child : Node A) => child.number).run (next + 1)).1.map unnumbered =
            body.map unnumbered :=
        Body.visit_image (fun child member _ state => inductionHypothesis child member state)
          (next + 1)
      rw [number_eq, unnumbered_eq, ← below]
      exact unnumbered_eq _ _

/-- What a node is beyond its number is the same in a tree that differs in numbers alone. -/
theorem descendant?_of_unnumbered {node other : Node A} (same : other.unnumbered = node.unnumbered)
    (path : Place) :
    (other.descendant? path).map unnumbered = (node.descendant? path).map unnumbered := by
  rw [← descends_unnumbered.descendant?, ← descends_unnumbered.descendant?, same]

theorem last_unnumbered (node : Node A) : node.unnumbered.last = node.last := by
  obtain ⟨tag, body⟩ := node
  rw [unnumbered_eq]
  rfl

/-- The body without numbers has children without numbers. -/
theorem body_unnumbered (node : Node A) : node.unnumbered.body = node.body.map unnumbered := by
  obtain ⟨tag, body⟩ := node
  rw [unnumbered_eq]

/-- Two lists are the same but for their numbers if their nodes are. -/
theorem forall₂_unnumbered {nodes others : List (Node A)} :
    List.Forall₂ (fun node other => node.unnumbered = other.unnumbered) nodes others ↔
      nodes.map unnumbered = others.map unnumbered := by
  rw [← List.forall₂_eq_eq_eq, List.forall₂_map_left_iff, List.forall₂_map_right_iff]

/-- Nodes that are the same but for their numbers have bodies whose children are. -/
theorem corresponds_of_unnumbered {node other : Node A}
    (same : node.unnumbered = other.unnumbered) :
    node.body.Corresponds (fun child other => child.unnumbered = other.unnumbered) other.body := by
  rw [← Body.map_eq_iff, ← body_unnumbered, ← body_unnumbered, same]

/-- The numbers of a tree, in preorder. -/
def numbers (node : Node A) : List Nat := node.preorder.map fun part => part.id.value.toNat

/-- The number of a node comes before those below it. -/
theorem numbers_eq (node : Node A) :
    node.numbers = node.id.value.toNat :: node.children.flatMap numbers := by
  rw [numbers, preorder_eq_cons, List.map_cons, List.map_flatMap]
  rfl

/-- A numbering neither adds nodes nor takes any away. -/
theorem length_preorder_number (node : Node A) (next : UInt32) :
    (node.number.run next).1.preorder.length = node.preorder.length := by
  have same := congrArg (fun node : Node A => node.preorder.length) (node.unnumbered_number next)
  simpa [descends_unnumbered.preorder] using same

end Node

/-- The children of a visited body are what a visit of its children gives. -/
theorem Body.children_visit {M : Type → Type} [Monad M] [LawfulMonad M] {Child Other : Type}
    (act : Nat → Child → M Other) (body : Body A Child) :
    (do pure (← body.visit act).children) = visitFrom act 0 body.children := by
  cases body with
  | leaf | decorator | composite => simp [visit, visitFrom, children]
  | choice _ _ no => cases no <;> simp [visit, visitFrom, children]

namespace Node

/-- A numbering counts some nodes if it gives them the numbers from the next one on, in preorder. -/
def Counted (nodes : List (Node A)) (next : UInt32) (numbered : List (Node A) × UInt32) : Prop :=
  numbered.1.flatMap numbers = List.range' next.toNat (nodes.flatMap preorder).length ∧
    numbered.2.toNat = next.toNat + (nodes.flatMap preorder).length

/-- Nodes are numbered one after the other, as long as the numbers last. -/
theorem counted_visitFrom {nodes : List (Node A)} (position : Nat) (next : UInt32)
    (room : next.toNat + (nodes.flatMap preorder).length < UInt32.size)
    (counted : ∀ node ∈ nodes, ∀ next : UInt32,
      next.toNat + node.preorder.length < UInt32.size →
        (node.number.run next).1.numbers = List.range' next.toNat node.preorder.length ∧
          (node.number.run next).2.toNat = next.toNat + node.preorder.length) :
    Counted nodes next
      ((Body.visitFrom (fun _ (node : Node A) => node.number) position nodes).run next) := by
  induction nodes generalizing position next with
  | nil => exact ⟨rfl, rfl⟩
  | cons node rest inductionHypothesis =>
      rw [List.flatMap_cons, List.length_append] at room
      obtain ⟨numbers, reached⟩ := counted node List.mem_cons_self next (by omega)
      obtain ⟨others, ended⟩ := inductionHypothesis (position + 1) (node.number.run next).2
        (by rw [reached]; omega) fun other member => counted other (List.mem_cons_of_mem _ member)
      rw [reached] at others ended
      refine ⟨?_, ?_⟩
      · have appended := congrArg₂ (· ++ ·) numbers others
        rw [List.range'_append_1, ← List.length_append, ← List.flatMap_cons] at appended
        exact appended
      · rw [List.flatMap_cons, List.length_append, ← Nat.add_assoc]
        exact ended

/-- A numbering gives the numbers from the next one on, in preorder. -/
theorem numbers_number (node : Node A) (next : UInt32)
    (room : next.toNat + node.preorder.length < UInt32.size) :
    (node.number.run next).1.numbers = List.range' next.toNat node.preorder.length ∧
      (node.number.run next).2.toNat = next.toNat + node.preorder.length := by
  induction node using Node.induction generalizing next with
  | step tag body inductionHypothesis =>
      have length : (Node.preorder ⟨tag, body⟩).length =
          (body.children.flatMap preorder).length + 1 := by
        rw [preorder_eq, List.length_cons]
      have following : (next + 1).toNat = next.toNat + 1 := by
        rw [UInt32.toNat_add]
        exact Nat.mod_eq_of_lt (by rw [length] at room; exact Nat.lt_of_le_of_lt (by simp) room)
      have counted := counted_visitFrom 0 (next + 1) (by rw [following]; omega) inductionHypothesis
      rw [← Body.children_visit] at counted
      obtain ⟨below, ended⟩ := counted
      rw [following] at below ended
      rw [length, number_eq]
      refine ⟨?_, ?_⟩
      · have here : List.range' next.toNat ((body.children.flatMap preorder).length + 1) =
            next.toNat :: List.range' (next.toNat + 1) (body.children.flatMap preorder).length :=
          List.range'_succ
        rw [here, ← below]
        exact numbers_eq _
      · rw [Nat.add_comm _ 1, ← Nat.add_assoc]
        exact ended

end Node

end Behavior
