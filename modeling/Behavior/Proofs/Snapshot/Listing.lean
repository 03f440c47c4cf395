import Behavior.Proofs.Phrase.Order
import Behavior.Tree.Snapshot

namespace Behavior

variable {A : Agent} {D : Type}

namespace Snapshot

/-- A walk lists what is on its stack, each snapshot before its descendants. -/
theorem Walk.list_eq (walk : Walk) : walk.list = preorderList walk.stack := by
  induction walk using Walk.list.induct with
  | case1 walk ended =>
      obtain ⟨_ | _⟩ := walk
      · rw [Walk.list]
        rfl
      · cases ended
  | case2 walk snapshot later taken inductionHypothesis =>
      rw [Walk.list, preorderList_of_next? taken, ← inductionHypothesis]
      split
      case h_1 ended => rw [taken] at ended; cases ended
      case h_2 again =>
        rw [taken] at again
        cases again
        rfl

/-- An iteration lists what the preorder lists. -/
theorem iterate_eq_preorder (snapshot : Snapshot) : snapshot.iterate = snapshot.preorder := by
  rw [iterate, Walk.list_eq, preorderList, preorderList, List.append_nil]

/-- The preorder of a list goes through one snapshot after the other. -/
theorem preorderList_eq_flatMap (snapshots : List Snapshot) :
    preorderList snapshots = snapshots.flatMap preorder := by
  induction snapshots with
  | nil => rfl
  | cons snapshot rest inductionHypothesis =>
      rw [preorderList, inductionHypothesis, List.flatMap_cons]

/-- The preorder of a captured node lists the nodes of its preorder, captured. -/
theorem preorder_capture (node : Node A) :
    (capture node).preorder = node.preorder.map capture := by
  induction node using Node.induction with
  | step tag body inductionHypothesis =>
      rw [capture_eq, preorder, preorderList_eq_flatMap, List.flatMap_map, Node.preorder_eq,
        List.map_cons, capture_eq, List.map_flatMap]
      exact congrArg (List.cons _) (List.flatMap_congr inductionHypothesis)

end Snapshot

namespace Node

/-- The search finds the first node of the preorder with the number. -/
theorem find?_eq_preorder (node : Node A) (id : NodeId) :
    node.find? id = node.preorder.find? fun part => part.id = id := by
  induction node using Node.induction with
  | step tag body inductionHypothesis =>
      have below : (body.children.findSome? fun child => child.find? id) =
          (body.children.flatMap preorder).find? fun part => part.id = id := by
        generalize body.children = children at inductionHypothesis
        induction children with
        | nil => rfl
        | cons child rest onRest =>
            obtain ⟨first, others⟩ := List.forall_mem_cons.1 inductionHypothesis
            rw [List.findSome?_cons, onRest others, first, List.flatMap_cons, List.find?_append]
            cases child.preorder.find? fun part => part.id = id <;> rfl
      rw [find?_eq, preorder_eq, List.find?_cons, below]
      have here : (⟨tag, body⟩ : Node A).id = tag.id := rfl
      rw [here]
      by_cases same : tag.id = id
      · rw [if_pos same, decide_eq_true same]
      · rw [if_neg same, decide_eq_false same]

/-- The nodes of a numbered tree bear their positions in the preorder as numbers. -/
theorem Numbered.getElem_preorder {node : Node A} (numbered : node.Numbered) {position : Nat}
    (inside : position < node.preorder.length) :
    node.preorder[position].id.value.toNat = position := by
  have listed : node.numbers[position]? = some position := by
    rw [numbered, List.getElem?_range inside]
  rwa [numbers, List.getElem?_map, List.getElem?_eq_getElem inside, Option.map_some,
    Option.some.injEq] at listed

/-- In a numbered tree the search finds just the node that stands at its number in the preorder. -/
theorem Numbered.find?_eq {node : Node A} (numbered : node.Numbered) (id : NodeId) :
    node.find? id = node.preorder[id.value.toNat]? := by
  rw [find?_eq_preorder]
  by_cases inside : id.value.toNat < node.preorder.length
  · rw [List.getElem?_eq_getElem inside, List.find?_eq_some_iff_getElem]
    have found : node.preorder[id.value.toNat].id = id :=
      congrArg NodeId.mk (UInt32.toNat_inj.1 (numbered.getElem_preorder inside))
    refine ⟨decide_eq_true found, id.value.toNat, inside, rfl, fun earlier before => ?_⟩
    have other := numbered.getElem_preorder (Nat.lt_trans before inside)
    have missed : node.preorder[earlier].id ≠ id := by
      intro same
      rw [same] at other
      omega
    simp [missed]
  · rw [List.getElem?_eq_none (by omega), List.find?_eq_none]
    intro part member same
    obtain ⟨position, within, rfl⟩ := List.getElem_of_mem member
    have here := numbered.getElem_preorder within
    rw [of_decide_eq_true same] at here
    omega

end Node

/-- Whatever its root had been through before and whatever has been done to a tree of fewer than 2³²
nodes, its snapshot lists them in the preorder of the tree, with the numbers from zero on. A search for
one of these numbers finds the node that stands there, which the snapshot shows as it is, and a search
for any other number finds nothing. -/
theorem Tree.snapshot_lists_identities {root : Node A} {tree : Tree A D} {past : Trace A}
    {adds : Node A → Prop} {ends : Except Panic (Option Status) → Prop}
    (history : (Host.bare (D := D) root).History adds ends past (.planted tree))
    (few : tree.root.preorder.length < 2 ^ 32) :
    (tree.snapshot.iterate.map fun entry => entry.id.value.toNat) =
        List.range tree.root.preorder.length ∧
      tree.snapshot.iterate = tree.root.preorder.map .capture ∧
      (∀ position < tree.root.preorder.length, ∃ node entry,
        tree.root.preorder[position]? = some node ∧
          tree.snapshot.iterate[position]? = some entry ∧
          tree.find? ⟨.ofNat position⟩ = some node ∧
          entry.kind = node.kind.name ∧ entry.label = node.label ∧ entry.last = node.last ∧
          entry.children.length = node.children.length) ∧
      ∀ id : NodeId, tree.root.preorder.length ≤ id.value.toNat → tree.find? id = none := by
  have numbered : tree.root.Numbered := history.numbered tree rfl few
  have listed : tree.snapshot.iterate = tree.root.preorder.map .capture := by
    rw [snapshot, Snapshot.iterate_eq_preorder, Snapshot.preorder_capture]
  have id_capture (node : Node A) : (Snapshot.capture node).id = node.id := by
    obtain ⟨tag, body⟩ := node
    rw [Snapshot.capture_eq]
    rfl
  refine ⟨?numbers, listed, ?found, ?missing⟩
  case numbers =>
    rw [listed, List.map_map]
    refine Eq.trans (List.map_congr_left fun node _ => ?_) numbered
    exact congrArg (fun id : NodeId => id.value.toNat) (id_capture node)
  case found =>
    intro position inside
    have place : (UInt32.ofNat position).toNat = position :=
      UInt32.toNat_ofNat_of_lt' (Nat.lt_trans inside few)
    have present := List.getElem?_eq_getElem inside
    generalize tree.root.preorder[position] = node at present
    refine ⟨node, .capture node, present, ?_, ?_, ?_⟩
    · rw [listed, List.getElem?_map, present, Option.map_some]
    · rw [find?, numbered.find?_eq, place, present]
    · obtain ⟨tag, body⟩ := node
      rw [Snapshot.capture_eq]
      exact ⟨rfl, rfl, rfl, List.length_map _⟩
  case missing =>
    intro id outside
    rw [find?, numbered.find?_eq, List.getElem?_eq_none outside]

/-- The snapshot of the sample lists its root and the operation below it. -/
theorem Tree.watched_lists_identities :
    (watched.snapshot.iterate.map fun entry => entry.id.value.toNat) = [0, 1] ∧
      watched.find? ⟨1⟩ = watched.root.preorder[1]? ∧ watched.find? ⟨2⟩ = none := by
  obtain ⟨_, history⟩ := history_watched
  obtain ⟨numbers, _, found, missing⟩ := snapshot_lists_identities history (by decide)
  obtain ⟨node, _, present, _, searched, _⟩ := found 1 (by decide)
  exact ⟨numbers, searched.trans present.symm, missing ⟨2⟩ (by decide)⟩

end Behavior
