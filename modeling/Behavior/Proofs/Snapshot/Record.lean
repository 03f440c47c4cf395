import Behavior.Proofs.Format
import Behavior.Tree.SnapshotDocument

namespace Behavior

namespace Snapshot

open Datum

theorem toData_eq_map (snapshots : List Snapshot) : toData snapshots = snapshots.map toDatum := by
  induction snapshots with
  | nil => rfl
  | cons snapshot rest inductionHypothesis => rw [toData, inductionHypothesis, List.map_cons]

/-- The entries of the record of a snapshot. -/
def entries : Snapshot → List (String × Datum)
  | ⟨id, kind, label, last, children⟩ =>
      [("id", id.toDatum), ("kind", .string kind)] ++
        (label.map fun label => ("label", Datum.string label)).toList ++
        [("last_status", (last.map Status.toDatum).getD .null)] ++
        if children.isEmpty then [] else [("children", .sequence (children.map toDatum))]

/-- A snapshot is written as one record. -/
theorem toDatum_eq (snapshot : Snapshot) : snapshot.toDatum = .mapping snapshot.entries := by
  cases snapshot
  rw [toDatum, toData_eq_map, entries]

/-- The names of all fields that the record of a snapshot may have. -/
def names : List String := ["id", "kind", "label", "last_status", "children"]

/-- The last status is written even if there is none. -/
theorem isField_last (last : Option Status) :
    IsField names ((last.map Status.toDatum).getD .null) := by
  cases last with
  | none => exact .null
  | some status => exact .string status.name

/-- Every entry has the name of a field, and scalars or further records below it. -/
theorem isRecord_toDatum (snapshot : Snapshot) : snapshot.toDatum.IsRecord names := by
  match snapshot with
  | ⟨id, kind, label, last, children⟩ =>
    -- The recursion goes from a snapshot to its children.
    have records : ∀ item ∈ children.map toDatum, IsRecord names item := by
      rintro _ member
      obtain ⟨child, listed, rfl⟩ := List.mem_map.1 member
      exact isRecord_toDatum child
    rw [toDatum_eq]
    refine .mapping (by simp [entries]) ?_ ?_ ?_
    · cases label <;> cases children <;> simp [entries, names]
    · cases label <;> cases children <;> simp [entries]
    · simp only [entries, List.forall_mem_append, List.forall_mem_cons]
      refine ⟨⟨⟨⟨.integer id.value, .string kind, nofun⟩, ?_⟩, isField_last last, nofun⟩, ?_⟩
      · cases label with
        | none => exact nofun
        | some label => exact List.forall_mem_singleton.2 (.string label)
      · cases children with
        | nil => exact nofun
        | cons child rest =>
            exact List.forall_mem_singleton.2 (.sequence (List.cons_ne_nil _ _) records)

/-- The list of the children nests only if there are any. -/
theorem nesting_toDatum (snapshot : Snapshot) : snapshot.toDatum.nesting =
    if snapshot.children.isEmpty then 1 else 2 + itemNesting (snapshot.children.map toDatum) := by
  obtain ⟨id, kind, label, last, children⟩ := snapshot
  have ofLast : ((last.map Status.toDatum).getD Datum.null).nesting = 0 := by
    cases last <;> rfl
  rw [toDatum_eq, Datum.nesting]
  cases label <;> cases children <;>
    simp [entries, entryNesting, ofLast, NodeId.toDatum, Datum.nesting, ← Nat.add_assoc]

/-- A record and the list of its children are two collections around each child. -/
theorem nesting_toDatum_le_iff (snapshot : Snapshot) (limit : Nat) :
    snapshot.toDatum.nesting ≤ limit ↔
      1 ≤ limit ∧ ∀ child ∈ snapshot.children, child.toDatum.nesting + 2 ≤ limit := by
  rw [nesting_toDatum]
  cases shape : snapshot.children with
  | nil => simp
  | cons first rest =>
      rw [List.isEmpty_cons, if_neg Bool.false_ne_true]
      constructor
      · intro shallow
        refine ⟨by omega, fun child member => ?_⟩
        have inner := itemNesting_le_iff.1 (Nat.le_refl _) child.toDatum
          (List.mem_map_of_mem member)
        omega
      · rintro ⟨_, deeper⟩
        have inner : itemNesting ((first :: rest).map toDatum) ≤ limit - 2 := by
          refine itemNesting_le_iff.2 (List.forall_mem_map.2 fun child member => ?_)
          exact Nat.le_sub_of_add_le (deeper child member)
        have here := deeper first List.mem_cons_self
        omega

end Snapshot

end Behavior
