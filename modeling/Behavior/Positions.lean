namespace Behavior

/-- Positions are listed in ascending order, each once. -/
structure Positions where
  list : List Nat
  ascending : list.Pairwise (· < ·)
  deriving DecidableEq, Repr

namespace Positions

def empty : Positions := ⟨[], .nil⟩

instance : Membership Nat Positions := ⟨fun positions position => position ∈ positions.list⟩

def retain (positions : Positions) (keep : Nat → Bool) : Positions :=
  ⟨positions.list.filter keep, positions.ascending.filter _⟩

/-- A new position stands between the smaller and the larger ones. -/
def insert (positions : Positions) (position : Nat) : Positions where
  list := positions.list.filter (· < position) ++ position :: positions.list.filter (position < ·)
  ascending := by
    simp only [List.pairwise_append, List.pairwise_cons, List.mem_cons, List.mem_filter,
      decide_eq_true_eq]
    refine ⟨positions.ascending.filter _, ⟨fun _ larger => larger.2, positions.ascending.filter _⟩, ?_⟩
    rintro smaller ⟨_, below⟩ other (rfl | ⟨_, above⟩)
    · exact below
    · exact Nat.lt_trans below above

/-- All positions but one are dropped, and that one is a member afterwards. -/
def replace (positions : Positions) (only : Option Nat) : Positions :=
  let kept := positions.retain fun position => some position = only
  match only with
  | some position => kept.insert position
  | none => kept

theorem mem_def (positions : Positions) (position : Nat) :
    position ∈ positions ↔ position ∈ positions.list := Iff.rfl

@[simp] theorem list_empty : empty.list = [] := rfl

@[simp] theorem not_mem_empty (position : Nat) : position ∉ empty := List.not_mem_nil

@[simp] theorem mem_insert (positions : Positions) (inserted position : Nat) :
    position ∈ positions.insert inserted ↔ position = inserted ∨ position ∈ positions := by
  simp only [mem_def, insert, List.mem_append, List.mem_cons, List.mem_filter, decide_eq_true_eq]
  grind

@[simp] theorem mem_retain (positions : Positions) (keep : Nat → Bool) (position : Nat) :
    position ∈ positions.retain keep ↔ position ∈ positions ∧ keep position = true := by
  simp [mem_def, retain]

@[simp] theorem replace_none (positions : Positions) : positions.replace none = .empty := by
  simp [replace, retain, empty]

/-- A replacement leaves the one position, whatever there was before. -/
@[simp] theorem list_replace (positions : Positions) (only : Option Nat) :
    (positions.replace only).list = only.toList := by
  cases only with
  | none => simp [replace, retain]
  | some position =>
      have below : positions.list.filter
          (fun other => decide (other < position) && decide (other = position)) = [] :=
        List.filter_eq_nil_iff.2 (by grind)
      have above : positions.list.filter
          (fun other => decide (position < other) && decide (other = position)) = [] :=
        List.filter_eq_nil_iff.2 (by grind)
      simp [replace, retain, insert, List.filter_filter, below, above]

end Positions

end Behavior
