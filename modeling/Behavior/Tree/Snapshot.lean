import Behavior.Text.Layout
import Behavior.Tree.Basic

namespace Behavior

/-- A snapshot keeps the number, the kind, the label and the last status of each node. -/
structure Snapshot where
  id : NodeId
  kind : String
  label : Option String
  last : Option Status
  children : List Snapshot

namespace Snapshot

def capture {A : Agent} : Node A → Snapshot :=
  Node.fold fun tag body =>
    ⟨tag.id, body.kind.name, tag.label, tag.last, body.children.map Part.value⟩

/-- A snapshot of a node is made of those of its children. -/
theorem capture_eq {A : Agent} (tag : Tag) (body : Body A (Node A)) :
    capture ⟨tag, body⟩ =
      ⟨tag.id, body.kind.name, tag.label, tag.last, body.children.map capture⟩ := by
  rw [capture, Node.fold_eq]
  simp only [Body.kind_map, Body.children_map, List.map_map]
  rfl

mutual

/-- A preorder lists a snapshot before its descendants. -/
def preorder : Snapshot → List Snapshot
  | ⟨id, kind, label, last, children⟩ => ⟨id, kind, label, last, children⟩ :: preorderList children

def preorderList : List Snapshot → List Snapshot
  | [] => []
  | snapshot :: rest => preorder snapshot ++ preorderList rest

end

theorem preorderList_append (first second : List Snapshot) :
    preorderList (first ++ second) = preorderList first ++ preorderList second := by
  induction first with
  | nil => rfl
  | cons snapshot rest inductionHypothesis =>
      rw [List.cons_append, preorderList, preorderList, inductionHypothesis, List.append_assoc]

theorem preorderList_cons (snapshot : Snapshot) (rest : List Snapshot) :
    preorderList (snapshot :: rest) = snapshot :: preorderList (snapshot.children ++ rest) := by
  cases snapshot
  rw [preorderList, preorder, preorderList_append, List.cons_append]

/-- A walk keeps the snapshots that it has still to visit on a stack, the next one on top. -/
structure Walk where
  stack : List Snapshot

namespace Walk

/-- The snapshot on top is taken, and its children are put on the stack, the last one first. -/
def next? : Walk → Option (Snapshot × Walk)
  | ⟨[]⟩ => none
  | ⟨snapshot :: rest⟩ =>
      some (snapshot, ⟨snapshot.children.reverse.foldl (fun stack child => child :: stack) rest⟩)

/-- A step takes the first snapshot of those that are still to come, in preorder. -/
theorem preorderList_of_next? {walk later : Walk} {snapshot : Snapshot}
    (taken : walk.next? = some (snapshot, later)) :
    preorderList walk.stack = snapshot :: preorderList later.stack := by
  match walk with
  | ⟨[]⟩ => cases taken
  | ⟨top :: rest⟩ =>
      cases taken
      rw [preorderList_cons, List.foldl_reverse, List.foldr_cons_eq_append, List.map_id']

def list (walk : Walk) : List Snapshot :=
  match _ : walk.next? with
  | none => []
  | some (snapshot, later) => snapshot :: later.list
termination_by (preorderList walk.stack).length
decreasing_by
  rename_i taken
  rw [preorderList_of_next? taken, List.length_cons]
  exact Nat.lt_succ_self _

end Walk

/-- An iteration walks from the snapshot through all of its descendants. -/
def iterate (snapshot : Snapshot) : List Snapshot := Walk.list ⟨[snapshot]⟩

mutual

/-- Equality is decided field by field. -/
def same : Snapshot → Snapshot → Bool
  | ⟨id, kind, label, last, children⟩, ⟨id₂, kind₂, label₂, last₂, children₂⟩ =>
      id == id₂ && kind == kind₂ && label == label₂ && last == last₂ && sameList children children₂

def sameList : List Snapshot → List Snapshot → Bool
  | [], [] => true
  | first :: rest, second :: others => same first second && sameList rest others
  | _, _ => false

end

end Snapshot

/-- A tree is captured from its root on. -/
def Tree.snapshot {A : Agent} {D : Type} (tree : Tree A D) : Snapshot := .capture tree.root

def NodeId.layout (id : NodeId) : Text.Layout :=
  .wrap "NodeId" (.atom (toString id.value.toNat))

def Status.layout (status : Status) : Text.Layout := .atom status.name

mutual

def Snapshot.layout : Snapshot → Text.Layout
  | ⟨id, kind, label, last, children⟩ =>
      .record "NodeSnapshot" [("id", id.layout), ("kind", .quoted kind),
        ("label", .option (label.map .quoted)), ("last_status", .option (last.map Status.layout)),
        ("children", .list (Snapshot.layoutList children))]

def Snapshot.layoutList : List Snapshot → List Text.Layout
  | [] => []
  | snapshot :: rest => snapshot.layout :: Snapshot.layoutList rest

end

/-- A node is shown with what a snapshot keeps of it. -/
def Node.layout {A : Agent} : Node A → Text.Layout :=
  fold fun tag body =>
    .record "Node" [("id", tag.id.layout), ("kind", .quoted body.kind.name),
      ("label", .option (tag.label.map .quoted)),
      ("last_status", .option (tag.last.map Status.layout)),
      ("children", .list (body.children.map Part.value))]

end Behavior
