import Behavior.Proofs.History
import Behavior.Proofs.Lockstep.Ticking

namespace Behavior

variable {A : Agent} {D : Type}

/-- A routine is a property that whatever a node does has by its steps: by the calls and the notices in
the contexts that the routine admits. -/
structure Routine (A : Agent) (D : Type) where
  Keeps : ∀ {Value : Type}, Run A D Value → Prop
  Admits : Context D → Prop
  child : ∀ {context : Context D}, Admits context → ∀ position, Admits (context.child position)
  pure : ∀ {Value : Type} (value : Value), Keeps (pure value)
  bind : ∀ {Value Next : Type} {run : Run A D Value} {next : Value → Run A D Next}, Keeps run →
    (∀ stage, Keeps (next (run stage).value)) → Keeps (run >>= next)
  cleared : ∀ place, Keeps (Run.enter place .cleared)
  write : ∀ place record, Keeps (Run.write place record)
  call : ∀ {Value : Type} {reply : A.State → Reply A.State Value} {describe : Value → Call A} (place),
    A.Offers reply describe → Keeps (Run.call place reply describe)
  notify : ∀ {context : Context D}, Admits context → ∀ notice : Notice, notice.isEntry = false →
    Keeps (context.notify notice)
  enter : ∀ {context : Context D}, Admits context → ∀ info, Keeps (context.enter info)

namespace Routine

variable (routine : Routine A D) {context : Context D}

/-- Nothing but a mark is left where a last status is forgotten. -/
theorem clear (tag : Tag) (place : Place) : routine.Keeps (tag.clear place : Run A D Tag) := by
  unfold Tag.clear
  split
  · exact routine.bind (routine.cleared place) fun _ => routine.pure _
  · exact routine.pure _

/-- A tree is in lockstep with itself, and its runs keep to the routine. -/
def lockstep : Lockstep A D D where
  Matches Related run other := routine.Keeps run ∧
    ∀ stage, Related (run stage).value (other stage).value ∧ (run stage).stage = (other stage).stage
  Alike := Eq
  Tags := Eq
  Infos := Eq
  Meets context twin := routine.Admits context ∧ twin = context
  pure related := ⟨routine.pure _, fun _ => ⟨related, rfl⟩⟩
  bind := by
    rintro _ _ _ _ _ _ run other next following ⟨keeps, same⟩ rest
    refine ⟨routine.bind keeps fun stage => (rest _ _ (same stage).1).1, fun stage => ?_⟩
    rw [Run.bind_apply, Run.bind_apply, ← (same stage).2]
    exact (rest _ _ (same stage).1).2 _
  alike_iff := by
    rintro ⟨tag, body⟩ ⟨other, twin⟩
    rw [Body.corresponds_eq_iff, Node.mk.injEq]
  running same := by rw [same]
  returned same _ := by rw [same]
  infos same _ := by rw [same]
  child := by
    rintro context _ ⟨admits, rfl⟩ position
    exact ⟨routine.child admits position, rfl⟩
  clock same := by rw [same.2]
  clear := by
    rintro context _ tag _ ⟨_, rfl⟩ rfl
    exact ⟨routine.clear tag _, fun _ => ⟨rfl, rfl⟩⟩
  call := by
    rintro context _ _ _ _ ⟨_, rfl⟩ offers
    exact ⟨routine.call _ offers, fun _ => ⟨rfl, rfl⟩⟩
  write := by
    rintro context _ info _ ⟨_, rfl⟩ rfl record
    exact ⟨routine.write _ _, fun _ => ⟨rfl, rfl⟩⟩
  notify := by
    rintro context _ info _ ⟨admits, rfl⟩ rfl notice other
    exact ⟨routine.notify admits _ (other info), fun _ => ⟨rfl, rfl⟩⟩
  enter := by
    rintro context _ info _ ⟨admits, rfl⟩ rfl
    exact ⟨routine.enter admits info, fun _ => ⟨rfl, rfl⟩⟩

/-- Ticks keep to the routine. -/
theorem tick (admits : routine.Admits context) (node : Node A) : routine.Keeps (node.tick context) :=
  have meets : routine.Admits context ∧ context = context := ⟨admits, rfl⟩
  (routine.lockstep.tick meets rfl).1

/-- Resets keep to the routine. -/
theorem reset (admits : routine.Admits context) (node : Node A) :
    routine.Keeps (node.reset context.place : Run A D (Node A)) :=
  have meets : routine.Admits context ∧ context = context := ⟨admits, rfl⟩
  (routine.lockstep.reset meets rfl).1

/-- Aborts and their reports keep to the routine. -/
theorem abortIn (admits : routine.Admits context) (node : Node A) :
    routine.Keeps (node.abortIn context) :=
  have meets : routine.Admits context ∧ context = context := ⟨admits, rfl⟩
  (routine.lockstep.abortIn meets rfl).1

variable {tree : Tree A D} (admits : ∀ clock, routine.Admits ⟨clock, tree.sink, Tree.rootPlace⟩)

include admits

/-- Ticks of trees keep to the routine, and so do the resets that follow them. -/
theorem treeTick (deltaTime : Float32) : routine.Keeps (tree.tick deltaTime) := by
  refine routine.bind (routine.tick (admits _) tree.root) fun stage => ?_
  dsimp only
  split
  · exact routine.pure _
  · refine routine.bind (routine.write _ _) fun _ => ?_
    split
    · exact routine.bind (routine.reset (admits .zero) _) fun _ => routine.pure _
    · exact routine.pure _

/-- Whatever a tree is told to do keeps to the routine. -/
theorem obey (order : Order D) : routine.Keeps (tree.obey order) := by
  cases order with
  | tick deltaTime => exact routine.bind (routine.treeTick admits deltaTime) fun _ => routine.pure _
  | reset =>
      refine routine.bind ?_ fun _ => routine.pure _
      exact routine.bind (routine.reset (admits .zero) tree.root) fun _ => routine.pure _
  | abort =>
      refine routine.bind ?_ fun _ => routine.pure _
      exact routine.bind (routine.abortIn (admits _) tree.root) fun _ => routine.pure _
  | setSink | clearSink => exact routine.pure _

end Routine

end Behavior
