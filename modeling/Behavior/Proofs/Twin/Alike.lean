import Behavior.Proofs.Lockstep.Rules
import Behavior.Proofs.Twin.Coupling

namespace Behavior

variable {A : Agent} {D : Type}

/-- A last status fades into another if it is the same, or has been forgotten after it finished. -/
inductive Fades : Option Status → Option Status → Prop
  | same (last : Option Status) : Fades last last
  | forgotten (status : Status) (finished : status ≠ .running) : Fades none (some status)

/-- Tags are alike if they differ at most in a forgotten status. -/
structure Tag.Alike (tag other : Tag) : Prop where
  id : tag.id = other.id
  label : tag.label = other.label
  last : Fades tag.last other.last

/-- Nodes are alike if they differ at most in statuses that the first has forgotten. -/
inductive Node.Alike : Node A → Node A → Prop
  | alike {tag other : Tag} {body twin : Body A (Node A)} (tags : tag.Alike other)
      (bodies : body.Corresponds Alike twin) : Alike ⟨tag, body⟩ ⟨other, twin⟩

/-- Nobody sees whether a tag is cleared. -/
theorem Tag.unseen_clear (tag : Tag) (place : Place) (stage : Stage A D) :
    (tag.clear place stage).stage = stage ∧ (tag.clear place stage).trace.visible = [] := by
  unfold clear
  split <;> exact ⟨rfl, rfl⟩

/-- Tags that are alike are cleared to the same. -/
theorem Tag.coupled_clear {tag other : Tag} (tags : tag.Alike other) (place : Place) :
    Run.Coupled Tag.Alike (tag.clear place : Run A D Tag) (other.clear place) := by
  intro stage
  obtain ⟨unmoved, unseen⟩ := tag.unseen_clear place stage
  obtain ⟨otherUnmoved, otherUnseen⟩ := other.unseen_clear place stage
  exact {
    value := by
      rw [clear_value, clear_value]
      exact ⟨tags.id, tags.label, .same none⟩
    stage := unmoved.trans otherUnmoved.symm
    visible := unseen.trans otherUnseen.symm }

/-- A running status does not fade. -/
theorem Fades.running {last other : Option Status} (fades : Fades last other) :
    last = some .running ↔ other = some .running := by
  cases fades with
  | same => exact Iff.rfl
  | forgotten status finished => simp [finished]

namespace Node

variable {node twin : Node A} {context : Context D}

/-- Nodes that are alike have tags that are. -/
theorem Alike.tags (alike : node.Alike twin) : node.tag.Alike twin.tag := by
  cases alike with
  | alike tags => exact tags

/-- Nodes that are alike have bodies that correspond. -/
theorem Alike.bodies (alike : node.Alike twin) : node.body.Corresponds Alike twin.body := by
  cases alike with
  | alike _ bodies => exact bodies

/-- Every node is alike to itself. -/
theorem alike_self (node : Node A) : node.Alike node := by
  induction node using Node.induction with
  | step tag body inductionHypothesis =>
      exact .alike ⟨rfl, rfl, .same _⟩ (Body.corresponds_self inductionHypothesis)

/-- Of nodes that are alike both are running or none. -/
theorem Alike.isRunning (alike : node.Alike twin) : node.isRunning = twin.isRunning := by
  rw [Bool.eq_iff_iff]
  exact beq_iff_eq.trans (alike.tags.last.running.trans beq_iff_eq.symm)

/-- Nodes that are alike are told of in the same way. -/
theorem Alike.info (alike : node.Alike twin) : node.info = twin.info := by
  unfold Node.info id label kind
  rw [alike.tags.id, alike.tags.label, alike.bodies.kind]

theorem alike_iff : node.Alike twin ↔ node.tag.Alike twin.tag ∧ node.body.Corresponds Alike twin.body := by
  constructor
  · intro alike
    exact ⟨alike.tags, alike.bodies⟩
  · obtain ⟨_, _⟩ := node
    obtain ⟨_, _⟩ := twin
    rintro ⟨tags, bodies⟩
    exact .alike tags bodies

end Node

/-- Coupled runs of alike nodes, in the same contexts, are a lockstep. -/
def twins : Lockstep A D D where
  Matches := Run.Coupled
  Alike := Node.Alike
  Tags := Tag.Alike
  Infos := Eq
  Meets := Eq
  pure := Run.coupled_pure
  bind := Run.Coupled.bind
  alike_iff := Node.alike_iff
  running tags := tags.last.running
  returned tags _ := ⟨tags.id, tags.label, .same _⟩
  infos tags _ := by rw [tags.id, tags.label]
  child same _ := by rw [same]
  clock same := by rw [same]
  clear := by
    rintro context _ tag other rfl tags
    exact Tag.coupled_clear tags context.place
  call := by
    rintro context _ _ _ _ rfl _
    exact Run.coupled_self _
  write := by
    rintro context _ info _ rfl rfl record
    exact Run.coupled_self _
  notify := by
    rintro context _ info _ rfl rfl notice _
    exact Run.coupled_self _
  enter := by
    rintro context _ info _ rfl rfl
    exact Run.coupled_self _

namespace Node

variable {node twin : Node A}

/-- Resets of alike nodes are coupled. -/
theorem coupled_reset (alike : node.Alike twin) (place : Place) :
    Run.Coupled Alike (node.reset place : Run A D (Node A)) (twin.reset place) :=
  have meets : (⟨.zero, none, place⟩ : Context D) = ⟨.zero, none, place⟩ := rfl
  twins.reset meets alike

/-- Aborts of alike nodes are coupled, and so are their reports. -/
theorem coupled_abortIn (alike : node.Alike twin) (context : Context D) :
    Run.Coupled (Attempt.Agree Alike) (node.abortIn context : Run A D (Attempt (Node A) Unit))
      (twin.abortIn context) :=
  twins.abortIn rfl alike

end Node

end Behavior
