import Behavior.Proofs.Node.Numbering
import Behavior.Proofs.Node.Pristine

namespace Behavior

variable {A : Agent} {Child : Type}

/-- A settled leaf waits for nothing. -/
def Leaf.Settled : Leaf A → Prop
  | .asyncAction _ pending => pending = none
  | _ => True

/-- A settled decorator has counted no round and no time of a run. -/
def Decorator.Settled : Decorator A → Prop
  | .repeating _ count => count = 0
  | .retrying _ attempts => attempts = 0
  | .timeout _ elapsed => elapsed = 0
  | _ => True

/-- A settled composite remembers no running child and no outcome. -/
def Composite.Settled : Composite → Prop
  | .selector running => running = none
  | .sequence running => running = none
  | .parallel _ outcomes => outcomes = []
  | .reactiveSelector running => running = .empty
  | .reactiveSequence running => running = none

/-- A guard and a while leave their child as it is when their predicate is false. -/
def Decorator.Dangles : Decorator A → Prop
  | .guard _ => True
  | .whileTrue _ => True
  | _ => False

namespace Body

/-- A settled body remembers nothing of a run. Only a cooldown may have time remaining. -/
def Settled : Body A Child → Prop
  | .leaf own => own.Settled
  | .decorator own _ => own.Settled
  | .choice own _ _ => own.active = none
  | .composite own _ => own.Settled

/-- To be settled is to have nothing to forget and nothing to give up. -/
theorem settled_iff (body : Body A Child) : body.Settled ↔ body.rested = body := by
  cases body with
  | leaf own => cases own <;> simp [Settled, rested, Leaf.Settled, Leaf.released, eq_comm]
  | decorator own child =>
      cases own <;> simp [Settled, rested, Decorator.Settled, Decorator.forget, eq_comm]
  | choice own yes no =>
      obtain ⟨predicate, switch, active⟩ := own
      simp [Settled, rested, Choice.forget, eq_comm]
  | composite own children =>
      cases own <;> simp [Settled, rested, Composite.Settled, Composite.forget, eq_comm]

/-- A rested body is settled. -/
theorem settled_rested (body : Body A Child) : body.rested.Settled := by
  rw [settled_iff]
  cases body with
  | leaf | choice => simp [rested, Choice.forget]
  | decorator => simp [rested, Decorator.forget_forget]
  | composite => simp [rested, Composite.forget_forget]

/-- A pristine body is settled, for it has never run. -/
theorem settled_pristine (body : Body A Child) : body.pristine.Settled := by
  cases body with
  | leaf own => cases own <;> trivial
  | decorator own => cases own <;> trivial
  | choice => rfl
  | composite own => cases own <;> rfl

/-- A dangling body may leave a running child behind and return a finished status. -/
def Dangles : Body A Child → Prop
  | .decorator own _ => own.Dangles
  | .choice own _ _ => own.switch = .keep
  | _ => False

/-- Whether a body dangles is a matter of how it was built. -/
theorem dangles_pristine (body : Body A Child) : body.pristine.Dangles ↔ body.Dangles := by
  cases body with
  | leaf | choice | composite => exact Iff.rfl
  | decorator own => cases own <;> exact Iff.rfl

/-- Whether a body dangles is none of its children's business. -/
theorem dangles_map {Other : Type} (change : Child → Other) (body : Body A Child) :
    (body.map change).Dangles ↔ body.Dangles := by
  cases body with
  | leaf | choice | composite => exact Iff.rfl
  | decorator own => cases own <;> exact Iff.rfl

end Body

/-- An iteration of no rounds has counted none. -/
def Decorator.Sound : Decorator A → Prop
  | .repeating times count => times = 0 → count = 0
  | .retrying times attempts => times = 0 → attempts = 0
  | _ => True

/-- A decorator holds its child if it may find it running at its next tick. -/
def Decorator.Holds : Decorator A → Prop
  | .repeating times _ => times ≠ 0
  | .retrying times _ => times ≠ 0
  | .cooldown _ remaining => ¬ 0 < remaining
  | _ => True

/-- A composite holds the children that it will tick or abort if they are running. -/
def Composite.Holds : Composite → Nat → Prop
  | .selector running, position => running = some position
  | .sequence running, position => running = some position
  | .parallel _ outcomes, position => outcomes[position]?.join = none
  | .reactiveSelector running, position => position ∈ running
  | .reactiveSequence running, position => running = some position

namespace Body

def Holds : Body A Child → Nat → Prop
  | .leaf _, _ => False
  | .decorator own _, position => position = 0 ∧ own.Holds
  | .choice own _ _, position => own.active.map Branch.position = some position
  | .composite own _, position => own.Holds position

def Sound : Body A Child → Prop
  | .decorator own _ => own.Sound
  | _ => True

/-- A settled body is sound. -/
theorem Settled.sound {body : Body A Child} (settled : body.Settled) : body.Sound := by
  cases body with
  | leaf | choice | composite => trivial
  | decorator own =>
      cases own with
      | repeating | retrying => exact fun _ => settled
      | _ => trivial

variable {Other : Type}

theorem settled_map (change : Child → Other) (body : Body A Child) :
    (body.map change).Settled ↔ body.Settled := by
  cases body <;> exact Iff.rfl

theorem holds_map (change : Child → Other) (body : Body A Child) (position : Nat) :
    (body.map change).Holds position ↔ body.Holds position := by
  cases body <;> exact Iff.rfl

theorem sound_map (change : Child → Other) (body : Body A Child) :
    (body.map change).Sound ↔ body.Sound := by
  cases body <;> exact Iff.rfl

end Body

namespace Node

/-- A resting node does not run and remembers nothing of a run. -/
def Rests (node : Node A) : Prop := node.last ≠ some .running ∧ node.body.Settled

/-- A node is coherent if it remembers nothing while it is not running, and holds each of its
children that is running. -/
structure Coherent (node : Node A) : Prop where
  settled : node.last ≠ some .running → node.body.Settled
  quiet : node.last ≠ some .running → ∀ child ∈ node.children, child.last ≠ some .running
  held : ∀ position child, node.children[position]? = some child →
    child.last = some .running → node.body.Holds position
  sound : node.body.Sound

/-- Numbers are no part of what a node remembers. -/
theorem coherent_unnumbered (node : Node A) : node.unnumbered.Coherent ↔ node.Coherent := by
  have listed (position : Nat) :
      node.unnumbered.children[position]? = node.children[position]?.map unnumbered := by
    rw [descends_unnumbered, List.getElem?_map]
  constructor
  · intro coherent
    exact {
      settled := fun idle => by
        have settled := coherent.settled (by rwa [last_unnumbered])
        rwa [body_unnumbered, Body.settled_map] at settled
      quiet := fun idle child member => by
        have quiet := coherent.quiet (by rwa [last_unnumbered]) child.unnumbered
          (by rw [descends_unnumbered]; exact List.mem_map_of_mem member)
        rwa [last_unnumbered] at quiet
      held := fun position child present running => by
        have held := coherent.held position child.unnumbered (by rw [listed, present]; rfl)
          (by rwa [last_unnumbered])
        rwa [body_unnumbered, Body.holds_map] at held
      sound := by
        have sound := coherent.sound
        rwa [body_unnumbered, Body.sound_map] at sound }
  · intro coherent
    exact {
      settled := fun idle => by
        rw [last_unnumbered] at idle
        rw [body_unnumbered, Body.settled_map]
        exact coherent.settled idle
      quiet := fun idle child member => by
        rw [last_unnumbered] at idle
        rw [descends_unnumbered, List.mem_map] at member
        obtain ⟨original, member, rfl⟩ := member
        rw [last_unnumbered]
        exact coherent.quiet idle original member
      held := fun position child present running => by
        rw [listed, Option.map_eq_some_iff] at present
        obtain ⟨original, present, rfl⟩ := present
        rw [last_unnumbered] at running
        rw [body_unnumbered, Body.holds_map]
        exact coherent.held position original present running
      sound := by
        rw [body_unnumbered, Body.sound_map]
        exact coherent.sound }

/-- In a coherent tree, a node that is not running has nothing suspended below it. -/
theorem rests_everywhere {node : Node A} (coherent : node.Everywhere Coherent)
    (idle : node.last ≠ some .running) : node.Everywhere Rests := by
  induction node using Node.induction with
  | step tag body inductionHypothesis =>
      refine everywhere_mk ⟨idle, coherent.here.settled idle⟩ fun child member => ?_
      exact inductionHypothesis child member (coherent.child member)
        (coherent.here.quiet idle child member)

/-- A tree at rest is coherent. -/
theorem coherent_of_rests {node : Node A} (rests : node.Everywhere Rests) :
    node.Everywhere Coherent := by
  induction node using Node.induction with
  | step tag body inductionHypothesis =>
      have below (child : Node A) (member : child ∈ body.children) : child.Everywhere Rests :=
        rests.child member
      refine everywhere_mk ?_ fun child member => inductionHypothesis child member (below child member)
      have quiet (child : Node A) (member : child ∈ body.children) : child.last ≠ some .running :=
        (below child member).here.1
      exact {
        settled := fun _ => rests.here.2
        quiet := fun _ => quiet
        held := fun position child present running =>
          absurd running (quiet child (List.mem_of_getElem? present))
        sound := rests.here.2.sound }

/-- What a reset leaves is at rest. -/
theorem rests_cleared (node : Node A) : node.cleared.Everywhere Rests := by
  refine descends_cleared.everywhere (fun node => ⟨by simp, ?_⟩) node
  rw [body_cleared]
  exact Body.settled_rested _

/-- A supervised tree has no node that may leave a running child behind. -/
def Supervised (node : Node A) : Prop := node.Everywhere fun part => ¬ part.body.Dangles

/-- Whether a tree is supervised is a matter of how it was built. -/
theorem supervised_pristine (node : Node A) : node.pristine.Supervised ↔ node.Supervised := by
  refine descends_pristine.everywhere_iff (fun node => not_congr ?_) node
  rw [body_pristine, Body.dangles_pristine, Body.dangles_map]

/-- Whatever keeps what a node is built of keeps it supervised. -/
theorem Supervised.of_pristine {node other : Node A} (supervised : node.Supervised)
    (built : other.pristine = node.pristine) : other.Supervised := by
  rwa [← supervised_pristine, built, supervised_pristine]

/-- Trees that differ in numbers alone are coherent together. -/
theorem coherent_of_unnumbered {node other : Node A} (same : other.unnumbered = node.unnumbered)
    (coherent : node.Everywhere Coherent) : other.Everywhere Coherent := by
  rwa [← descends_unnumbered.everywhere_iff coherent_unnumbered, same,
    descends_unnumbered.everywhere_iff coherent_unnumbered]

/-- Trees that differ in numbers alone are supervised together. -/
theorem Supervised.of_unnumbered {node other : Node A} (supervised : node.Supervised)
    (same : other.unnumbered = node.unnumbered) : other.Supervised := by
  have numberless (node : Node A) : ¬ node.unnumbered.body.Dangles ↔ ¬ node.body.Dangles := by
    rw [body_unnumbered, Body.dangles_map]
  unfold Supervised
  rwa [← descends_unnumbered.everywhere_iff numberless, same,
    descends_unnumbered.everywhere_iff numberless]

/-- What has been built only is at rest. -/
theorem rests_pristine (node : Node A) : node.pristine.Everywhere Rests := by
  refine descends_pristine.everywhere (fun node => ⟨by simp [last, Tag.idle], ?_⟩) node
  rw [body_pristine]
  exact Body.settled_pristine _

end Node

end Behavior
