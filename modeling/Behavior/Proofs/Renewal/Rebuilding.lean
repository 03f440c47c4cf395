import Behavior.Proofs.Idle.Suspension
import Behavior.Proofs.Renewal.Cancellation
import Behavior.Proofs.Valid.Bookkeeping

namespace Behavior

variable {A : Agent} {D : Type}

/-- A leaf as it is constructed. -/
def Leaf.construct : Leaf A → Node A
  | .condition predicate => .condition predicate
  | .action deed => .action deed
  | .asyncAction starter _ => .asyncAction starter

/-- A decorator as it is constructed over a child. -/
def Decorator.construct (child : Node A) : Decorator A → Except BuildError (Node A)
  | .guard predicate => .ok (.guard predicate child)
  | .invert => .ok (.invert child)
  | .forceSuccess => .ok (.forceSuccess child)
  | .forceFailure => .ok (.forceFailure child)
  | .repeating times _ => .ok (.repeating times child)
  | .retrying times _ => .ok (.retrying times child)
  | .timeout limit _ => Node.timeout limit child
  | .cooldown period _ => Node.cooldown period child
  | .whileTrue predicate => .ok (.whileTrue predicate child)
  | .reactiveGuard predicate => .ok (.reactiveGuard predicate child)

/-- A composite as it is constructed over its children. -/
def Composite.construct (children : List (Node A)) : Composite → Except BuildError (Node A)
  | .selector _ => .ok (.selector children)
  | .sequence _ => .ok (.sequence children)
  | .parallel policy _ => Node.parallel policy children
  | .reactiveSelector _ => .ok (.reactiveSelector children)
  | .reactiveSequence _ => .ok (.reactiveSequence children)

/-- The time that is left of the period of a cooldown. -/
def Decorator.remaining? : Decorator A → Option Float32
  | .cooldown _ remaining => some remaining
  | _ => none

def Decorator.resume (remaining : Float32) : Decorator A → Decorator A
  | .cooldown period _ => .cooldown period remaining
  | own => own

namespace Body

variable {Child Other : Type}

def construct : Body A (Node A) → Except BuildError (Node A)
  | .leaf own => .ok own.construct
  | .decorator own child => own.construct child
  | .choice own yes no => .ok (.ifElse own.predicate own.switch yes no)
  | .composite own children => own.construct children

def remaining? : Body A Child → Option Float32
  | .decorator own _ => own.remaining?
  | _ => none

/-- A cooldown goes on with the time that was left; nothing else has any. -/
def resume (remaining : Option Float32) : Body A Child → Body A Child
  | .decorator own child => .decorator (remaining.elim own own.resume) child
  | body => body

@[simp] theorem remaining?_map (change : Child → Other) (body : Body A Child) :
    (body.map change).remaining? = body.remaining? := by
  cases body <;> rfl

@[simp] theorem remaining?_rested (body : Body A Child) : body.rested.remaining? = body.remaining? := by
  cases body with
  | leaf | choice | composite => rfl
  | decorator own => cases own <;> rfl

/-- The constructors accept what is valid and have nothing of a run in them. -/
theorem construct_of_valid {body : Body A (Node A)} (valid : body.Valid) :
    body.construct = .ok (.ofBody body.pristine) := by
  cases body with
  | leaf own => cases own <;> rfl
  | choice => rfl
  | decorator own child =>
      cases own with
      | timeout | cooldown => exact if_pos valid
      | _ => rfl
  | composite own children =>
      cases own with
      | parallel => exact if_pos valid.1
      | _ => rfl

/-- A pristine body is a rested one as soon as its cooldown goes on. -/
theorem resume_pristine (body : Body A Child) : body.pristine.resume body.remaining? = body.rested := by
  cases body with
  | leaf | choice | composite => rfl
  | decorator own => cases own <;> rfl

end Body

namespace Node

/-- A new node takes over the number, the label and the remaining time of an old one. -/
def succeed (new : Node A) (tag : Tag) (remaining : Option Float32) : Node A :=
  ⟨{ new.tag with id := tag.id, label := tag.label }, new.body.resume remaining⟩

/-- A tree is built anew from what it was built of: its structure, its numbers and labels, the
parts of the agent that it uses, and the remaining times of its cooldowns. -/
def rebuild : Node A → Except BuildError (Node A) :=
  fold fun tag body => do
    let rebuilt ← body.visit fun _ part => part.value
    let new ← rebuilt.construct
    pure (new.succeed tag body.remaining?)

/-- A node is rebuilt after its children, and then succeeds the old one. -/
theorem rebuild_eq (tag : Tag) (body : Body A (Node A)) :
    rebuild ⟨tag, body⟩ = (do
      let rebuilt ← body.visit fun _ child => child.rebuild
      let new ← rebuilt.construct
      pure (new.succeed tag body.remaining?)) := by
  rw [rebuild, fold_eq]
  simp only [Body.visit_map, Body.remaining?_map]

/-- A valid tree can be built anew, and a reset leaves just that. -/
theorem rebuild_of_valid {node : Node A} (valid : node.Everywhere Valid) :
    node.rebuild = .ok node.cleared := by
  induction node using Node.induction with
  | step tag body inductionHypothesis =>
      have visited : (body.visit fun _ child => child.rebuild) = .ok (body.map cleared) := by
        have children : ∀ child ∈ body.children, ∀ _ : Nat,
            child.rebuild = (pure child.cleared : Except BuildError (Node A)) :=
          fun child member _ => inductionHypothesis child member (valid.child member)
        rw [Body.visit_congr children, Body.visit_pure]
        rfl
      have constructed : (body.map cleared).construct =
          .ok (ofBody (body.map cleared).pristine) :=
        Body.construct_of_valid ((Body.valid_map _ _).2 valid.here)
      have resumed : (body.map cleared).pristine.resume body.remaining? =
          (body.map cleared).rested := by
        rw [← Body.resume_pristine, Body.remaining?_map]
      rw [rebuild_eq, visited, cleared_eq, ← resumed]
      change (body.map cleared).construct >>= _ = _
      rw [constructed]
      rfl

/-- An idle node has no last status and remembers nothing of a run. -/
def Idle (node : Node A) : Prop := node.last = none ∧ node.body.Settled

/-- A cleared tree is idle. -/
theorem idle_cleared (node : Node A) : node.cleared.Everywhere Idle := by
  refine descends_cleared.everywhere (fun node => ⟨last_cleared node, ?_⟩) node
  rw [body_cleared]
  exact Body.settled_rested _

/-- Numbers are no part of being idle. -/
theorem idle_unnumbered (node : Node A) : node.unnumbered.Idle ↔ node.Idle := by
  rw [Idle, Idle, last_unnumbered, body_unnumbered, Body.settled_map]

/-- What has been built only is idle. -/
theorem idle_pristine (node : Node A) : node.pristine.Everywhere Idle := by
  refine descends_pristine.everywhere (fun node => ⟨by simp [last, Tag.idle], ?_⟩) node
  rw [body_pristine]
  exact Body.settled_pristine _

/-- A built tree is idle. -/
theorem Built.idle {node : Node A} (built : node.Built) : node.Everywhere Idle := by
  rw [← built.pristine]
  exact node.idle_pristine

/-- An evolution that ends with an abort or a reset leaves the node idle. -/
theorem Evolves.idle_of_last {context : Context D} {node changed : Node A} {touch : Touch}
    {touches : List Touch} {trace : Trace A}
    (evolves : node.Evolves context (touches ++ [touch]) trace changed)
    (clears : touch = .reset ∨ touch = .aborted (.ok ())) : changed.Everywhere Idle := by
  induction touches generalizing node trace with
  | nil =>
      obtain ⟨_, _, _, _, _, _, _, _, undergoes, rest⟩ := evolves.uncons
      obtain rfl := rest.nil.1
      rw [undergoes.cleared clears]
      exact idle_cleared _
  | cons first rest inductionHypothesis =>
      obtain ⟨_, _, _, _, _, _, _, _, _, following⟩ := evolves.uncons
      exact inductionHypothesis following

/-- Clearing takes no time off any cooldown. -/
theorem remaining?_cleared (node : Node A) :
    node.cleared.preorder.map (fun part => part.body.remaining?) =
      node.preorder.map fun part => part.body.remaining? := by
  rw [descends_cleared.preorder, List.map_map]
  apply List.map_congr_left
  intro part _
  simp [body_cleared]

end Node

/-- Whatever has been done to a host, an abort of any of its nodes does what a reset does: it cancels
the pending operations of the subtree in preorder, tells no sink, and leaves an idle tree which has
kept what it is built of and the remaining times of its cooldowns. This is the tree built anew, so it
behaves like that one ever after, and another reset or abort of it does nothing at all. -/
theorem Host.reset_rebuilds {root : Node A} {host : Host A D} {past : Trace A}
    {ends : Except Panic (Option Status) → Prop} (built : root.Built)
    (history : (Host.bare (D := D) root).History Node.Built ends past host) :
    ∀ node ∈ host.root.preorder, ∀ (place : Place) (stage : Stage A D),
      let renewal := node.reset place stage
      node.abort place stage = renewal ∧
      renewal.trace.calls.map Prod.snd = node.pending.map .cancelled ∧
      renewal.trace.notices = [] ∧
      renewal.stage = ⟨A.cancelAll node.pending stage.agent, stage.debugger⟩ ∧
      renewal.value.Everywhere Node.Idle ∧
      renewal.value.pristine = node.pristine ∧
      renewal.value.preorder.map (fun part => part.body.remaining?) =
        node.preorder.map (fun part => part.body.remaining?) ∧
      node.rebuild = .ok renewal.value ∧
      ∀ (place : Place) (stage : Stage A D),
        renewal.value.reset place stage = ⟨renewal.value, stage, []⟩ ∧
        renewal.value.abort place stage = ⟨renewal.value, stage, []⟩ := by
  intro node member place stage
  have cancels := node.cancels_of_reset (D := D) place
  obtain ⟨path, leads⟩ := (Node.mem_preorder_iff host.root node).1 member
  have valid : node.Everywhere Node.Valid := (history.valid built).below leads
  dsimp only
  rw [Node.reset_value]
  refine ⟨?_, cancels.calls stage, cancels.notices stage, cancels.stage stage, node.idle_cleared,
    node.pristine_cleared, node.remaining?_cleared, Node.rebuild_of_valid valid,
    fun place stage => ⟨?_, ?_⟩⟩
  · rw [Node.abort_eq_reset]
  · rw [Node.reset_cleared]
    rfl
  · rw [Node.abort_eq_reset, Node.reset_cleared]
    rfl

/-- The sample root in the middle of its operation is built anew by a reset, which cancels it. -/
theorem Host.reset_rebuilds_waiting :
    Sample.waiting.last = some .running ∧ Sample.waiting.pending = [()] ∧
      (Sample.waiting.reset Tree.rootPlace ⟨true, ()⟩ : Outcome _ Unit _).trace.calls.map Prod.snd =
        [.cancelled ()] ∧
      Sample.waiting.rebuild = .ok Sample.root := by
  have here : Sample.waiting ∈ Sample.waiting.preorder :=
    (Node.mem_preorder_iff _ _).2 ⟨[], rfl⟩
  have renewal := reset_rebuilds Sample.built (Sample.history_waiting calm_ok) Sample.waiting here
    Tree.rootPlace ⟨true, ()⟩
  obtain ⟨-, calls, -, -, -, -, -, rebuilt, -⟩ := renewal
  exact ⟨rfl, rfl, calls, rebuilt⟩

end Behavior
