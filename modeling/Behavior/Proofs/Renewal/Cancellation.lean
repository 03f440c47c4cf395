import Behavior.Proofs.Node.Clearing

namespace Behavior

variable {A : Agent} {D Value Next : Type}

namespace Agent

/-- What the cancellations of some operations, one after the other, make of a state. -/
def cancelAll (A : Agent) (operations : List A.Operation) (state : A.State) : A.State :=
  operations.foldl (fun state operation => (A.cancel operation state).state) state

@[simp] theorem cancelAll_nil (state : A.State) : A.cancelAll [] state = state := rfl

/-- Cancellations come one after the other. -/
theorem cancelAll_append (first second : List A.Operation) (state : A.State) :
    A.cancelAll (first ++ second) state = A.cancelAll second (A.cancelAll first state) :=
  List.foldl_append

end Agent

/-- A run cancels some operations if these cancellations are its only calls, in their order, and it
leaves the debugger alone. -/
structure Run.Cancels (run : Run A D Value) (operations : List A.Operation) : Prop where
  stage : ∀ stage, (run stage).stage = ⟨A.cancelAll operations stage.agent, stage.debugger⟩
  calls : ∀ stage, (run stage).trace.calls.map Prod.snd = operations.map .cancelled
  notices : ∀ stage, (run stage).trace.notices = []

namespace Run.Cancels

variable {first second : List A.Operation} {run : Run A D Value} {next : Value → Run A D Next}
  {place : Place}

theorem pure (value : Value) : (Pure.pure value : Run A D Value).Cancels [] where
  stage _ := rfl
  calls _ := rfl
  notices _ := rfl

/-- A run and what follows it cancel their operations one after the other. -/
theorem bind (cancels : run.Cancels first)
    (follows : ∀ stage, (next (run stage).value).Cancels second) :
    (run >>= next).Cancels (first ++ second) where
  stage stage := by
    rw [bind_apply]
    dsimp only
    rw [(follows stage).stage, cancels.stage, Agent.cancelAll_append]
  calls stage := by
    rw [bind_apply, Trace.calls_append, List.map_append, List.map_append, cancels.calls,
      (follows stage).calls]
  notices stage := by
    rw [bind_apply, Trace.notices_append, cancels.notices, (follows stage).notices,
      List.append_nil]

/-- To change a value cancels nothing. -/
theorem bind_pure {change : Value → Next} (cancels : run.Cancels first) :
    (run >>= fun value => Pure.pure (change value)).Cancels first := by
  rw [← List.append_nil first]
  exact cancels.bind fun stage => .pure (change (run stage).value)

theorem enter_cleared : (Run.enter place .cleared : Run A D Unit).Cancels [] where
  stage _ := rfl
  calls _ := rfl
  notices _ := rfl

/-- The call of a cancellation cancels that operation, whatever the agent writes on it. -/
theorem call (operation : A.Operation) :
    (Run.call place (A.cancel operation) fun _ => .cancelled operation : Run A D Unit).Cancels
      [operation] where
  stage _ := rfl
  calls stage := by simp [Run.call, Trace.calls, List.filterMap_map]
  notices stage := by simp [Run.call, Trace.notices, List.filterMap_map]

end Run.Cancels

/-- The operation that a leaf waits for. -/
def Leaf.pending? : Leaf A → Option A.Operation
  | .asyncAction _ pending => pending
  | _ => none

def Body.pending? {Child : Type} : Body A Child → Option A.Operation
  | .leaf own => own.pending?
  | _ => none

/-- To forget a last status cancels nothing. -/
theorem Tag.cancels_of_clear (tag : Tag) (place : Place) :
    (tag.clear place : Run A D Tag).Cancels [] := by
  unfold clear
  by_cases told : tag.last.isSome
  · simp only [if_pos told]
    exact Run.Cancels.enter_cleared.bind_pure
  · simp only [if_neg told]
    exact .pure _

/-- A leaf cancels what it waits for. -/
theorem Leaf.cancels_of_cancel (own : Leaf A) (place : Place) :
    (own.cancel place : Run A D (Leaf A)).Cancels own.pending?.toList := by
  match own with
  | .asyncAction starter (some operation) =>
      exact (Run.Cancels.call operation).bind_pure
  | .asyncAction starter none | .condition predicate | .action deed => exact .pure _

namespace Body

variable {Child Other : Type} {act : Nat → Child → Run A D Other}
  {operations : Child → List A.Operation}

/-- A body cancels what it waits for. -/
theorem cancels_of_cancel (body : Body A Child) (place : Place) :
    (body.cancel place : Run A D (Body A Child)).Cancels body.pending?.toList := by
  cases body with
  | leaf own => exact (own.cancels_of_cancel place).bind_pure
  | decorator | choice | composite => exact .pure _

/-- A visit cancels child by child. -/
theorem cancels_of_visitFrom {children : List Child}
    (cancels : ∀ child ∈ children, ∀ position, (act position child).Cancels (operations child))
    (position : Nat) :
    (visitFrom act position children).Cancels (children.flatMap operations) := by
  induction children generalizing position with
  | nil => exact .pure _
  | cons child rest inductionHypothesis =>
      have head := cancels child List.mem_cons_self position
      have tail := inductionHypothesis
        (fun other member => cancels other (List.mem_cons_of_mem _ member)) (position + 1)
      rw [List.flatMap_cons]
      exact head.bind fun _ => tail.bind_pure

/-- A visit cancels what it cancels for each child, in the order of the children. -/
theorem cancels_of_visit {body : Body A Child}
    (cancels : ∀ child ∈ body.children, ∀ position,
      (act position child).Cancels (operations child)) :
    (body.visit act).Cancels (body.children.flatMap operations) := by
  cases body with
  | leaf own => exact .pure _
  | decorator own child =>
      have only := cancels child List.mem_cons_self 0
      rw [children, List.flatMap_singleton]
      exact only.bind_pure
  | choice own yes no =>
      have first := cancels yes List.mem_cons_self 0
      cases no with
      | none =>
          rw [children, Option.toList_none, List.flatMap_singleton]
          exact first.bind_pure
      | some no =>
          have second := cancels no (List.mem_cons_of_mem _ List.mem_cons_self) 1
          rw [children, Option.toList_some, List.flatMap_cons, List.flatMap_singleton]
          exact first.bind fun _ => second.bind_pure
  | composite own nodes => exact (cancels_of_visitFrom cancels 0).bind_pure

end Body

namespace Node

/-- The pending operations of a subtree, in preorder. -/
def pending (node : Node A) : List A.Operation :=
  node.preorder.filterMap fun part => part.body.pending?

/-- The operation of a node comes before those below it. -/
theorem pending_eq (tag : Tag) (body : Body A (Node A)) :
    pending ⟨tag, body⟩ = body.pending?.toList ++ body.children.flatMap pending := by
  rw [pending, preorder_eq, List.filterMap_cons, List.filterMap_flatMap]
  cases body.pending? <;> rfl

/-- A reset cancels the pending operations of the subtree in preorder. -/
theorem cancels_of_reset (node : Node A) (place : Place) :
    (node.reset place : Run A D (Node A)).Cancels node.pending := by
  induction node using Node.induction generalizing place with
  | step tag body inductionHypothesis =>
      have visiting : (body.rested.visit fun position child =>
          (child.reset (position :: place) : Run A D (Node A))).Cancels
            (body.children.flatMap pending) := by
        rw [← Body.children_rested]
        apply Body.cancels_of_visit
        intro child member position
        rw [Body.children_rested] at member
        exact inductionHypothesis child member (position :: place)
      rw [reset_eq, pending_eq]
      refine (tag.cancels_of_clear place).bind fun _ => ?_
      refine (body.cancels_of_cancel place).bind fun stage => ?_
      rw [Body.forget_cancel_value]
      exact visiting.bind_pure

end Node

end Behavior
