import Behavior.Node.Reset
import Behavior.Proofs.Node.Path
import Behavior.Proofs.Run.Leads

namespace Behavior

variable {A : Agent} {D : Type}

theorem Tag.clear_value (tag : Tag) (place : Place) (stage : Stage A D) :
    (tag.clear place stage).value = tag.idle := by
  unfold clear
  split <;> rfl

/-- What has no last status has nothing to forget. -/
theorem Tag.clear_idle (tag : Tag) (place : Place) :
    (tag.idle.clear place : Run A D Tag) = pure tag.idle := by
  simp only [clear, idle, Option.isSome_none, Bool.false_eq_true, if_false]

/-- A released leaf has given up its pending operation. -/
def Leaf.released : Leaf A → Leaf A
  | .asyncAction starter _ => .asyncAction starter none
  | own => own

/-- A cancelled leaf is released. -/
theorem Leaf.cancel_value (own : Leaf A) (place : Place) (stage : Stage A D) :
    (own.cancel place stage).value = own.released := by
  cases own with
  | condition | action => rfl
  | asyncAction starter pending => cases pending <;> simp [cancel, released]

/-- Nothing is left to cancel on a released leaf. -/
theorem Leaf.cancel_released (own : Leaf A) (place : Place) :
    (own.released.cancel place : Run A D (Leaf A)) = pure own.released := by
  cases own <;> rfl

theorem Decorator.forget_forget (own : Decorator A) : own.forget.forget = own.forget := by
  cases own <;> rfl

theorem Composite.forget_forget (own : Composite) : own.forget.forget = own.forget := by
  cases own <;> rfl

namespace Body

variable {Child Other : Type}

/-- A rested body has forgotten its own state and has given up its pending operation. -/
def rested : Body A Child → Body A Child
  | .leaf own => .leaf own.released
  | .decorator own child => .decorator own.forget child
  | .choice own yes no => .choice own.forget yes no
  | .composite own children => .composite own.forget children

@[simp] theorem children_rested (body : Body A Child) : body.rested.children = body.children := by
  cases body <;> rfl

@[simp] theorem children_forget (body : Body A Child) : body.forget.children = body.children := by
  cases body <;> rfl

@[simp] theorem forget_rested (body : Body A Child) : body.rested.forget = body.rested := by
  cases body with
  | leaf | choice => rfl
  | decorator own => simp [rested, forget, Decorator.forget_forget]
  | composite own => simp [rested, forget, Composite.forget_forget]

@[simp] theorem rested_map (change : Child → Other) (body : Body A Child) :
    (body.map change).rested = body.rested.map change := by
  cases body <;> rfl

/-- Nothing is left to cancel on a rested body. -/
theorem cancel_rested (body : Body A Child) (place : Place) :
    (body.rested.cancel place : Run A D (Body A Child)) = pure body.rested := by
  cases body with
  | leaf own => simp [rested, cancel, Leaf.cancel_released]
  | decorator | choice | composite => rfl

/-- Cancelling and forgetting rests the body. -/
theorem forget_cancel_value (body : Body A Child) (place : Place) (stage : Stage A D) :
    (body.cancel place stage).value.forget = body.rested := by
  cases body with
  | leaf own => simp [cancel, forget, rested, Leaf.cancel_value]
  | decorator | choice | composite => rfl

/-- Visits are the same if they do the same with each child. -/
theorem visitFrom_congr {M : Type → Type} [Monad M] {first second : Nat → Child → M Other}
    {children : List Child}
    (same : ∀ child ∈ children, ∀ position, first position child = second position child)
    (position : Nat) : visitFrom first position children = visitFrom second position children := by
  induction children generalizing position with
  | nil => rfl
  | cons child rest inductionHypothesis =>
      have tail := inductionHypothesis
        (fun other member => same other (List.mem_cons_of_mem _ member)) (position + 1)
      simp only [visitFrom, same child List.mem_cons_self position, tail]

/-- Visits of a body are the same if they do the same with each of its children. -/
theorem visit_congr {M : Type → Type} [Monad M] {first second : Nat → Child → M Other}
    {body : Body A Child}
    (same : ∀ child ∈ body.children, ∀ position, first position child = second position child) :
    body.visit first = body.visit second := by
  cases body with
  | leaf => rfl
  | decorator own child => simp [visit, same child List.mem_cons_self 0]
  | choice own yes no =>
      cases no with
      | none => simp [visit, same yes List.mem_cons_self 0]
      | some no =>
          simp [visit, same yes List.mem_cons_self 0,
            same no (List.mem_cons_of_mem _ List.mem_cons_self) 1]
  | composite own children =>
      have list : visitFrom first 0 children = visitFrom second 0 children :=
        visitFrom_congr same 0
      simp only [visit, list]

/-- A visit that only changes children changes each of them. -/
theorem visitFrom_pure {M : Type → Type} [Monad M] [LawfulMonad M] (change : Child → Other)
    (position : Nat) (children : List Child) :
    visitFrom (fun _ child => (pure (change child) : M Other)) position children =
      pure (children.map change) := by
  induction children generalizing position with
  | nil => rfl
  | cons child rest inductionHypothesis => simp [visitFrom, inductionHypothesis]

/-- A visit without effects is a map. -/
theorem visit_pure {M : Type → Type} [Monad M] [LawfulMonad M] (change : Child → Other)
    (body : Body A Child) :
    body.visit (fun _ child => (pure (change child) : M Other)) = pure (body.map change) := by
  cases body with
  | leaf => rfl
  | decorator => simp [visit, map]
  | choice _ _ no => cases no <;> simp [visit, map]
  | composite => simp [visit, map, visitFrom_pure]

/-- A visit that leaves every child as it is does nothing. -/
theorem visit_unmoved {M : Type → Type} [Monad M] [LawfulMonad M] {visit : Nat → Child → M Child}
    {body : Body A Child}
    (unmoved : ∀ child ∈ body.children, ∀ position, visit position child = pure child) :
    body.visit visit = pure body := by
  rw [visit_congr unmoved, visit_pure (fun child => child)]
  exact congrArg pure (map_id body)

/-- It makes no difference for a visit whether the body forgets before or after it. -/
theorem visit_forget {M : Type → Type} [Monad M] [LawfulMonad M] (visit : Nat → Child → M Other)
    (body : Body A Child) :
    body.forget.visit visit = (do pure (← body.visit visit).forget) := by
  cases body with
  | leaf | decorator | composite => simp [forget, Body.visit]
  | choice _ _ no => cases no <;> simp [forget, Body.visit]

/-- Only leaves cancel and only other bodies visit, so both orders are the same. -/
theorem visit_cancel (visit : Nat → Child → Run A D Other) (body : Body A Child) (place : Place) :
    (do (← body.visit visit).cancel place) = (do (← body.cancel place).visit visit) := by
  cases body with
  | leaf | decorator | composite => simp [cancel, Body.visit]
  | choice _ _ no => cases no <;> simp [cancel, Body.visit]

variable {act : Nat → Child → Run A D Other} {change : Child → Other}

/-- A visit leaves what it makes of each child, whatever else it does. -/
theorem visitFrom_value {children : List Child}
    (same : ∀ child ∈ children, ∀ position stage, (act position child stage).value = change child)
    (position : Nat) (stage : Stage A D) :
    (visitFrom act position children stage).value = children.map change := by
  induction children generalizing position stage with
  | nil => rfl
  | cons child rest inductionHypothesis =>
      have tail := inductionHypothesis fun other member => same other (List.mem_cons_of_mem _ member)
      simp [visitFrom, same child List.mem_cons_self, tail]

/-- A visit gives the body of the values that it gives for the children. -/
theorem visit_value {body : Body A Child}
    (same : ∀ child ∈ body.children, ∀ position stage,
      (act position child stage).value = change child) (stage : Stage A D) :
    (body.visit act stage).value = body.map change := by
  cases body with
  | leaf => rfl
  | decorator own child => simp [visit, map, same child List.mem_cons_self]
  | choice own yes no =>
      cases no with
      | none => simp [visit, map, same yes List.mem_cons_self]
      | some no =>
          simp [visit, map, same yes List.mem_cons_self,
            same no (List.mem_cons_of_mem _ List.mem_cons_self)]
  | composite own children =>
      have list : (visitFrom act 0 children stage).value = children.map change :=
        visitFrom_value same 0 stage
      simp [visit, map, list]

end Body

namespace Node

/-- A cleared node is what a reset leaves: no status, no state of a run, nothing pending. -/
def cleared : Node A → Node A :=
  fold fun tag body => ⟨tag.idle, (body.map Part.value).rested⟩

theorem cleared_eq (tag : Tag) (body : Body A (Node A)) :
    cleared ⟨tag, body⟩ = ⟨tag.idle, (body.map cleared).rested⟩ := by
  rw [cleared, fold_eq, Body.map_map]
  rfl

theorem descends_cleared : Descends (cleared (A := A)) := by
  rintro ⟨tag, body⟩
  simp [cleared_eq, children]

/-- The body of a cleared node has rested, with cleared children. -/
theorem body_cleared (node : Node A) : node.cleared.body = (node.body.map cleared).rested := by
  obtain ⟨tag, body⟩ := node
  rw [cleared_eq]

@[simp] theorem last_cleared (node : Node A) : node.cleared.last = none := by
  obtain ⟨tag, body⟩ := node
  rw [cleared_eq]
  rfl

/-- Whatever the agent does, a reset leaves the cleared node. -/
theorem reset_value (node : Node A) (place : Place) (stage : Stage A D) :
    (node.reset place stage).value = node.cleared := by
  induction node using Node.induction generalizing place stage with
  | step tag body inductionHypothesis =>
      have visited (middle : Stage A D) :
          (body.rested.visit (fun position child => child.reset (position :: place)) middle).value =
            body.rested.map cleared := by
        apply Body.visit_value
        intro child member position stage
        rw [Body.children_rested] at member
        exact inductionHypothesis child member (position :: place) stage
      rw [reset_eq, cleared_eq, Body.rested_map]
      simp only [Run.bind_apply, Run.pure_apply, Body.forget_cancel_value, visited, Tag.clear_value]

/-- To reset all children clears them. -/
theorem visit_reset_value (body : Body A (Node A)) (place : Place) (stage : Stage A D) :
    (body.visit (fun position child => child.reset (position :: place)) stage).value =
      body.map cleared :=
  Body.visit_value (fun child _ position stage => child.reset_value (position :: place) stage) stage

/-- A cleared node has nothing left to reset. -/
theorem reset_cleared (node : Node A) (place : Place) :
    (node.cleared.reset place : Run A D (Node A)) = pure node.cleared := by
  induction node using Node.induction generalizing place with
  | step tag body inductionHypothesis =>
      have visited : ((body.map cleared).rested.visit
          fun position child => (child.reset (position :: place) : Run A D (Node A))) =
            pure (body.map cleared).rested := by
        apply Body.visit_unmoved
        intro child member position
        rw [Body.children_rested, Body.children_map, List.mem_map] at member
        obtain ⟨original, member, rfl⟩ := member
        exact inductionHypothesis original member (position :: place)
      rw [cleared_eq, reset_eq, Tag.clear_idle, pure_bind, Body.cancel_rested, pure_bind,
        Body.forget_rested, visited, pure_bind]

/-- A second reset of the children does nothing. -/
theorem visit_reset_twice (body : Body A (Node A)) (place : Place) :
    ((do
      let body ← body.visit fun position child => child.reset (position :: place)
      body.forget.visit fun position child => child.reset (position :: place)) :
        Run A D (Body A (Node A))) =
      body.forget.visit fun position child => child.reset (position :: place) := by
  rw [Body.visit_forget]
  apply Run.bind_congr_value
  intro stage
  rw [visit_reset_value, Body.forget_map]
  apply Body.visit_unmoved
  intro child member position
  rw [Body.children_map, Body.children_forget, List.mem_map] at member
  obtain ⟨original, _, rfl⟩ := member
  exact original.reset_cleared (position :: place)

/-- An abort cancels and clears exactly what a reset does, in the same order. -/
theorem abort_eq_reset (node : Node A) (place : Place) :
    (node.abort place : Run A D (Node A)) = node.reset place := by
  induction node using Node.induction generalizing place with
  | step tag body inductionHypothesis =>
      have visited : (body.visit fun position child =>
          (child.abort (position :: place) : Run A D (Node A))) =
            body.visit fun position child => child.reset (position :: place) :=
        Body.visit_congr fun child member position =>
          inductionHypothesis child member (position :: place)
      rw [abort_eq, reset_eq, visited]
      congr 1
      funext tag
      have swapped := congrArg (· >>= fun visited => do
          let visited ← visited.forget.visit fun position (child : Node A) =>
            child.reset (position :: place)
          pure (⟨tag, visited⟩ : Node A))
        (Body.visit_cancel (fun position child =>
          (child.reset (position :: place) : Run A D (Node A))) body place)
      simp only [bind_assoc] at swapped
      rw [swapped]
      congr 1
      funext cancelled
      rw [← bind_assoc, visit_reset_twice]

/-- An abort within a tick is reported if the node is running, and clears the node unless the
sink panics at the report. -/
inductive AbortsIn (context : Context D) (node : Node A) :
    Trace A → Except Panic Unit → Node A → Prop
  | silent {before after : Stage A D} {clearing : Trace A} (idle : node.isRunning = false)
      (resets : (node.reset context.place).Leads before clearing node.cleared after) :
      AbortsIn context node clearing (.ok ()) node.cleared
  | reported {before after : Stage A D} {telling clearing : Trace A}
      (running : node.isRunning = true) (tells : context.Tells (.aborted node.info) telling)
      (resets : (node.reset context.place).Leads before clearing node.cleared after) :
      AbortsIn context node
        (⟨context.place, .output (.record (.aborting node.info context.clock.frame))⟩ ::
          (telling ++ clearing)) (.ok ()) node.cleared
  | unwound {telling : Trace A} {panic : Panic} (running : node.isRunning = true)
      (tells : context.Tells (.aborted node.info) telling) :
      AbortsIn context node
        (⟨context.place, .output (.record (.aborting node.info context.clock.frame))⟩ :: telling)
        (.error panic) node

/-- An abort is a reset to its last detail. -/
theorem abort_leads {node after : Node A} {place : Place} {before final : Stage A D}
    {trace : Trace A} {result : Except Panic Unit}
    (aborts : (do
      let node ← node.abort place
      pure ⟨node, .ok ()⟩ : Run A D (Attempt (Node A) Unit)).Leads before trace ⟨after, result⟩
        final) :
    after = node.cleared ∧ result = .ok () ∧
      (node.reset place).Leads before trace node.cleared final := by
  rw [abort_eq_reset] at aborts
  obtain ⟨cleared, resets, same⟩ := Run.leads_bind_pure.1 aborts
  obtain ⟨rfl, rfl⟩ := Attempt.mk.inj same
  obtain rfl : node.cleared = after :=
    (node.reset_value place before).symm.trans (congrArg Outcome.value resets)
  exact ⟨rfl, rfl, by simpa using resets⟩

/-- An abort in a context is told of first, and then resets the node. -/
theorem abortsIn_of_abortIn {context : Context D} {node after : Node A} {before final : Stage A D}
    {trace : Trace A} {result : Except Panic Unit}
    (aborted : (node.abortIn context).Leads before trace ⟨after, result⟩ final) :
    AbortsIn context node trace result after := by
  obtain ⟨reported, middle, earlier, later, asked, ended, rfl⟩ := Run.leads_bind.1 aborted
  unfold reportAbort at asked
  cases running : node.isRunning with
  | false =>
      simp only [running, Bool.false_eq_true, if_false] at asked
      obtain ⟨rfl, rfl, rfl⟩ := Run.leads_pure.1 asked
      obtain ⟨rfl, rfl, resets⟩ := abort_leads ended
      exact .silent running resets
  | true =>
      simp only [running, if_true] at asked
      obtain ⟨_, _, _, telling, wrote, notified, rfl⟩ := Run.leads_bind.1 asked
      obtain ⟨rfl, rfl⟩ := Run.leads_write.1 wrote
      have tells := Context.tells_of_notify notified
      cases reported with
      | error panic =>
          obtain ⟨same, rfl, rfl⟩ := Run.leads_pure.1 ended
          obtain ⟨rfl, rfl⟩ := Attempt.mk.inj same
          simpa using AbortsIn.unwound running tells
      | ok =>
          obtain ⟨rfl, rfl, resets⟩ := abort_leads ended
          exact .reported running tells resets

end Node

end Behavior
