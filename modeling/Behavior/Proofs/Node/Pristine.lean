import Behavior.Proofs.Touch.Node

namespace Behavior

variable {A : Agent} {D : Type}

/-- A pristine decorator has neither counted nor timed anything. -/
def Decorator.pristine : Decorator A → Decorator A
  | .cooldown period _ => .cooldown period 0
  | own => own.forget

@[simp] theorem Decorator.pristine_forget (own : Decorator A) :
    own.forget.pristine = own.pristine := by
  cases own <;> rfl

/-- There is nothing more to release. -/
@[simp] theorem Leaf.released_released (own : Leaf A) : own.released.released = own.released := by
  cases own <;> rfl

namespace Body

variable {Child Other : Type}

/-- A pristine body remembers nothing, not even the remaining time of a cooldown. -/
def pristine : Body A Child → Body A Child
  | .leaf own => .leaf own.released
  | .decorator own child => .decorator own.pristine child
  | .choice own yes no => .choice own.forget yes no
  | .composite own children => .composite own.forget children

@[simp] theorem children_pristine (body : Body A Child) :
    body.pristine.children = body.children := by
  cases body <;> rfl

@[simp] theorem pristine_map (change : Child → Other) (body : Body A Child) :
    (body.map change).pristine = body.pristine.map change := by
  cases body <;> rfl

@[simp] theorem pristine_rested (body : Body A Child) : body.rested.pristine = body.pristine := by
  cases body with
  | leaf | choice => simp [rested, pristine, Choice.forget]
  | decorator => simp [rested, pristine]
  | composite => simp [rested, pristine, Composite.forget_forget]

@[simp] theorem kind_pristine (body : Body A Child) : body.pristine.kind = body.kind := by
  cases body with
  | leaf own => cases own <;> rfl
  | decorator own => cases own <;> rfl
  | choice => rfl
  | composite own => cases own <;> rfl

/-- The shape of a body is what it is apart from its children. -/
def shape (body : Body A Child) : Body A Unit := body.map fun _ => ()

@[simp] theorem shape_map (change : Child → Other) (body : Body A Child) :
    (body.map change).shape = body.shape := by
  rw [shape, map_map]
  rfl

/-- A body is its shape and its children. -/
theorem eq_of_shape {body other : Body A Child} (shapes : body.shape = other.shape)
    (children : body.children = other.children) : body = other := by
  cases body with
  | leaf | decorator | composite => cases other <;> simp_all [shape, map, Body.children]
  | choice _ _ no =>
      cases other with
      | choice _ _ no' => cases no <;> cases no' <;> simp_all [shape, map, Body.children]
      | leaf | decorator | composite => simp_all [shape, map]

end Body

namespace Node

/-- A pristine node is as it was built, apart from its number and label. -/
def pristine : Node A → Node A :=
  fold fun tag body => ⟨tag.idle, (body.map Part.value).pristine⟩

theorem pristine_eq (tag : Tag) (body : Body A (Node A)) :
    pristine ⟨tag, body⟩ = ⟨tag.idle, (body.map pristine).pristine⟩ := by
  rw [pristine, fold_eq, Body.map_map]
  rfl

theorem descends_pristine : Descends (pristine (A := A)) := by
  rintro ⟨tag, body⟩
  simp [pristine_eq, children]

@[simp] theorem children_pristine (node : Node A) :
    node.pristine.children = node.children.map pristine :=
  descends_pristine node

@[simp] theorem tag_pristine (node : Node A) : node.pristine.tag = node.tag.idle := by
  obtain ⟨tag, body⟩ := node
  rw [pristine_eq]

/-- A pristine body has pristine children. -/
theorem body_pristine (node : Node A) :
    node.pristine.body = (node.body.map pristine).pristine := by
  obtain ⟨tag, body⟩ := node
  rw [pristine_eq]

/-- Nodes that are built of the same differ in their shapes only by what they remember. -/
theorem shape_of_pristine {node other : Node A} (built : other.pristine = node.pristine) :
    other.body.pristine.shape = node.body.pristine.shape := by
  have shapes := congrArg (fun node : Node A => node.body.shape) built
  simpa only [body_pristine, Body.pristine_map, Body.shape_map] using shapes

@[simp] theorem info_pristine (node : Node A) : node.pristine.info = node.info := by
  simp [info, id, label, kind, Tag.idle, body_pristine]

/-- Nodes that are built of the same have the same number, kind and label. -/
theorem info_of_pristine {node other : Node A} (built : other.pristine = node.pristine) :
    other.info = node.info := by
  rw [← info_pristine, built, info_pristine]

/-- Nodes that are built of the same have the same paths. -/
theorem descendant?_of_pristine {node other part : Node A} {path : Place}
    (built : other.pristine = node.pristine) (leads : node.descendant? path = some part) :
    ∃ twin, other.descendant? path = some twin ∧ twin.pristine = part.pristine := by
  have same := congrArg (Node.descendant? · path) built
  rw [descends_pristine.descendant?, descends_pristine.descendant?, leads, Option.map_some,
    Option.map_eq_some_iff] at same
  exact same

/-- A cleared node has been built the same. -/
@[simp] theorem pristine_cleared (node : Node A) : node.cleared.pristine = node.pristine := by
  induction node using Node.induction with
  | step tag body inductionHypothesis =>
      have below : (body.map cleared).map pristine = body.map pristine := by
        apply Body.eq_of_shape
        · simp
        · simpa using inductionHypothesis
      rw [cleared_eq, pristine_eq, pristine_eq, Body.pristine_map, Body.pristine_rested,
        ← Body.pristine_map, below]
      rfl

/-- A node that keeps its tag, the shape of its body and what its children are built of is built
of the same. -/
theorem pristine_congr {node changed : Node A} (tags : changed.tag.idle = node.tag.idle)
    (shapes : changed.body.shape.pristine = node.body.shape.pristine)
    (below : changed.children.map pristine = node.children.map pristine) :
    changed.pristine = node.pristine := by
  obtain ⟨tag, body⟩ := node
  obtain ⟨changedTag, changedBody⟩ := changed
  rw [pristine_eq, pristine_eq, tags]
  congr 1
  apply Body.eq_of_shape
  · simpa [Body.shape] using shapes
  · simpa [children] using below

end Node

/-- Deciding and settling only counts and times. -/
theorem Decorator.pristine_decide (own : Decorator A) (clock : Clock) (answer running : Bool) :
    (own.decide clock answer running).1.pristine = own.pristine := by
  cases own with
  | timeout limit elapsed =>
      rw [decide]
      split <;> rfl
  | cooldown period remaining =>
      rw [decide]
      split <;> rfl
  | _ => rfl

/-- The end of a round changes a count alone. -/
theorem Decorator.pristine_settleRound {own : Nat → Decorator A}
    (same : ∀ count, (own count).pristine = (own 0).pristine) (goal status : Status)
    (times count : Nat) :
    (settleRound own goal times count status).own.pristine = (own count).pristine := by
  cases status with
  | running => rfl
  | success | failure =>
      simp only [settleRound]
      repeat' split
      all_goals simp [same (count + 1), same count]

/-- A status of the child changes what a decorator remembers, not what it is. -/
theorem Decorator.pristine_settle (own : Decorator A) (status : Status) :
    (own.settle status).own.pristine = own.pristine := by
  cases own with
  | repeating | retrying => exact pristine_settleRound (fun _ => rfl) ..
  | _ => rfl

/-- A decorator stays what it was built as, whatever it goes through. -/
theorem Decorator.Plays.pristine {clock : Clock} {answer running : Bool} {own next : Decorator A}
    {touches : List (Nat × Touch)} {result : Except Panic Status}
    (plays : own.Plays clock answer running touches result next) :
    next.pristine = own.pristine := by
  cases plays with
  | skipped decided | aborted _ decided | unwound _ decided =>
      rw [← own.pristine_decide clock answer running, decided]
  | ticked _ decided | renewed _ decided =>
      rw [pristine_settle, ← own.pristine_decide clock answer running, decided]

theorem Choice.forget_activate (own : Choice A) (branch : Branch) (result : Except Panic Status) :
    (own.activate branch result).forget = own.forget := by
  unfold activate
  split <;> rfl

/-- A choice stays what it was built as, whatever it goes through. -/
theorem Choice.Plays.forget {own next : Choice A} {hasNo answer : Bool}
    {touches : List (Nat × Touch)} {result : Except Panic Status}
    (plays : own.Plays hasNo answer touches result next) : next.forget = own.forget := by
  cases plays with
  | unwound | missing => rfl
  | routed => exact own.forget_activate _ _

/-- A composite that resumes stays what it was built as. -/
theorem Composite.Resumes.forget {own : Option Nat → Composite} {skip : Status}
    {running : Option Nat} {count : Nat} {touches : List (Nat × Touch)}
    {result : Except Panic Status} {next : Composite}
    (resumes : Resumes own skip running count touches result next)
    (same : ∀ first second, (own first).forget = (own second).forget) :
    next.forget = (own running).forget := by
  cases resumes <;> exact same _ _

/-- A reactive composite stays what it was built as. -/
theorem Composite.Reacts.forget {skip : Status} {running : List Nat} {kept unwound : Composite}
    {settled : Option Stop → Composite} {count : Nat} {touches : List (Nat × Touch)}
    {result : Except Panic Status} {next : Composite}
    (reacts : Reacts skip running kept unwound settled count touches result next)
    (unwinds : unwound.forget = kept.forget)
    (settles : ∀ stop, (settled stop).forget = kept.forget) :
    next.forget = kept.forget := by
  cases reacts with
  | scanUnwound => rfl
  | preemptionUnwound => exact unwinds
  | ended => exact settles _

/-- Whatever a composite plays, its kind and its policy stay. -/
theorem Composite.Plays.forget {count : Nat} {own next : Composite}
    {touches : List (Nat × Touch)} {result : Except Panic Status}
    (plays : Plays count own touches result next) : next.forget = own.forget := by
  cases plays with
  | selector resumes | sequence resumes => exact resumes.forget fun _ _ => rfl
  | parallel concurs => cases concurs <;> rfl
  | reactiveSelector reacts | reactiveSequence reacts => exact reacts.forget rfl fun _ => rfl

/-- A poll leaves the same action, with or without its operation. -/
theorem Leaf.released_of_poll {place : Place} {starter : A.Starter} {operation : A.Operation}
    {before after : Stage A D} {trace : Trace A} {next : Leaf A} {result : Except Panic Status}
    (polls : (Leaf.poll place starter operation).Leads before trace ⟨next, result⟩ after) :
    next.released = .asyncAction starter none := by
  obtain ⟨completed, _, _, _, _, ended, rfl⟩ := Run.leads_bind.1 polls
  cases completed with
  | false =>
      obtain ⟨rfl, _⟩ := Run.leads_attempt.1 ended
      rfl
  | true =>
      obtain ⟨_, _, rfl, _⟩ := Run.leads_bind_attempt.1 ended
      rfl

/-- A tick leaves the same leaf but for its operation. -/
theorem Leaf.released_of_tick {context : Context D} {info : NodeInfo} {own next : Leaf A}
    {before after : Stage A D} {trace : Trace A} {result : Except Panic Status}
    (ticks : (own.tick info context).Leads before trace ⟨next, result⟩ after) :
    next.released = own.released := by
  match own with
  | .condition predicate | .action deed =>
      obtain ⟨_, _, rfl, _⟩ := Run.leads_bind_attempt.1 ticks
      rfl
  | .asyncAction starter (some operation) => exact released_of_poll ticks
  | .asyncAction starter none =>
      obtain ⟨started, _, _, _, _, ended, rfl⟩ := Run.leads_bind.1 ticks
      match started with
      | .error panic =>
          obtain ⟨rfl, _⟩ := Run.leads_attempt.1 ended
          rfl
      | .ok operation => exact released_of_poll ended

namespace Body

variable {body changed : Body A (Node A)} {result : Except Panic Status}

/-- A body keeps the shape in which it was built. -/
theorem Plays.shape {clock : Clock} {answer : Bool} {touches : List (Nat × Touch)}
    (plays : body.Plays clock answer touches result changed) :
    changed.shape.pristine = body.shape.pristine := by
  cases plays with
  | decorator plays => simp [Body.shape, map, Body.pristine, plays.pristine]
  | choice plays kept =>
      simp only [Body.shape, map, Body.pristine, plays.forget, choice.injEq, true_and]
      rename_i no changedNo
      cases no <;> cases changedNo <;> simp_all
  | composite plays kept => simp [Body.shape, map, Body.pristine, plays.forget, List.map_const', kept]

/-- Whatever a body does in a tick, its shape stays the same but for what it remembers. -/
theorem Works.shape {context : Context D} {info : NodeInfo} {before after : Stage A D}
    {trace : Trace A} (works : body.Works context info before trace result changed after) :
    changed.shape.pristine = body.shape.pristine := by
  cases works with
  | leaf ticks => exact congrArg Body.leaf (Leaf.released_of_tick ticks)
  | refused => rfl
  | played _ _ plays => exact plays.shape

end Body

end Behavior
