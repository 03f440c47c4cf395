import Behavior.Agent
import Behavior.Identity
import Behavior.Policy
import Behavior.Positions

namespace Behavior

/-- A tag names a node and keeps the status of its last tick. -/
structure Tag where
  id : NodeId
  label : Option String
  last : Option Status
  deriving DecidableEq, Repr

/-- An idle tag has no last status. -/
def Tag.idle (tag : Tag) : Tag := { tag with last := none }

/-- A leaf uses the agent. An asynchronous action remembers the operation that it waits for. -/
inductive Leaf (A : Agent) where
  | condition (predicate : A.Predicate)
  | action (action : A.Action)
  | asyncAction (starter : A.Starter) (pending : Option A.Operation)

/-- A decorator changes the status or the timing of one child. -/
inductive Decorator (A : Agent) where
  | guard (predicate : A.Predicate)
  | invert
  | forceSuccess
  | forceFailure
  | repeating (times count : Nat)
  | retrying (times attempts : Nat)
  | timeout (limit elapsed : Float32)
  | cooldown (period remaining : Float32)
  | whileTrue (predicate : A.Predicate)
  | reactiveGuard (predicate : A.Predicate)

/-- A switch tells what happens to a running branch when the condition routes to the other. -/
inductive BranchSwitch where
  | abort
  | keep
  deriving DecidableEq, Repr

def BranchSwitch.text : BranchSwitch → String
  | abort => "Abort"
  | keep => "Keep"

inductive Branch where
  | yes
  | no
  deriving DecidableEq, Repr

def Branch.ofBool : Bool → Branch
  | true => .yes
  | false => .no

/-- The position of a branch among the children. -/
def Branch.position : Branch → Nat
  | yes => 0
  | no => 1

/-- A choice routes each tick to one of two branches. The active branch returned running
on the previous tick. -/
structure Choice (A : Agent) where
  predicate : A.Predicate
  switch : BranchSwitch
  active : Option Branch

/-- A composite ticks a list of children. A running position is the child from which it
resumes, or one that it has to preempt; the outcomes are those of the current run. -/
inductive Composite where
  | selector (running : Option Nat)
  | sequence (running : Option Nat)
  | parallel (policy : Policy) (outcomes : List (Option Status))
  | reactiveSelector (running : Positions)
  | reactiveSequence (running : Option Nat)
  deriving DecidableEq, Repr

/-- A body is the shape of a node over any type of children. -/
inductive Body (A : Agent) (Child : Type) where
  | leaf (leaf : Leaf A)
  | decorator (decorator : Decorator A) (child : Child)
  | choice (choice : Choice A) (yes : Child) (no : Option Child)
  | composite (composite : Composite) (children : List Child)

structure Node (A : Agent) where
  tag : Tag
  body : Body A (Node A)

variable {A : Agent}

def Leaf.kind : Leaf A → Kind
  | condition _ => .condition
  | action _ => .action
  | asyncAction _ _ => .asyncAction

def Decorator.kind : Decorator A → Kind
  | guard _ => .guard
  | invert => .invert
  | forceSuccess => .forceSuccess
  | forceFailure => .forceFailure
  | repeating _ _ => .repeating
  | retrying _ _ => .retrying
  | timeout _ _ => .timeout
  | cooldown _ _ => .cooldown
  | whileTrue _ => .whileTrue
  | reactiveGuard _ => .reactiveGuard

def Composite.kind : Composite → Kind
  | selector _ => .selector
  | sequence _ => .sequence
  | parallel _ _ => .parallel
  | reactiveSelector _ => .reactiveSelector
  | reactiveSequence _ => .reactiveSequence

namespace Body

variable {Child Other : Type}

def kind : Body A Child → Kind
  | .leaf own => own.kind
  | .decorator own _ => own.kind
  | .choice _ _ _ => .ifElse
  | .composite own _ => own.kind

/-- The children stand in the order in which they are numbered and shown. -/
def children : Body A Child → List Child
  | .leaf _ => []
  | .decorator _ child => [child]
  | .choice _ yes no => yes :: no.toList
  | .composite _ children => children

def map (change : Child → Other) : Body A Child → Body A Other
  | .leaf own => .leaf own
  | .decorator own child => .decorator own (change child)
  | .choice own yes no => .choice own (change yes) (no.map change)
  | .composite own children => .composite own (children.map change)

/-- A list is visited from the given position on, in order. -/
def visitFrom {M : Type → Type} [Monad M] (visit : Nat → Child → M Other) :
    Nat → List Child → M (List Other)
  | _, [] => pure []
  | position, child :: rest => do
      let other ← visit position child
      let others ← visitFrom visit (position + 1) rest
      pure (other :: others)

/-- The children are visited in order, each with its position. -/
def visit {M : Type → Type} [Monad M] (visit : Nat → Child → M Other) :
    Body A Child → M (Body A Other)
  | .leaf own => pure (.leaf own)
  | .decorator own child => return .decorator own (← visit 0 child)
  | .choice own yes (some no) => return .choice own (← visit 0 yes) (some (← visit 1 no))
  | .choice own yes none => return .choice own (← visit 0 yes) none
  | .composite own children => return .composite own (← visitFrom visit 0 children)

@[simp] theorem children_map (change : Child → Other) (body : Body A Child) :
    (body.map change).children = body.children.map change := by
  cases body with
  | leaf => rfl
  | decorator => rfl
  | choice _ _ no => cases no <;> rfl
  | composite => rfl

@[simp] theorem kind_map (change : Child → Other) (body : Body A Child) :
    (body.map change).kind = body.kind := by
  cases body <;> rfl

@[simp] theorem map_map {Middle : Type} (first : Child → Middle) (second : Middle → Other)
    (body : Body A Child) : (body.map first).map second = body.map (second ∘ first) := by
  cases body with
  | leaf => rfl
  | decorator => rfl
  | choice _ _ no => cases no <;> rfl
  | composite => simp [map]

@[simp] theorem map_id (body : Body A Child) : body.map id = body := by
  cases body with
  | leaf => rfl
  | decorator => rfl
  | choice _ _ no => cases no <;> rfl
  | composite => simp [map]

theorem visitFrom_map {Middle : Type} {M : Type → Type} [Monad M] (change : Child → Middle)
    (visit : Nat → Middle → M Other) (position : Nat) (children : List Child) :
    visitFrom visit position (children.map change) =
      visitFrom (fun position child => visit position (change child)) position children := by
  induction children generalizing position with
  | nil => rfl
  | cons child rest inductionHypothesis => simp [visitFrom, inductionHypothesis]

/-- A visit of changed children is a visit that changes them first. -/
theorem visit_map {Middle : Type} {M : Type → Type} [Monad M] (change : Child → Middle)
    (visit : Nat → Middle → M Other) (body : Body A Child) :
    (body.map change).visit visit =
      body.visit fun position child => visit position (change child) := by
  cases body with
  | leaf => rfl
  | decorator => rfl
  | choice _ _ no => cases no <;> rfl
  | composite => simp [map, Body.visit, visitFrom_map]

end Body

/-- A part is a child together with what a recursion has computed from it. -/
structure Part (A : Agent) (Value : Type) where
  node : Node A
  value : Value

namespace Node

mutual

/-- A fold computes the value of a node from its tag and from the parts of its body. -/
def fold {Value : Type} (step : Tag → Body A (Part A Value) → Value) : Node A → Value
  | ⟨tag, body⟩ => step tag (foldBody step body)

def foldBody {Value : Type} (step : Tag → Body A (Part A Value) → Value) :
    Body A (Node A) → Body A (Part A Value)
  | .leaf own => .leaf own
  | .decorator own child => .decorator own ⟨child, fold step child⟩
  | .choice own yes no => .choice own ⟨yes, fold step yes⟩ (foldBranch step no)
  | .composite own children => .composite own (foldList step children)

def foldBranch {Value : Type} (step : Tag → Body A (Part A Value) → Value) :
    Option (Node A) → Option (Part A Value)
  | some node => some ⟨node, fold step node⟩
  | none => none

def foldList {Value : Type} (step : Tag → Body A (Part A Value) → Value) :
    List (Node A) → List (Part A Value)
  | [] => []
  | node :: rest => ⟨node, fold step node⟩ :: foldList step rest

end

theorem foldBody_eq_map {Value : Type} (step : Tag → Body A (Part A Value) → Value)
    (body : Body A (Node A)) :
    foldBody step body = body.map fun node => ⟨node, node.fold step⟩ := by
  cases body with
  | leaf => rfl
  | decorator => rfl
  | choice _ _ no => cases no <;> rfl
  | composite own children =>
      have list : foldList step children = children.map fun node => ⟨node, node.fold step⟩ := by
        induction children with
        | nil => rfl
        | cons node rest inductionHypothesis => simp [foldList, inductionHypothesis]
      simp [foldBody, Body.map, list]

/-- A fold takes a node after its children. -/
theorem fold_eq {Value : Type} (step : Tag → Body A (Part A Value) → Value) (tag : Tag)
    (body : Body A (Node A)) :
    fold step ⟨tag, body⟩ = step tag (body.map fun node => ⟨node, node.fold step⟩) := by
  rw [fold, foldBody_eq_map]

theorem map_node {Value : Type} (value : Node A → Value) (body : Body A (Node A)) :
    (body.map fun node => (⟨node, value node⟩ : Part A Value)).map Part.node = body := by
  rw [Body.map_map]
  exact Body.map_id body

/-- What passes from the children of every node to the node holds of all nodes. -/
theorem induction {Property : Node A → Prop}
    (step : ∀ tag body, (∀ child ∈ body.children, Property child) → Property ⟨tag, body⟩)
    (node : Node A) : Property node := by
  refine Node.rec (motive_1 := Property)
    (motive_2 := fun body => ∀ child ∈ body.children, Property child)
    (motive_3 := fun branch => ∀ child ∈ branch.toList, Property child)
    (motive_4 := fun children => ∀ child ∈ children, Property child)
    step ?_ ?_ ?_ ?_ ?_ ?_ ?_ ?_ node
  · simp [Body.children]
  · intro decorator child holds
    simpa [Body.children] using holds
  · intro choice yes no holdsYes holdsNo
    simpa [Body.children] using
      ⟨holdsYes, fun child member => holdsNo child (by simpa using member)⟩
  · intro composite children holds
    simpa [Body.children] using holds
  · simp
  · intro node holds
    simpa using holds
  · simp
  · intro node rest holds holdsRest
    simpa using ⟨holds, holdsRest⟩

def id (node : Node A) : NodeId := node.tag.id

def label (node : Node A) : Option String := node.tag.label

/-- The status of the last tick, as long as the node has not been reset since. -/
def last (node : Node A) : Option Status := node.tag.last

def kind (node : Node A) : Kind := node.body.kind

def children (node : Node A) : List (Node A) := node.body.children

def isRunning (node : Node A) : Bool := node.last == some .running

def info (node : Node A) : NodeInfo := ⟨node.id, node.kind, node.label⟩

/-- A preorder lists a node before its descendants. -/
def preorder : Node A → List (Node A) :=
  fold fun tag body => ⟨tag, body.map Part.node⟩ :: body.children.flatMap Part.value

/-- A node comes before those below it. -/
theorem preorder_eq (tag : Tag) (body : Body A (Node A)) :
    preorder ⟨tag, body⟩ = ⟨tag, body⟩ :: body.children.flatMap preorder := by
  rw [preorder, fold_eq]
  simp only [map_node, Body.children_map, List.flatMap_map]

/-- The search takes the node itself if it has the number, and else what is found first below one of
its children. -/
def find? : Node A → NodeId → Option (Node A) :=
  fold fun tag body id =>
    if tag.id = id then some ⟨tag, body.map Part.node⟩
    else body.children.findSome? fun part => part.value id

/-- The first node with the number is found, in preorder. -/
theorem find?_eq (tag : Tag) (body : Body A (Node A)) (id : NodeId) :
    find? ⟨tag, body⟩ id =
      if tag.id = id then some ⟨tag, body⟩
      else body.children.findSome? fun child => child.find? id := by
  rw [find?, fold_eq]
  simp only [map_node, Body.children_map, List.findSome?_map]
  rfl

/-- A node is numbered before its descendants, from the next free number on. -/
def number : Node A → StateM UInt32 (Node A) :=
  fold fun tag body => do
    let next ← getModify (· + 1)
    let body ← body.visit fun _ part => part.value
    pure ⟨{ tag with id := ⟨next⟩ }, body⟩

/-- A node takes the next number before its children do. -/
theorem number_eq (tag : Tag) (body : Body A (Node A)) :
    number ⟨tag, body⟩ = (do
      let next ← getModify (· + 1)
      let body ← body.visit fun _ child => child.number
      pure ⟨{ tag with id := ⟨next⟩ }, body⟩) := by
  rw [number, fold_eq]
  simp only [Body.visit_map]

end Node

end Behavior
