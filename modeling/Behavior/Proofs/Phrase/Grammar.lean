import Behavior.Proofs.Node.Pristine
import Mathlib.Data.List.Flatten

namespace Behavior

variable {A : Agent}

/-- A mark is a notice, or a use of a predicate, an action or a starter. -/
inductive Mark (A : Agent) where
  | told (notice : Notice)
  | used (call : Call A)

def Event.mark? : Event A → Option (Mark A)
  | .notice message => some (.told message)
  | .call (.tested predicate outcome) => some (.used (.tested predicate outcome))
  | .call (.acted deed clock outcome) => some (.used (.acted deed clock outcome))
  | .call (.started starter outcome) => some (.used (.started starter outcome))
  | _ => none

/-- The marks of a trace, in their order. -/
def Trace.marks (trace : Trace A) : List (Mark A) :=
  trace.filterMap fun entry => entry.event.mark?

/-- The marks of a trace come part by part. -/
@[simp] theorem Trace.marks_append (first second : Trace A) :
    marks (first ++ second) = marks first ++ marks second :=
  List.filterMap_append

/-- These kinds evaluate a predicate on every tick. -/
def Kind.evaluates : Kind → Bool
  | condition | guard | ifElse | whileTrue | reactiveGuard => true
  | _ => false

/-- A body makes calls of its own predicate, action or starter only, and tells an action the clock. -/
inductive Body.Makes {Child : Type} (clock : Clock) : Body A Child → Call A → Prop
  | tested {predicate : A.Predicate} {outcome : Except Panic Bool} :
      Makes clock (.leaf (.condition predicate)) (.tested predicate outcome)
  | acted {deed : A.Action} {outcome : Except Panic Status} :
      Makes clock (.leaf (.action deed)) (.acted deed clock outcome)
  | started {starter : A.Starter} {pending : Option A.Operation}
      {outcome : Except Panic A.Operation} :
      Makes clock (.leaf (.asyncAction starter pending)) (.started starter outcome)
  | asked {body : Body A Child} {predicate : A.Predicate} {outcome : Except Panic Bool}
      (asks : body.predicate? = some predicate) : Makes clock body (.tested predicate outcome)

namespace Body

variable {Child Other : Type} {clock : Clock}

/-- A predicate is part of how a body was built. -/
theorem predicate?_pristine (change : Child → Other) (body : Body A Child) :
    (body.map change).pristine.predicate? = body.predicate? := by
  cases body with
  | leaf | choice | composite => rfl
  | decorator own => cases own <;> rfl

/-- What a body makes does not depend on what it remembers. -/
theorem makes_pristine (change : Child → Other) (body : Body A Child) :
    (body.map change).pristine.Makes clock = body.Makes clock := by
  funext call
  apply propext
  constructor
  · intro makes
    generalize same : (body.map change).pristine = other at makes
    cases makes with
    | asked asks =>
        rw [← same, predicate?_pristine] at asks
        exact .asked asks
    | tested | acted | started =>
        match body with
        | .leaf own =>
            cases own <;> cases same
            constructor
        | .decorator .. => cases same
        | .choice .. => cases same
        | .composite .. => cases same
  · intro makes
    cases makes with
    | tested => exact .tested
    | acted => exact .acted
    | started => exact .started
    | asked asks => exact .asked (by rwa [predicate?_pristine])

end Body

/-- Nodes that were built the same make the same calls. -/
theorem Node.makes_of_pristine {node other : Node A} (built : other.pristine = node.pristine)
    (clock : Clock) : other.body.Makes clock = node.body.Makes clock := by
  rw [← Body.makes_pristine pristine other.body, ← Body.makes_pristine pristine node.body,
    ← body_pristine, ← body_pristine, built]

/-- A remark is what a node tells about one of its children: its abort, or a phrase. -/
inductive Remark (A : Agent) where
  | aborted (position : Nat) (node : NodeInfo)
  | ticked (position : Nat) (phrase : List (Mark A))

namespace Remark

/-- The position of the child that a remark is about. -/
def position : Remark A → Nat
  | aborted position _ => position
  | ticked position _ => position

/-- The position of the child that the remark has ticked. -/
def ticked? : Remark A → Option Nat
  | aborted _ _ => none
  | ticked position _ => some position

def marks : Remark A → List (Mark A)
  | aborted _ node => [.told (.aborted node)]
  | ticked _ phrase => phrase

end Remark

/-- The phrase of a node starts when the node is entered and ends when the same node is left, both
with the same clock. At its beginning stands the only use that the node itself makes of the agent,
and the value of the predicate if the kind evaluates one. Then the children are remarked on: each
remark is about a child of the node, and phrases come in the order of the children. -/
inductive Node.Phrase (clock : Clock) : Node A → List (Mark A) → Prop
  | told {node : Node A} {use : Option (Call A)} {value : Option Bool} {remarks : List (Remark A)}
      {status : Status} (makes : ∀ call ∈ use, node.body.Makes clock call)
      (evaluates : value.isSome = node.kind.evaluates)
      (answers : ∀ answer ∈ value, ∃ predicate, use = some (.tested predicate (.ok answer)))
      (inside : ∀ remark ∈ remarks, remark.position < node.children.length)
      (aborted : ∀ position info, .aborted position info ∈ remarks →
        ∀ child : Node A, node.children[position]? = some child → info = child.info)
      (ticked : ∀ position phrase, .ticked position phrase ∈ remarks →
        ∀ child : Node A, node.children[position]? = some child → Phrase clock child phrase)
      (ascending : (remarks.filterMap Remark.ticked?).Pairwise (· < ·)) :
      Phrase clock node
        (.told (.entered node.info clock) :: (use.map .used).toList ++
          (value.map fun value => .told (.evaluated node.info value)).toList ++
            remarks.flatMap Remark.marks ++ [.told (.left node.info status clock)])

/-- The node that a mark enters. -/
def Mark.entered? : Mark A → Option NodeInfo
  | told (.entered node _) => some node
  | _ => none

/-- The nodes that some marks enter, in their order. -/
def entries (marks : List (Mark A)) : List NodeInfo := marks.filterMap Mark.entered?

/-- Remarks on children in order enter only what is below the children, in the same order. -/
theorem entries_of_remarks {children : List (Node A)} {remarks : List (Remark A)}
    (start : Nat) (inside : ∀ remark ∈ remarks, remark.position < children.length)
    (below : ∀ position phrase, .ticked position phrase ∈ remarks →
      ∀ child : Node A, children[position]? = some child →
        (entries phrase).Sublist (child.preorder.map Node.info))
    (ascending : (remarks.filterMap Remark.ticked?).Pairwise (· < ·))
    (behind : ∀ position ∈ remarks.filterMap Remark.ticked?, start ≤ position) :
    (entries (remarks.flatMap Remark.marks)).Sublist
      (((children.drop start).flatMap Node.preorder).map Node.info) := by
  induction remarks generalizing start with
  | nil => exact List.nil_sublist _
  | cons remark remarks inductionHypothesis =>
      have insideRest : ∀ remark ∈ remarks, remark.position < children.length :=
        fun other member => inside other (List.mem_cons_of_mem _ member)
      have belowRest : ∀ position phrase, .ticked position phrase ∈ remarks →
          ∀ child : Node A, children[position]? = some child →
            (entries phrase).Sublist (child.preorder.map Node.info) :=
        fun position phrase member => below position phrase (List.mem_cons_of_mem _ member)
      cases remark with
      | aborted => exact inductionHypothesis start insideRest belowRest ascending behind
      | ticked position phrase =>
          obtain ⟨before, ascending⟩ := List.pairwise_cons.1 ascending
          have reached : start ≤ position := behind position List.mem_cons_self
          have bound : position < children.length := inside _ List.mem_cons_self
          have head := below position phrase List.mem_cons_self _ (List.getElem?_eq_getElem bound)
          have tail := inductionHypothesis (position + 1) insideRest belowRest ascending before
          have split : ((children.drop position).flatMap Node.preorder).map Node.info =
              (children[position].preorder).map Node.info ++
                ((children.drop (position + 1)).flatMap Node.preorder).map Node.info := by
            rw [List.drop_eq_getElem_cons bound, List.flatMap_cons, List.map_append]
          have later : (children.drop position).Sublist (children.drop start) :=
            List.drop_sublist_drop_left children reached
          have marked : entries ((Remark.ticked position phrase :: remarks).flatMap Remark.marks) =
              entries phrase ++ entries (remarks.flatMap Remark.marks) := by
            rw [List.flatMap_cons, entries, List.filterMap_append]
            rfl
          rw [marked]
          refine (head.append tail).trans ?_
          rw [← split]
          exact (later.flatMap Node.preorder).map Node.info

/-- A phrase enters the node first, and then some of its descendants in preorder, each at most
once. -/
theorem Node.Phrase.entries_sublist {clock : Clock} {node : Node A} {marks : List (Mark A)}
    (phrase : node.Phrase clock marks) :
    (entries marks).head? = some node.info ∧
      (entries marks).Sublist (node.preorder.map Node.info) := by
  induction phrase with
  | @told node use value remarks status makes evaluates answers inside aborted ticked ascending
      inductionHypothesis =>
      have below := entries_of_remarks 0 inside
        (fun position phrase member child present =>
          (inductionHypothesis position phrase member child present).2)
        ascending fun _ _ => Nat.zero_le _
      rw [List.drop_zero] at below
      have used : (use.map Mark.used).toList.filterMap Mark.entered? = [] := by
        cases use <;> rfl
      have evaluated : ((value.map fun value => Mark.told (A := A) (.evaluated node.info value)).toList
          ).filterMap Mark.entered? = [] := by
        cases value <;> rfl
      have entered : entries (.told (.entered node.info clock) :: (use.map Mark.used).toList ++
          (value.map fun value => .told (.evaluated node.info value)).toList ++
            remarks.flatMap Remark.marks ++ [.told (.left node.info status clock)]) =
          node.info :: entries (remarks.flatMap Remark.marks) := by
        simp only [entries, List.cons_append, List.filterMap_cons, List.filterMap_append, used,
          evaluated, Mark.entered?, List.nil_append, List.filterMap_nil, List.append_nil]
      rw [entered, preorder_eq_cons, List.map_cons]
      exact ⟨rfl, below.cons_cons node.info⟩

end Behavior
