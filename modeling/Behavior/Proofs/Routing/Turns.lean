import Behavior.Proofs.Idle.Treatment
import Behavior.Proofs.Touch.Entrances

namespace Behavior

variable {A : Agent} {D : Type}

/-- A turn is one use of a router: a tick, with the answer of the predicate and the status that it has
returned, or an abort or a reset of the router itself. -/
inductive Turn where
  | routed (answer : Bool) (status : Status)
  | aborted
  | reset

namespace Turn

/-- What the router undergoes in the turn. -/
def touch : Turn → Touch
  | routed _ status => .ticked (.ok status)
  | aborted => .aborted (.ok ())
  | reset => .reset

/-- The call that the router itself makes in the turn. -/
def call? (predicate : A.Predicate) : Turn → Option (Call A)
  | routed answer _ => some (.tested predicate (.ok answer))
  | _ => none

/-- The branch to which the turn has routed, if that has returned running. -/
def active : Turn → Option Branch
  | routed answer .running => some (Branch.ofBool answer)
  | _ => none

/-- What a turn does to a branch, if the previous turn has left one active. A tick is passed on to the
branch that it routes to. A switch that aborts ends the other branch if that has been active. A clearing
of the router clears both. -/
def share (switch : BranchSwitch) (previous : Option Branch) (branch : Branch) : Turn → List Touch
  | routed answer status =>
      if branch = Branch.ofBool answer then [.ticked (.ok status)]
      else if switch = .abort ∧ previous = some branch then [.aborted (.ok ())]
      else []
  | aborted | reset => [.reset]

/-- What was active before a turn matters only if a switch aborts it. -/
theorem share_congr {switch : BranchSwitch} {previous other : Option Branch} {branch : Branch}
    (same : switch = .abort → previous = other) (turn : Turn) :
    turn.share switch previous branch = turn.share switch other branch := by
  cases turn with
  | aborted | reset => rfl
  | routed answer status =>
      cases switch with
      | abort => rw [same rfl]
      | keep => simp [share]

/-- The share of a branch is calm. -/
theorem calm_share {switch : BranchSwitch} {previous : Option Branch} {branch : Branch} (turn : Turn) :
    ∀ touch ∈ turn.share switch previous branch, touch.Calm := by
  cases turn with
  | aborted | reset => exact List.forall_mem_singleton.2 trivial
  | routed answer status =>
      rw [share]
      by_cases here : branch = Branch.ofBool answer
      · rw [if_pos here]
        exact List.forall_mem_singleton.2 ⟨status, rfl⟩
      · rw [if_neg here]
        by_cases ended : switch = .abort ∧ previous = some branch
        · rw [if_pos ended]
          exact List.forall_mem_singleton.2 rfl
        · rw [if_neg ended]
          exact List.forall_mem_nil _

end Turn

/-- The branch that the last turn has left active. -/
def activeAfter (turns : List Turn) : Option Branch := turns.getLast?.bind Turn.active

/-- What some turns do to a branch, from a previous one on. -/
def sharesFrom (switch : BranchSwitch) (branch : Branch) : Option Branch → List Turn → List Touch
  | _, [] => []
  | previous, turn :: turns =>
      turn.share switch previous branch ++ sharesFrom switch branch turn.active turns

/-- What some turns do to a branch, from the first one on. -/
def shares (switch : BranchSwitch) (branch : Branch) (turns : List Turn) : List Touch :=
  sharesFrom switch branch none turns

/-- The last turn decides which branch is active. -/
@[simp] theorem activeAfter_concat (turns : List Turn) (turn : Turn) :
    activeAfter (turns ++ [turn]) = turn.active := by
  simp [activeAfter]

/-- A turn adds its share to the shares of the turns before. -/
theorem shares_concat (switch : BranchSwitch) (branch : Branch) (turns : List Turn) (turn : Turn) :
    shares switch branch (turns ++ [turn]) =
      shares switch branch turns ++ turn.share switch (activeAfter turns) branch := by
  suffices general : ∀ previous, sharesFrom switch branch previous (turns ++ [turn]) =
      sharesFrom switch branch previous turns ++
        turn.share switch ((turns.getLast?.elim previous Turn.active)) branch by
    have last : turns.getLast?.elim none Turn.active = activeAfter turns := by
      unfold activeAfter
      cases turns.getLast? <;> rfl
    rw [shares, general none, last, shares]
  induction turns with
  | nil => simp [sharesFrom]
  | cons first rest inductionHypothesis =>
      intro previous
      rw [List.cons_append, sharesFrom, inductionHypothesis, sharesFrom, List.append_assoc]
      cases rest with
      | nil => rfl
      | cons => simp [List.getLast?_eq_some_getLast]

/-- A branch that is left is aborted if the choice abandons it. -/
theorem Choice.Abandonment.touchesOf_left {own : Choice A} {hasNo : Bool} {branch : Branch}
    {touches : List (Nat × Touch)} (abandons : own.Abandonment hasNo branch touches (.ok ()))
    (present : branch.Present hasNo) : touchesOf branch.position touches =
      if own.switch = .abort ∧ own.active = some branch then [.aborted (.ok ())] else [] := by
  cases abandons with
  | aborted abandons =>
      rw [if_pos ⟨abandons.2, abandons.1⟩, touchesOf_cons_self]
      rfl
  | spared kept =>
      rw [if_neg fun both => kept ⟨both.2, both.1⟩ present]
      rfl

namespace Body

variable {Child : Type} {clock : Clock} {answer : Bool} {predicate : A.Predicate}
  {switch : BranchSwitch} {body changed : Body A (Node A)} {touches : List (Nat × Touch)}
  {status : Status}

/-- The predicate by which a body routes its ticks, and what happens on a switch. -/
def router? : Body A Child → Option (A.Predicate × BranchSwitch)
  | .choice own _ _ => some (own.predicate, own.switch)
  | .decorator (.guard predicate) _ => some (predicate, .keep)
  | .decorator (.whileTrue predicate) _ => some (predicate, .keep)
  | _ => none

/-- The branch that a body remembers as active. -/
def active? : Body A Child → Option Branch
  | .choice own _ _ => own.active
  | _ => none

/-- The branches that a choice has are its children. -/
theorem lt_length_iff_present {own : Choice A} {yes : Node A} {no : Option (Node A)} {branch : Branch} :
    branch.position < (Body.choice own yes no).children.length ↔ branch.Present no.isSome := by
  cases branch <;> cases no <;> simp [Branch.position, Branch.Present, Body.children]

/-- What is held shares its turns as a choice without a second branch that keeps the first one. -/
theorem shared_of_held {own next : Decorator A} {child : Node A}
    (held : ∀ clock answer running,
      own.decide clock answer running = (own, if answer then .tick else .skip .failure))
    (settles : ∀ status, own.settle status = ⟨own, status, false⟩)
    (plays : own.Plays clock answer child.isRunning touches (.ok status) next) :
    touches = (if answer then [(0, .ticked (.ok status))] else []) ∧
      (answer = false → status = .failure) := by
  generalize returned : (.ok status : Except Panic Status) = result at plays
  cases plays with
  | skipped decided =>
      cases returned
      rw [held] at decided
      cases answer with
      | true => cases decided
      | false =>
          cases decided
          exact ⟨rfl, fun _ => rfl⟩
  | aborted _ decided =>
      rw [held] at decided
      cases answer <;> cases decided
  | unwound => cases returned
  | ticked final decided =>
      rw [held] at decided
      cases answer with
      | false => cases decided
      | true =>
          cases decided
          refine ⟨?_, nofun⟩
          rw [settles]
          rfl
  | renewed final decided resets =>
      rw [held] at decided
      cases answer with
      | false => cases decided
      | true =>
          cases decided
          rw [settles] at resets
          cases resets

/-- A router shares a tick that returns among its branches. It first ends the branch that it leaves, if
it ends one at all, and then ticks the other. If there is no branch to route to, it fails. -/
theorem Plays.shared (router : body.router? = some (predicate, switch))
    (plays : body.Plays clock answer touches (.ok status) changed) :
    ∃ leaving entering, touches = leaving ++ entering ∧
      touchesOf (Branch.ofBool answer).position leaving = [] ∧
      touchesOf (Branch.ofBool answer).other.position entering = [] ∧
      (∀ branch : Branch, branch.position < body.children.length →
        touchesOf branch.position touches =
          (Turn.routed answer status).share switch body.active? branch) ∧
      (body.children.length ≤ (Branch.ofBool answer).position → status = .failure) ∧
      (switch = .abort → changed.active? = (Turn.routed answer status).active) := by
  cases plays with
  | composite => cases router
  | choice plays =>
      cases router
      generalize returned : (.ok status : Except Panic Status) = result at plays
      cases plays with
      | unwound => cases returned
      | @routed leaving _ abandons present =>
          subst returned
          refine ⟨leaving, _, rfl, abandons.touchesOf_other, ?_, fun branch inside => ?_, ?_, fun _ => ?_⟩
          · cases answer <;> rfl
          · rw [touchesOf_append, Turn.share]
            by_cases here : branch = Branch.ofBool answer
            · subst here
              rw [if_pos rfl, abandons.touchesOf_other, touchesOf_cons_self]
              rfl
            · have apart : (Branch.ofBool answer).position ≠ branch.position :=
                fun contrary => here (Branch.position_inj contrary).symm
              rw [if_neg here, touchesOf_cons_of_ne apart, touchesOf_nil, List.append_nil]
              obtain rfl := Branch.eq_other here
              exact abandons.touchesOf_left (lt_length_iff_present.1 inside)
          · intro beyond
            exact absurd (lt_length_iff_present.2 present) (Nat.not_lt.2 beyond)
          · match status with
            | .running | .success | .failure => rfl
      | missing abandons absent =>
          cases returned
          refine ⟨touches, [], (List.append_nil touches).symm, abandons.touchesOf_other, rfl,
            fun branch inside => ?_, fun _ => rfl, fun _ => rfl⟩
          have there := lt_length_iff_present.1 inside
          have left : branch ≠ Branch.ofBool answer := fun same => absent (same ▸ there)
          rw [Turn.share, if_neg left]
          obtain rfl := Branch.eq_other left
          exact abandons.touchesOf_left there
  | @decorator own _ child _ _ _ plays =>
      have kept : switch = .keep ∧ touches = (if answer then [(0, .ticked (.ok status))] else []) ∧
          (answer = false → status = .failure) := by
        cases own with
        | guard | whileTrue =>
            cases router
            exact ⟨rfl, shared_of_held (fun _ answer _ => by cases answer <;> rfl) (fun _ => rfl) plays⟩
        | invert | forceSuccess | forceFailure | repeating | retrying | timeout | cooldown
        | reactiveGuard => cases router
      obtain ⟨rfl, rfl, fails⟩ := kept
      refine ⟨[], _, rfl, rfl, ?_, fun branch inside => ?_, fun beyond => ?_, nofun⟩
      · cases answer <;> rfl
      · obtain rfl : branch = .yes := by
          cases branch with
          | yes => rfl
          | no => exact absurd inside (by simp [Branch.position, Body.children])
        cases answer <;> rfl
      · cases answer with
        | true => exact absurd beyond (by simp [Branch.ofBool, Branch.position, Body.children])
        | false => exact fails rfl

theorem router?_map {Other : Type} (change : Child → Other) (body : Body A Child) :
    (body.map change).router? = body.router? := by
  cases body with
  | leaf | choice | composite => rfl
  | decorator own => cases own <;> rfl

/-- How a body routes is part of how it was built. -/
theorem router?_pristine (body : Body A Child) : body.pristine.router? = body.router? := by
  cases body with
  | leaf | choice | composite => rfl
  | decorator own => cases own <;> rfl

/-- The predicate of a router is asked in its ticks. -/
theorem predicate?_of_router {body : Body A Child} (router : body.router? = some (predicate, switch)) :
    body.predicate? = some predicate := by
  cases body with
  | leaf | composite => cases router
  | choice =>
      cases router
      rfl
  | decorator own =>
      cases own with
      | guard | whileTrue =>
          cases router
          rfl
      | invert | forceSuccess | forceFailure | repeating | retrying | timeout | cooldown
      | reactiveGuard => cases router

theorem active?_map {Other : Type} (change : Child → Other) (body : Body A Child) :
    (body.map change).active? = body.active? := by
  cases body <;> rfl

/-- A settled body has no active branch. -/
theorem Settled.active? {body : Body A Child} (settled : body.Settled) : body.active? = none := by
  cases body with
  | choice => exact settled
  | leaf | decorator | composite => rfl

end Body

namespace Node

variable {context : Context D} {node changed : Node A} {before after : Stage A D} {trace : Trace A}
  {status : Status} {predicate : A.Predicate} {switch : BranchSwitch}

/-- A tick of a router asks the predicate once and gives each branch its share, the one of the branch that
it leaves before the one of the other. It fails if there is no branch to route to. A branch that it
leaves stays as it is, unless a switch aborts what the previous turn has left active. -/
structure Divides (predicate : A.Predicate) (switch : BranchSwitch) (previous : Option Branch)
    (context : Context D) (node : Node A) (trace : Trace A) (status : Status) (changed : Node A)
    (answer : Bool) : Prop where
  asked : trace.callsAt context.place = [.tested predicate (.ok answer)]
  failed : node.children[(Branch.ofBool answer).position]? = none → status = .failure
  ordered : ∃ early late, trace = early ++ late ∧
    early.within ((Branch.ofBool answer).position :: context.place) = [] ∧
      late.within ((Branch.ofBool answer).other.position :: context.place) = []
  shared : ∀ (branch : Branch) (child : Node A), node.children[branch.position]? = some child →
    ∃ final, changed.children[branch.position]? = some final ∧
      child.Evolves (context.child branch.position)
        ((Turn.routed answer status).share switch previous branch)
        (trace.within (branch.position :: context.place)) final
  spared : ∀ (branch : Branch) (child : Node A), node.children[branch.position]? = some child →
    branch ≠ Branch.ofBool answer → (switch = .abort → previous ≠ some branch) →
      changed.children[branch.position]? = some child

/-- Every tick of a router that returns divides, and a choice that aborts on a switch remembers which
branch it leaves active. -/
theorem divides_of_tick (router : node.body.router? = some (predicate, switch))
    (ticks : (node.tick context).Leads before trace ⟨changed, .ok status⟩ after) :
    ∃ answer, Divides predicate switch node.body.active? context node trace status changed answer ∧
      (switch = .abort → changed.body.active? = (Turn.routed answer status).active) := by
  obtain ⟨_, _, announcing, _, leaving, rfl, announces, works, leaves, _⟩ := returned_of_tick ticks
  have first := Context.local_of_tells announces
  have last := Context.local_of_tells leaves
  have predicates := Body.predicate?_of_router router
  generalize shape : node.body = body at works router predicates
  generalize final : changed.body = next at works
  cases works with
  | leaf => cases router
  | @played _ _ _ _ _ earlier working answer touches _ asks handles plays =>
      have asking := local_of_asks asks
      have silent : working.callsAt context.place = [] := handles.viewAt Event.blind_call?
      obtain ⟨left, entered, rfl, before, beyond, shares, fails, active⟩ := plays.shared router
      have listed : node.children = body.children := congrArg Body.children shape
      have divided (branch : Branch) (child : Node A)
          (present : node.children[branch.position]? = some child) :
          ∃ final, changed.children[branch.position]? = some final ∧
            child.Evolves (context.child branch.position)
              ((Turn.routed answer status).share switch body.active? branch)
              (Trace.within (branch.position :: context.place)
                (announcing ++ (earlier ++ working) ++ leaving)) final := by
        rw [listed] at present
        obtain ⟨ended, taken, evolves⟩ := handles.evolves present
        have inside := (List.getElem?_eq_some_iff.1 present).1
        rw [shares branch inside] at evolves
        rw [children, final]
        refine ⟨ended, taken, ?_⟩
        rw [Trace.within_append, Trace.within_append, Trace.within_append, first.within_below,
          last.within_below, asking.within_below, List.nil_append, List.nil_append, List.append_nil]
        exact evolves
      refine ⟨answer, ⟨?_, ?_, ?_, divided, fun branch child present left kept => ?_⟩, active⟩
      · rw [Trace.callsAt_append, Trace.callsAt_append, Trace.callsAt_append, announces.callsAt,
          leaves.callsAt, asks.callsAt, silent, predicates]
        rfl
      · intro absent
        rw [listed] at absent
        exact fails (List.getElem?_eq_none_iff.1 absent)
      · obtain ⟨_, _, leavingBranch, entering, rfl, leaves, enters⟩ := handles.split
        refine ⟨announcing ++ earlier ++ leavingBranch, entering ++ leaving, by simp, ?_, ?_⟩
        · rw [Trace.within_append, Trace.within_append, first.within_below, asking.within_below,
            leaves.within_of_untouched before]
          rfl
        · rw [Trace.within_append, last.within_below, enters.within_of_untouched beyond]
          rfl
      · obtain ⟨ended, taken, evolves⟩ := divided branch child present
        rw [Turn.share, if_neg left, if_neg fun both => kept both.1 both.2] at evolves
        rwa [← evolves.nil.1]

/-- What was active before matters only if a switch aborts it. -/
theorem Divides.congr {previous other : Option Branch} {answer : Bool}
    (divides : Divides predicate switch previous context node trace status changed answer)
    (same : switch = .abort → previous = other) :
    Divides predicate switch other context node trace status changed answer where
  asked := divides.asked
  failed := divides.failed
  ordered := divides.ordered
  shared branch child present := by
    rw [← Turn.share_congr same]
    exact divides.shared branch child present
  spared branch child present left kept :=
    divides.spared branch child present left fun aborts => same aborts ▸ kept aborts

end Node

end Behavior
