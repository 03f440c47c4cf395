import Behavior.Proofs.Course
import Behavior.Proofs.Renewal.Rebuilding
import Behavior.Proofs.Routing.Desertion
import Behavior.Proofs.Routing.Turns

namespace Behavior

variable {A : Agent} {D : Type}

namespace Node

variable {place : Place} {start node changed : Node A} {touches : List Touch} {touch : Touch}
  {past trace : Trace A} {predicate : A.Predicate} {switch : BranchSwitch} {turns : List Turn}
  {context : Context D} {before after : Stage A D} {status : Status}

/-- Some turns chronicle the course of a router. They are its touches, each tick with the answer that
the predicate has given. A tick that has routed to a missing branch has failed. No branch has been added
or lost, and each one has taken the course of its shares. If a switch aborts, only the branch that the
last turn has left active is running. -/
structure Chronicles (D : Type) (predicate : A.Predicate) (switch : BranchSwitch) (place : Place)
    (start : Node A) (touches : List Touch) (past : Trace A) (node : Node A) (turns : List Turn) :
    Prop where
  undergone : touches = turns.map Turn.touch
  asked : past.callsAt place = turns.filterMap (Turn.call? predicate)
  failed : ∀ answer status, .routed answer status ∈ turns →
    start.children[(Branch.ofBool answer).position]? = none → status = .failure
  kept : node.children.length = start.children.length
  dealt : ∀ (branch : Branch) (origin : Node A), start.children[branch.position]? = some origin →
    ∃ child, node.children[branch.position]? = some child ∧
      origin.Course D (branch.position :: place) (shares switch branch turns)
        (past.within (branch.position :: place)) child
  alone : switch = .abort → ∀ (branch : Branch) (child : Node A),
    node.children[branch.position]? = some child → child.last = some .running →
      activeAfter turns = some branch

/-- A router recalls the branch that its last turn has left active, if a switch aborts that. -/
structure Recalls (predicate : A.Predicate) (switch : BranchSwitch) (node : Node A)
    (turns : List Turn) : Prop where
  router : node.body.router? = some (predicate, switch)
  active : switch = .abort → node.body.active? = activeAfter turns

/-- A router stays one, whatever it goes through. -/
theorem router?_of_pristine (built : changed.pristine = node.pristine) :
    changed.body.router? = node.body.router? := by
  have bodies := congrArg (fun node : Node A => node.body.router?) built
  simpa only [body_pristine, Body.router?_pristine, Body.router?_map] using bodies

/-- A router makes no call of its own when it is cleared. -/
theorem Resets.callsAt_of_router (resets : node.Resets context trace)
    (router : node.body.router? = some (predicate, switch)) : trace.callsAt context.place = [] := by
  obtain ⟨cancels, handles⟩ := resets
  have silent : Trace.callsAt context.place (clearing (A := A) context.place node.tag) = [] := by
    unfold clearing
    split <;> simp
  have handling : Trace.callsAt context.place _ = [] := handles.viewAt Event.blind_call?
  cases shape : node.body with
  | leaf | composite =>
      rw [shape] at router
      cases router
  | decorator | choice =>
      rw [shape] at cancels
      obtain ⟨_, rfl, _⟩ := Run.leads_pure.1 cancels
      rw [Trace.callsAt_append, Trace.callsAt_append, silent, handling]
      rfl

/-- A router makes no calls of its own while it is reset or aborted. -/
theorem Undergoes.callsAt_of_router
    (undergoes : node.Undergoes context touch before trace changed after)
    (clears : touch = .reset ∨ touch = .aborted (.ok ()))
    (router : node.body.router? = some (predicate, switch)) : trace.callsAt context.place = [] := by
  cases undergoes with
  | ticked => simp at clears
  | reset resets => exact (resets_of_reset resets).callsAt_of_router router
  | aborted aborts =>
      obtain rfl : _ = Except.ok () := by simpa using clears
      cases abortsIn_of_abortIn aborts with
      | silent _ resets => exact (resets_of_reset resets).callsAt_of_router router
      | reported _ tells resets =>
          rw [Trace.callsAt_cons_output, Trace.callsAt_append, tells.callsAt,
            (resets_of_reset resets).callsAt_of_router router]
          rfl

/-- The chronicle of what has been built only has no turns. -/
theorem chronicles_of_built (built : start.Built)
    (router : start.body.router? = some (predicate, switch)) :
    Chronicles D predicate switch place start [] [] start [] ∧ Recalls predicate switch start [] := by
  have idle := built.idle
  refine ⟨⟨rfl, rfl, fun _ _ member => absurd member List.not_mem_nil, rfl, ?_, ?_⟩, router,
    fun _ => ?_⟩
  · exact fun branch origin present => ⟨origin, present, .born⟩
  · intro _ branch child present running
    rw [(idle.child (List.mem_of_getElem? present)).here.1] at running
    cases running
  · exact idle.here.2.active?

/-- A clearing of a router is a turn. -/
theorem Chronicles.clears (turn : Turn) (stands : context.place = place)
    (chronicles : Chronicles D predicate switch place start touches past node turns)
    (recalls : Recalls predicate switch node turns)
    (undergoes : node.Undergoes context turn.touch before trace changed after)
    (clears : turn = .reset ∨ turn = .aborted) :
    Chronicles D predicate switch place start (touches ++ [turn.touch]) (past ++ trace) changed
        (turns ++ [turn]) ∧
      Recalls predicate switch changed (turns ++ [turn]) := by
  subst stands
  have touch : turn.touch = .reset ∨ turn.touch = .aborted (.ok ()) := by
    rcases clears with rfl | rfl
    · exact .inl rfl
    · exact .inr rfl
  have share (branch : Branch) : turn.share switch (activeAfter turns) branch = [.reset] := by
    rcases clears with rfl | rfl <;> rfl
  have call : turn.call? predicate = none := by
    rcases clears with rfl | rfl <;> rfl
  have active : turn.active = none := by
    rcases clears with rfl | rfl <;> rfl
  have idle : changed.Everywhere Idle := by
    rw [undergoes.cleared touch]
    exact idle_cleared node
  refine ⟨⟨?_, ?_, ?_, ?_, ?_, ?_⟩, ?_, fun _ => ?_⟩
  · rw [chronicles.undergone, List.map_append]
    rfl
  · rw [Trace.callsAt_append, chronicles.asked, undergoes.callsAt_of_router touch recalls.router,
      List.filterMap_append, List.filterMap_cons, call]
    rfl
  · intro answer status member
    rcases List.mem_append.1 member with old | new
    · exact chronicles.failed answer status old
    · obtain rfl := List.mem_singleton.1 new
      rcases clears with contrary | contrary <;> cases contrary
  · rw [length_children_of_pristine undergoes.pristine, chronicles.kept]
  · intro branch origin present
    obtain ⟨child, taken, course⟩ := chronicles.dealt branch origin present
    obtain ⟨final, kept, evolves⟩ := undergoes.resets_child touch taken
    refine ⟨final, kept, ?_⟩
    rw [shares_concat, share, Trace.within_append]
    exact course.evolves rfl evolves (List.forall_mem_singleton.2 trivial)
  · intro _ branch child present running
    rw [(idle.child (List.mem_of_getElem? present)).here.1] at running
    cases running
  · rw [router?_of_pristine undergoes.pristine]
    exact recalls.router
  · rw [activeAfter_concat, active]
    exact idle.here.2.active?

/-- A tick of a router that returns is a turn. -/
theorem Chronicles.divides {answer : Bool} (stands : context.place = place)
    (chronicles : Chronicles D predicate switch place start touches past node turns)
    (recalls : Recalls predicate switch node turns)
    (ticks : (node.tick context).Leads before trace ⟨changed, .ok status⟩ after)
    (divides : Divides predicate switch (activeAfter turns) context node trace status changed answer)
    (active : switch = .abort → changed.body.active? = (Turn.routed answer status).active) :
    Chronicles D predicate switch place start (touches ++ [.ticked (.ok status)]) (past ++ trace)
        changed (turns ++ [.routed answer status]) ∧
      Recalls predicate switch changed (turns ++ [.routed answer status]) := by
  subst stands
  have pristine := (Undergoes.ticked ticks).pristine
  refine ⟨⟨?_, ?_, ?_, ?_, ?_, ?_⟩, ?_, fun aborts => ?_⟩
  · rw [chronicles.undergone, List.map_append]
    rfl
  · rw [Trace.callsAt_append, chronicles.asked, divides.asked, List.filterMap_append]
    rfl
  · intro other returned member absent
    rcases List.mem_append.1 member with old | new
    · exact chronicles.failed other returned old absent
    · cases List.mem_singleton.1 new
      refine divides.failed (List.getElem?_eq_none ?_)
      rw [chronicles.kept]
      exact List.getElem?_eq_none_iff.1 absent
  · rw [length_children_of_pristine pristine, chronicles.kept]
  · intro branch origin present
    obtain ⟨child, taken, course⟩ := chronicles.dealt branch origin present
    obtain ⟨final, kept, evolves⟩ := divides.shared branch child taken
    refine ⟨final, kept, ?_⟩
    rw [shares_concat, Trace.within_append]
    exact course.evolves rfl evolves (Turn.calm_share _)
  · intro aborts branch final present running
    have inside : branch.position < node.children.length := by
      rw [← length_children_of_pristine pristine]
      exact (List.getElem?_eq_some_iff.1 present).1
    have former := List.getElem?_eq_getElem inside
    obtain ⟨last, taken, evolves⟩ := divides.shared branch _ former
    obtain rfl := Option.some.inj (taken.symm.trans present)
    rw [activeAfter_concat]
    rw [Turn.share] at evolves
    by_cases here : branch = Branch.ofBool answer
    · rw [if_pos here] at evolves
      obtain rfl := Option.some.inj (evolves.last_of_ticked.symm.trans running)
      exact congrArg some here.symm
    · rw [if_neg here] at evolves
      by_cases ended : switch = .abort ∧ activeAfter turns = some branch
      · rw [if_pos ended] at evolves
        obtain ⟨_, _, _, _, _, _, _, _, undergoes, rest⟩ := evolves.uncons
        obtain ⟨rfl, _⟩ := rest.nil
        rw [undergoes.cleared (.inr rfl), last_cleared] at running
        cases running
      · rw [if_neg ended] at evolves
        obtain ⟨rfl, _⟩ := evolves.nil
        exact absurd ⟨aborts, chronicles.alone aborts branch _ former running⟩ ended
  · rw [router?_of_pristine pristine]
    exact recalls.router
  · rw [activeAfter_concat]
    exact active aborts

/-- Turns chronicle every course of a router. -/
theorem Course.chronicled (built : start.Built)
    (router : start.body.router? = some (predicate, switch))
    (course : start.Course D place touches past node) :
    ∃ turns, Chronicles D predicate switch place start touches past node turns ∧
      Recalls predicate switch node turns := by
  induction course with
  | born => exact ⟨[], chronicles_of_built built router⟩
  | @touched context node changed touch _ _ _ _ _ _ stands undergoes calm inductionHypothesis =>
      obtain ⟨turns, chronicles, recalls⟩ := inductionHypothesis
      match touch with
      | .ticked (.error _) =>
          obtain ⟨_, contrary⟩ := calm
          cases contrary
      | .aborted (.error _) => cases calm
      | .reset => exact ⟨_, chronicles.clears .reset stands recalls undergoes (.inl rfl)⟩
      | .aborted (.ok ()) =>
          exact ⟨_, chronicles.clears .aborted stands recalls undergoes (.inr rfl)⟩
      | .ticked (.ok status) =>
          obtain ⟨ticks⟩ := undergoes
          obtain ⟨answer, divides, active⟩ := divides_of_tick recalls.router ticks
          exact ⟨_, chronicles.divides stands recalls ticks (divides.congr recalls.active) active⟩
  | @wrote node _ _ _ record inductionHypothesis =>
      obtain ⟨turns, chronicles, recalls⟩ := inductionHypothesis
      refine ⟨turns, ⟨chronicles.undergone, ?_, chronicles.failed, chronicles.kept, ?_,
        chronicles.alone⟩, recalls⟩
      · rw [Trace.callsAt_append, chronicles.asked, Trace.callsAt_cons_output, Trace.callsAt_nil,
          List.append_nil]
      · intro branch origin present
        rw [Trace.within_append, Trace.local_nil.cons.within_below, List.append_nil]
        exact chronicles.dealt branch origin present
  | @numbered node changed _ _ _ same inductionHypothesis =>
      obtain ⟨turns, chronicles, recalls⟩ := inductionHypothesis
      have bodies := congrArg Node.body same
      rw [body_unnumbered, body_unnumbered] at bodies
      have child {position : Nat} {former : Node A} (present : node.children[position]? = some former) :
          ∃ child, changed.children[position]? = some child ∧ child.unnumbered = former.unnumbered := by
        obtain ⟨child, taken, image⟩ := child_of_unnumbered same.symm present
        exact ⟨child, taken, image.symm⟩
      refine ⟨turns, ⟨chronicles.undergone, chronicles.asked, chronicles.failed, ?_, ?_, ?_⟩, ?_, ?_⟩
      · rw [length_children_of_unnumbered same, chronicles.kept]
      · intro branch origin present
        obtain ⟨former, taken, course⟩ := chronicles.dealt branch origin present
        obtain ⟨twin, found, image⟩ := child taken
        exact ⟨twin, found, course.numbered image⟩
      · intro aborts branch twin present running
        obtain ⟨former, taken, image⟩ := child_of_unnumbered same present
        refine chronicles.alone aborts branch former taken ?_
        rw [← last_unnumbered, ← image, last_unnumbered, running]
      · rw [← Body.router?_map unnumbered, bodies, Body.router?_map]
        exact recalls.router
      · intro aborts
        rw [← Body.active?_map unnumbered, bodies, Body.active?_map]
        exact recalls.active aborts

end Node

/-- A body works like another one if all of their ticks are the same runs, return the same, and leave the
same children. -/
def Body.WorksLike (first second : Body A (Arm A D)) : Prop :=
  ∀ (info : NodeInfo) (context : Context D),
    (do return (← first.tick info context).map Body.children :
        Run A D (Attempt (List (Node A)) Status)) =
      (do return (← second.tick info context).map Body.children)

/-- A guard and a while work like a choice without a second branch that keeps the first one. -/
theorem Body.worksLike_of_router {predicate : A.Predicate} {switch : BranchSwitch} {own : Decorator A}
    {child : Node A} (router : (Body.decorator own child).router? = some (predicate, switch))
    (active : Option Branch) (arm : Arm A D) :
    Body.WorksLike (.decorator own arm) (.choice ⟨predicate, .keep, active⟩ arm none) := by
  intro info context
  have held : own.tick info context arm = Decorator.hold info context own predicate arm := by
    cases own with
    | guard | whileTrue =>
        cases router
        rfl
    | invert | forceSuccess | forceFailure | repeating | retrying | timeout | cooldown
    | reactiveGuard => cases router
  have kept (result : Except Panic Status) : result.map (fun status => status) = result := by
    cases result <;> rfl
  simp only [Body.tick, held, Decorator.hold, Choice.tick, bind_assoc]
  congr 1
  funext answer
  cases answer with
  | error panic => rfl
  | ok answer =>
      cases answer with
      | true =>
          simp only [Decorator.pass, Choice.abandonOption, Option.map_none, bind_assoc, pure_bind, kept]
          rfl
      | false =>
          have spared (node : Node A) : Choice.abandon context ⟨predicate, .keep, active⟩ .yes node =
              (pure ⟨node, .ok ()⟩ : Run A D (Attempt (Node A) Unit)) :=
            if_neg fun contrary => BranchSwitch.noConfusion contrary.2
          simp only [spared, Option.map_none, pure_bind]
          rfl

namespace Node

/-- Turns chronicle whatever a choice, a guard or a while has gone through without a panic. Its next tick
divides as the last turn has left it. A guard and a while take these turns as a choice without a second
branch that keeps the first one, and work like it. -/
theorem branches_take_shares {place : Place} {start node : Node A} {touches : List Touch}
    {past : Trace A} {predicate : A.Predicate} {switch : BranchSwitch} (built : start.Built)
    (router : start.body.router? = some (predicate, switch))
    (course : start.Course D place touches past node) :
    (∃ turns, Chronicles D predicate switch place start touches past node turns ∧
      ∀ (context : Context D) (before after : Stage A D) (trace : Trace A) (changed : Node A)
        (status : Status), context.place = place →
          (node.tick context).Leads before trace ⟨changed, .ok status⟩ after →
            ∃ answer, Divides predicate switch (activeAfter turns) context node trace status changed
              answer) ∧
      ∀ (own : Decorator A) (child : Node A), start.body = .decorator own child →
        switch = .keep ∧ ∀ (active : Option Branch) (arm : Arm A D),
          Body.WorksLike (.decorator own arm) (.choice ⟨predicate, .keep, active⟩ arm none) := by
  refine ⟨?_, fun own child shape => ?_⟩
  · obtain ⟨turns, chronicles, recalls⟩ := course.chronicled built router
    refine ⟨turns, chronicles, ?_⟩
    rintro context before after trace changed status rfl ticks
    obtain ⟨answer, divides, _⟩ := divides_of_tick recalls.router ticks
    exact ⟨answer, divides.congr recalls.active⟩
  · rw [shape] at router
    refine ⟨?_, Body.worksLike_of_router router⟩
    cases own with
    | guard | whileTrue =>
        cases router
        rfl
    | invert | forceSuccess | forceFailure | repeating | retrying | timeout | cooldown
    | reactiveGuard => cases router

end Node

namespace Sample

/-- The sample fork leaves its running branch for the other one. -/
def switched : Outcome wavering Unit (Attempt (Node wavering) Status) := forked started false (.ok .success)

theorem course_switched : fork.Course Unit Tree.rootPlace
    [.ticked (.ok .running), .ticked (.ok .success)]
    ((forked fork true (.ok .running)).trace ++ switched.trace) switched.value.after := by
  have starts : fork.Undergoes context (.ticked (.ok .running)) ⟨(true, .ok .running), ()⟩ _
      started _ := .ticked (Run.leads_self (fork.tick context) _)
  have switches : started.Undergoes context (.ticked (.ok .success)) ⟨(false, .ok .success), ()⟩ _
      switched.value.after _ := .ticked (Run.leads_self (started.tick context) _)
  have fresh : fork.Course Unit Tree.rootPlace [] [] fork := .born
  exact (fresh.touched rfl starts ⟨.running, rfl⟩).touched rfl switches ⟨.success, rfl⟩

end Sample

/-- The branch that the fork leaves is ticked first and aborted then. -/
theorem Node.fork_takes_shares : ∃ turns,
    Chronicles Unit () .abort Tree.rootPlace Sample.fork
        [.ticked (.ok .running), .ticked (.ok .success)]
        ((Sample.forked Sample.fork true (.ok .running)).trace ++ Sample.switched.trace)
        Sample.switched.value.after turns ∧
      shares .abort .yes turns = [.ticked (.ok .running), .aborted (.ok ())] ∧
      shares .abort .no turns = [.ticked (.ok .success)] := by
  obtain ⟨⟨turns, chronicles, _⟩, _⟩ :=
    branches_take_shares Sample.built_fork rfl Sample.course_switched
  refine ⟨turns, chronicles, ?_⟩
  have undergone := chronicles.undergone
  have asked : [.tested () (.ok true), .tested () (.ok false)] =
      turns.filterMap (Turn.call? (A := Sample.wavering) ()) := chronicles.asked
  match turns with
  | [.routed first _, .routed second _] =>
      cases undergone
      cases asked
      exact ⟨rfl, rfl⟩
  | [.aborted, _] | [.reset, _] | [.routed _ _, .aborted] | [.routed _ _, .reset] => cases undergone
  | [] | [_] | _ :: _ :: _ :: _ => exact absurd (congrArg List.length undergone) (by simp)

end Behavior
