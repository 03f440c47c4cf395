import Behavior.Proofs.Dual.Inversion

namespace Behavior

variable {A : Agent} {D E : Type}

/-- A body has a dual that does with inverted children, and for the inverted statuses, what the body
does with its children. A reactive selector has no more children in mind than its dual. -/
inductive Body.Mirrors : Body A (Node A) → Body A (Node A) → Prop
  | sequence (running : Option Nat) {nodes wrappers : List (Node A)}
      (inverts : List.Forall₂ Node.Inverts nodes wrappers) :
      Mirrors (.composite (.sequence running) nodes) (.composite (.selector running) wrappers)
  | reactiveSequence {running : Option Nat} {positions : Positions} {nodes wrappers : List (Node A)}
      (same : positions.list = running.toList) (inside : ∀ position ∈ running, position < nodes.length)
      (inverts : List.Forall₂ Node.Inverts nodes wrappers) :
      Mirrors (.composite (.reactiveSequence running) nodes)
        (.composite (.reactiveSelector positions) wrappers)
  | retrying (times attempts : Nat) {node wrapper : Node A} (inverts : node.Inverts wrapper) :
      Mirrors (.decorator (.retrying times attempts) node)
        (.decorator (.repeating times attempts) wrapper)

/-- An arm of a wrapper echoes the arm of the node that it inverts. -/
structure Arm.Inverts (arm : Arm A D) (other : Arm A E) : Prop where
  node : arm.node.Inverts other.node
  tick : ∀ {context : Context D} {counter : Context E}, context.Parallel counter →
    Run.Echoes (Attempt.Mirrors Status.invert Node.Inverts) (arm.value context) (other.value counter)

/-- Arms that are inverted belong to nodes that are. -/
theorem Arm.inverts_nodes {arms : List (Arm A D)} {others : List (Arm A E)}
    (inverts : List.Forall₂ Arm.Inverts arms others) :
    List.Forall₂ Node.Inverts (arms.map Part.node) (others.map Part.node) :=
  Body.forall₂_map inverts fun _ _ _ inverts => inverts.node

theorem Context.Parallel.child {context : Context D} {counter : Context E}
    (parallel : context.Parallel counter) (position other : Nat) :
    (context.child position).Parallel (counter.child other) :=
  ⟨parallel.clock, parallel.left.child position, parallel.right.child other⟩

namespace Composite

variable {context : Context D} {counter : Context E} {arms : List (Arm A D)}
  {others : List (Arm A E)} {nodes wrappers : List (Node A)}

/-- The stop of a dual scan is at the same position, with the inverted status. -/
def invertStop : Option Stop → Option Stop := Option.map fun stop => (stop.1, stop.2.invert)

/-- An inverted stop leaves the same child running. -/
theorem runningOf_invertStop (stop : Option Stop) : runningOf (invertStop stop) = runningOf stop := by
  match stop with
  | none | some (_, .running) | some (_, .success) | some (_, .failure) => rfl

/-- What an inverted stop returns is inverted. -/
theorem statusOf_invertStop (skip : Status) (stop : Option Stop) :
    statusOf skip.invert (invertStop stop) = (statusOf skip stop).invert := by
  cases stop <;> rfl

/-- An inverted stop stands at the same position. -/
theorem stopped_invertStop (stop : Option Stop) :
    (invertStop stop).map Prod.fst = stop.map Prod.fst := by
  cases stop <;> rfl

/-- A dual scan ends at the same child, which is one of those that it has scanned. -/
structure Scanned (start count : Nat) (first second : Attempt (List (Node A)) (Option Stop)) :
    Prop where
  after : List.Forall₂ Node.Inverts first.after second.after
  length : first.after.length = count
  result : second.result = first.result.map invertStop
  inside : ∀ stop, first.result = .ok (some stop) → stop.1 < start + count

/-- Two scans with opposite statuses to skip enter the same children and stop at the same one. -/
theorem echoes_scan (parallel : context.Parallel counter) (skip : Status)
    (inverts : List.Forall₂ Arm.Inverts arms others) (position : Nat) :
    Run.Echoes (Scanned position arms.length) (scan skip context position arms)
      (scan skip.invert counter position others) := by
  induction inverts generalizing position with
  | nil => exact Run.echoes_pure ⟨.nil, rfl, rfl, nofun⟩
  | @cons _ _ arms _ first rest inductionHypothesis =>
      refine (first.tick (parallel.child position position)).bind ?_
      rintro ⟨after, result⟩ ⟨twin, _⟩ ⟨ticked, rfl⟩
      have stopped := List.Forall₂.cons ticked (Arm.inverts_nodes rest)
      have length : (after :: arms.map Part.node).length = arms.length + 1 := by simp
      match result with
      | .error panic => exact Run.echoes_pure ⟨stopped, length, rfl, nofun⟩
      | .ok status =>
          have same : status.invert = skip.invert ↔ status = skip := by
            cases status <;> cases skip <;> decide
          dsimp only [Except.map]
          rw [if_congr same rfl rfl]
          split
          · refine (inductionHypothesis (position + 1)).bind ?_
            rintro ⟨others, result⟩ ⟨twins, _⟩ ⟨scanned, length, rfl, inside⟩
            refine Run.echoes_pure ⟨.cons ticked scanned, ?_, rfl, fun stop ended => ?_⟩
            · rw [List.length_cons, length, List.length_cons]
            · have bound := inside stop ended
              rw [List.length_cons]
              omega
          · refine Run.echoes_pure ⟨stopped, length, rfl, ?_⟩
            rintro stop ⟨⟩
            rw [List.length_cons]
            omega

/-- A scan that ends at a running child has scanned it. -/
theorem Scanned.running {start count : Nat} {first second : Attempt (List (Node A)) (Option Stop)}
    {stop : Option Stop} (scanned : Scanned start count first second) (ended : first.result = .ok stop) :
    ∀ position ∈ runningOf stop, position < start + count := by
  intro position running
  match stop, running with
  | some (_, .running), rfl => exact scanned.inside _ ended

/-- Preemption gives up the same children on both sides. -/
theorem echoes_preempt (parallel : context.Parallel counter) (stop : Option Stop)
    (positions : List Nat) (inverts : List.Forall₂ Node.Inverts nodes wrappers)
    (inside : ∀ position ∈ positions, position < nodes.length) :
    Run.Echoes (fun first second : Attempt (List (Node A)) Unit =>
        List.Forall₂ Node.Inverts first.after second.after ∧
          first.after.length = nodes.length ∧ first.result = .ok () ∧ second.result = .ok ())
      (preempt context stop positions nodes) (preempt counter (invertStop stop) positions wrappers) := by
  induction positions generalizing nodes wrappers with
  | nil => exact Run.echoes_pure ⟨inverts, rfl, rfl, rfl⟩
  | cons position rest inductionHypothesis =>
      obtain ⟨here, below⟩ := List.forall_mem_cons.1 inside
      unfold preempt
      rw [stopped_invertStop]
      split
      · exact inductionHypothesis inverts below
      · have present := Lockstep.getElem? inverts position
        rw [List.getElem?_eq_getElem here] at present ⊢
        generalize wrappers[position]? = wrapper at present
        cases present with
        | some present =>
            refine (present.echoes_abortIn (parallel.child position position)).bind ?_
            rintro ⟨after, _⟩ ⟨twin, _⟩ ⟨aborted, rfl, rfl⟩
            have changed := Lockstep.set inverts aborted position
            have followed := inductionHypothesis changed (by simpa using below)
            rwa [List.length_set] at followed

/-- A sequence and the selector of the inverted children echo each other. -/
theorem echoes_sequence (parallel : context.Parallel counter) (running : Option Nat)
    (inverts : List.Forall₂ Arm.Inverts arms others) :
    Run.Echoes (Attempt.Mirrors Status.invert fun first second : Composite × List (Node A) =>
        (Body.composite first.1 first.2).Mirrors (.composite second.1 second.2))
      (tick context arms (.sequence running)) (tick counter others (.selector running)) := by
  dsimp only [tick, resume]
  rw [inverts.length_eq]
  split
  · exact Run.echoes_pure ⟨.sequence _ (Arm.inverts_nodes inverts), rfl⟩
  · have rest := List.forall₂_drop (running.getD 0) inverts
    have passed := Arm.inverts_nodes (List.forall₂_take (running.getD 0) inverts)
    refine (echoes_scan parallel .success rest _).bind ?_
    rintro ⟨after, result⟩ ⟨twins, _⟩ ⟨scanned, _, rfl, _⟩
    have nodes := List.rel_append passed scanned
    match result with
    | .error panic => exact Run.echoes_pure ⟨.sequence _ nodes, rfl⟩
    | .ok stop =>
        refine Run.echoes_pure ⟨?_, congrArg Except.ok (statusOf_invertStop .success stop)⟩
        rw [← runningOf_invertStop stop]
        exact .sequence _ nodes

/-- A reactive sequence and the selector of the inverted children echo each other, though the selector
remembers its positions as a set. -/
theorem echoes_reactiveSequence (parallel : context.Parallel counter) {running : Option Nat}
    {positions : Positions} (same : positions.list = running.toList)
    (inside : ∀ position ∈ running, position < arms.length)
    (inverts : List.Forall₂ Arm.Inverts arms others) :
    Run.Echoes (Attempt.Mirrors Status.invert fun first second : Composite × List (Node A) =>
        (Body.composite first.1 first.2).Mirrors (.composite second.1 second.2))
      (tick context arms (.reactiveSequence running))
      (tick counter others (.reactiveSelector positions)) := by
  dsimp only [tick]
  rw [same]
  unfold rescan
  refine (echoes_scan parallel .success inverts 0).bind ?_
  rintro ⟨nodes, result⟩ ⟨twins, other⟩ scanned
  obtain ⟨below, whole, rfl, -⟩ := id scanned
  have within : ∀ position ∈ running, position < nodes.length := by rwa [whole]
  match result with
  | .error panic => exact Run.echoes_pure ⟨.reactiveSequence same within below, rfl⟩
  | .ok stop =>
      have members : ∀ position ∈ running.toList, position < nodes.length := by
        simpa using within
      have remembered := scanned.running rfl
      refine (echoes_preempt parallel stop running.toList below members).bind ?_
      rintro ⟨after, _⟩ ⟨twin, _⟩ ⟨preempted, length, rfl, rfl⟩
      refine Run.echoes_pure ⟨.reactiveSequence ?_ ?_ preempted, ?_⟩
      · rw [Positions.list_replace, runningOf_invertStop]
      · rw [length, whole]
        simpa using remembered
      · exact congrArg Except.ok (statusOf_invertStop .success stop)

end Composite

/-- An iteration that retries is echoed by one that repeats. -/
theorem Decorator.echoes_retrying {context : Context D} {counter : Context E}
    (parallel : context.Parallel counter) (info other : NodeInfo) (times attempts : Nat)
    {arm : Arm A D} {twin : Arm A E} (inverts : arm.Inverts twin) :
    Run.Echoes (Attempt.Mirrors Status.invert fun first second : Decorator A × Node A =>
        (Body.decorator first.1 first.2).Mirrors (.decorator second.1 second.2))
      (tick info context arm (.retrying times attempts))
      (tick other counter twin (.repeating times attempts)) := by
  dsimp only [tick, iterate]
  split
  · exact Run.echoes_pure ⟨.retrying _ _ inverts.node, rfl⟩
  · refine (inverts.tick (parallel.child 0 0)).bind ?_
    rintro ⟨after, result⟩ ⟨wrapper, _⟩ ⟨ticked, rfl⟩
    match result with
    | .error panic | .ok .running | .ok .success =>
        exact Run.echoes_pure ⟨.retrying _ _ ticked, rfl⟩
    | .ok .failure =>
        dsimp only [Except.map, Status.invert]
        rw [if_pos rfl, if_pos rfl]
        split
        · exact Run.echoes_pure ⟨.retrying _ _ ticked, rfl⟩
        · refine (ticked.echoes_reset _ _).bind fun _ _ renewed => ?_
          exact Run.echoes_pure ⟨.retrying _ _ renewed, rfl⟩

namespace Body

variable {context : Context D} {counter : Context E} {body dual : Body A (Node A)}

/-- The children of a dual are inversions of the children of the body. -/
theorem Mirrors.children (mirrors : body.Mirrors dual) :
    List.Forall₂ Node.Inverts body.children dual.children := by
  cases mirrors with
  | sequence _ inverts => exact inverts
  | reactiveSequence _ _ inverts => exact inverts
  | retrying _ _ inverts => exact .cons inverts .nil

/-- Numbers of children make no difference to duals. -/
theorem Mirrors.renumbered {other counter : Body A (Node A)} (mirrors : body.Mirrors dual)
    (same : body.Corresponds (fun node other => node.unnumbered = other.unnumbered) other)
    (alike : dual.Corresponds (fun node other => node.unnumbered = other.unnumbered) counter) :
    other.Mirrors counter := by
  cases mirrors with
  | sequence running inverts =>
      obtain _ | _ | _ | ⟨_, nodes⟩ := same
      obtain _ | _ | _ | ⟨_, wrappers⟩ := alike
      exact .sequence running (Node.renumbered_inverts inverts nodes wrappers)
  | reactiveSequence listed inside inverts =>
      obtain _ | _ | _ | ⟨_, nodes⟩ := same
      obtain _ | _ | _ | ⟨_, wrappers⟩ := alike
      exact .reactiveSequence listed (by rwa [← nodes.length_eq])
        (Node.renumbered_inverts inverts nodes wrappers)
  | retrying times attempts inverts =>
      obtain _ | ⟨_, node⟩ := same
      obtain _ | ⟨_, wrapper⟩ := alike
      exact .retrying times attempts (inverts.renumbered node wrapper)

/-- A body ticks its children as its dual ticks the inverted ones. -/
theorem Mirrors.echoes_tick (mirrors : body.Mirrors dual) (parallel : context.Parallel counter)
    (info other : NodeInfo) :
    Run.Echoes (Attempt.Mirrors Status.invert Mirrors)
      ((body.map fun node => (⟨node, node.tick⟩ : Arm A D)).tick info context)
      ((dual.map fun node => (⟨node, node.tick⟩ : Arm A E)).tick other counter) := by
  have arm {node wrapper : Node A} (inverts : node.Inverts wrapper) :
      Arm.Inverts (⟨node, node.tick⟩ : Arm A D) (⟨wrapper, wrapper.tick⟩ : Arm A E) :=
    ⟨inverts, inverts.echoes_tick⟩
  cases mirrors with
  | sequence running inverts =>
      have arms := forall₂_map inverts fun _ _ _ => arm
      refine (Composite.echoes_sequence parallel running arms).bind ?_
      rintro ⟨after, result⟩ ⟨twin, _⟩ ⟨related, rfl⟩
      exact Run.echoes_pure ⟨related, rfl⟩
  | reactiveSequence same inside inverts =>
      have arms := forall₂_map inverts fun _ _ _ => arm
      refine (Composite.echoes_reactiveSequence parallel same (by simpa using inside) arms).bind ?_
      rintro ⟨after, result⟩ ⟨twin, _⟩ ⟨related, rfl⟩
      exact Run.echoes_pure ⟨related, rfl⟩
  | retrying times attempts inverts =>
      refine (Decorator.echoes_retrying parallel info other times attempts (arm inverts)).bind ?_
      rintro ⟨after, result⟩ ⟨twin, _⟩ ⟨related, rfl⟩
      exact Run.echoes_pure ⟨related, rfl⟩

/-- Resetting all children resets all that they are inverted by. -/
theorem echoes_renew {nodes wrappers : List (Node A)}
    (inverts : List.Forall₂ Node.Inverts nodes wrappers) (place counter : Place) :
    Run.Echoes (List.Forall₂ Node.Inverts)
      (visitFrom (fun position child => child.reset (position :: place)) 0 nodes :
        Run A D (List (Node A)))
      (visitFrom (fun position child => child.reset (position :: counter)) 0 wrappers :
        Run A E (List (Node A))) :=
  (echoes_visitFrom (fun inverts _ _ => inverts.echoes_reset _ _) inverts 0 0).imp
    fun _ _ renewed => renewed.1

/-- A body and its dual forget the same and reset their children alike. -/
theorem Mirrors.echoes_reset (mirrors : body.Mirrors dual) (tag other : Tag)
    (place counter : Place) :
    Run.Echoes (fun first second : Node A => first.body.Mirrors second.body)
      (Node.reset ⟨tag, body⟩ place : Run A D (Node A))
      (Node.reset ⟨other, dual⟩ counter : Run A E (Node A)) := by
  cases mirrors with
  | sequence running inverts =>
      rw [Node.reset_composite, Node.reset_composite]
      refine (tag.silent_clear place).left ((other.silent_clear counter).right ?_)
      refine (echoes_renew inverts _ _).bind fun _ _ renewed => ?_
      exact Run.echoes_pure (.sequence none renewed)
  | reactiveSequence _ _ inverts =>
      rw [Node.reset_composite, Node.reset_composite]
      refine (tag.silent_clear place).left ((other.silent_clear counter).right ?_)
      refine (echoes_renew inverts _ _).bind fun _ _ renewed => ?_
      exact Run.echoes_pure (.reactiveSequence rfl nofun renewed)
  | retrying times _ inverts =>
      rw [Node.reset_decorator, Node.reset_decorator]
      refine (tag.silent_clear place).left ((other.silent_clear counter).right ?_)
      refine (inverts.echoes_reset _ _).bind fun _ _ renewed => ?_
      exact Run.echoes_pure (.retrying times 0 renewed)

end Body

end Behavior
