import Behavior.Proofs.Echo.Echoing

namespace Behavior

variable {A : Agent} {D E : Type}

/-- An attempt mirrors another if it leaves a related subject and its status is a change of the
other's. A panic stays the same. -/
structure Attempt.Mirrors {Subject Other : Type} (change : Status → Status)
    (Related : Subject → Other → Prop) (first : Attempt Subject Status)
    (second : Attempt Other Status) : Prop where
  after : Related first.after second.after
  result : second.result = first.result.map change

/-- What a body has worked becomes what its node has ticked: the tag remembers the status. -/
def Attempt.tagged (tag : Tag) (worked : Attempt (Body A (Node A)) Status) : Attempt (Node A) Status :=
  match worked.result with
  | .error panic => ⟨⟨tag, worked.after⟩, .error panic⟩
  | .ok status => ⟨⟨{ tag with last := some status }, worked.after⟩, .ok status⟩

namespace Node

/-- A wrapper inverts a node if it is an inverting decorator of the same node, but for the numbers. -/
inductive Inverts (node : Node A) : Node A → Prop
  | inverts (tag : Tag) {child : Node A} (same : node.unnumbered = child.unnumbered) :
      Inverts node ⟨tag, .decorator .invert child⟩

variable {context : Context D} {counter : Context E} {Subject : Type} {change : Status → Status}
  {node wrapper : Node A}

/-- Numbers make no difference to inversions. -/
theorem Inverts.renumbered {node wrapper other counter : Node A} (inverts : node.Inverts wrapper)
    (same : node.unnumbered = other.unnumbered) (alike : wrapper.unnumbered = counter.unnumbered) :
    other.Inverts counter := by
  obtain ⟨_, inner⟩ := inverts
  have bodies := corresponds_of_unnumbered alike
  obtain ⟨tag, body⟩ := counter
  cases bodies with
  | decorator _ related => exact .inverts tag (same.symm.trans (inner.trans related))

/-- Numbers do not matter to which nodes are inverted by which wrappers. -/
theorem renumbered_inverts {nodes wrappers others counters : List (Node A)}
    (inverts : List.Forall₂ Inverts nodes wrappers)
    (same : List.Forall₂ (fun node other => node.unnumbered = other.unnumbered) nodes others)
    (alike : List.Forall₂ (fun node other => node.unnumbered = other.unnumbered) wrappers counters) :
    List.Forall₂ Inverts others counters := by
  induction inverts generalizing others counters with
  | nil =>
      cases same
      cases alike
      exact .nil
  | cons first _ inductionHypothesis =>
      obtain _ | ⟨here, below⟩ := same
      obtain _ | ⟨there, beneath⟩ := alike
      exact .cons (first.renumbered here there) (inductionHypothesis below beneath)

/-- In a harmless context the tick of a node does what its body does. -/
theorem echoes_work (tag : Tag) {Value : Type} {Final : Attempt (Node A) Status → Value → Prop}
    {body : Body A (Node A)} {other : Run A E Value} (harmless : context.Harmless)
    (worked : ∀ info, Run.Echoes (fun attempt value => Final (attempt.tagged tag) value)
      ((body.map fun node => ⟨node, node.tick⟩).tick info context) other) :
    Run.Echoes Final (tick ⟨tag, body⟩ context) other := by
  rw [tick_eq, ← bind_pure other]
  refine (harmless.silent_enter _).left ((worked _).bind ?_)
  rintro ⟨after, result⟩ value related
  cases result with
  | error panic => exact Run.echoes_pure related
  | ok status => exact (harmless.silent_notify _).left (Run.echoes_pure related)

/-- A tick of a node echoes whatever its body echoes, for its frame is silent. -/
theorem echoes_tick_left (tag : Tag) {Related : Body A (Node A) → Subject → Prop} {body : Body A (Node A)}
    {other : Run A E (Attempt Subject Status)} (harmless : context.Harmless)
    (worked : ∀ info, Run.Echoes (Attempt.Mirrors change Related)
      ((body.map fun node => ⟨node, node.tick⟩).tick info context) other) :
    Run.Echoes (Attempt.Mirrors change fun node => Related node.body) (tick ⟨tag, body⟩ context)
      other := by
  refine echoes_work tag harmless fun info => (worked info).imp ?_
  rintro ⟨after, _ | status⟩ ⟨twin, _⟩ ⟨related, rfl⟩
  · exact ⟨related, rfl⟩
  · exact ⟨related, rfl⟩

/-- The frame of the tick that answers is as silent. -/
theorem echoes_tick_right (tag : Tag) {Related : Subject → Body A (Node A) → Prop} {body : Body A (Node A)}
    {run : Run A D (Attempt Subject Status)} (harmless : counter.Harmless)
    (worked : ∀ info, Run.Echoes (Attempt.Mirrors change Related) run
      ((body.map fun node => ⟨node, node.tick⟩).tick info counter)) :
    Run.Echoes (Attempt.Mirrors change fun subject node => Related subject node.body) run
      (tick ⟨tag, body⟩ counter) := by
  refine (echoes_work tag harmless fun info => (worked info).flip.imp ?_).flip
  rintro ⟨twin, _⟩ ⟨after, _ | status⟩ ⟨related, rfl⟩
  · exact ⟨related, rfl⟩
  · exact ⟨related, rfl⟩

/-- An inverting decorator around an echo inverts its status. -/
theorem echoes_invert (tag : Tag) {Related : Subject → Node A → Prop} {child : Node A}
    {run : Run A D (Attempt Subject Status)} (harmless : counter.Harmless)
    (inner : Run.Echoes (Attempt.Mirrors change Related) run (child.tick (counter.child 0))) :
    Run.Echoes (Attempt.Mirrors (fun status => (change status).invert) fun subject node =>
        ∃ child, node.body = .decorator .invert child ∧ Related subject child) run
      (tick ⟨tag, .decorator .invert child⟩ counter) := by
  let body : Body A (Node A) := .decorator .invert child
  have worked (info : NodeInfo) :
      Run.Echoes (Attempt.Mirrors (fun status => (change status).invert) fun subject body =>
          ∃ child, body = .decorator .invert child ∧ Related subject child) run
        ((body.map fun node => ⟨node, node.tick⟩).tick info counter) := by
    have passed : ((body.map fun node => ⟨node, node.tick⟩).tick info counter :
        Run A E (Attempt (Body A (Node A)) Status)) = (do
          let ticked ← child.tick (counter.child 0)
          pure ⟨.decorator .invert ticked.after, ticked.result.map Status.invert⟩) := by
      simp only [body, Body.map, Body.tick, Decorator.tick, Decorator.pass, bind_assoc, pure_bind,
        Attempt.map]
    rw [passed, ← bind_pure run]
    refine inner.bind ?_
    rintro ⟨after, result⟩ ⟨twin, _⟩ ⟨related, rfl⟩
    refine Run.echoes_pure ⟨⟨twin, rfl, related⟩, ?_⟩
    cases result <;> rfl
  exact echoes_tick_right tag harmless worked

/-- Nodes that are the same but for their numbers echo each other. -/
theorem echoes_tick {twin : Node A} (parallel : context.Parallel counter)
    (same : node.unnumbered = twin.unnumbered) :
    Run.Echoes (Attempt.Mirrors (fun status => status) fun node twin : Node A => node.unnumbered = twin.unnumbered)
      (node.tick context) (twin.tick counter) := by
  have ticks : Run.Echoes (Attempt.Agree _) (node.tick context) (twin.tick counter) :=
    echoes.tick parallel same
  refine ticks.imp fun first second agree => ⟨agree.after, ?_⟩
  rw [← agree.result]
  cases first.result <;> rfl

/-- A wrapper echoes the node that it inverts, with inverted statuses. -/
theorem Inverts.echoes_tick (inverts : node.Inverts wrapper) (parallel : context.Parallel counter) :
    Run.Echoes (Attempt.Mirrors Status.invert Inverts) (node.tick context) (wrapper.tick counter) := by
  obtain ⟨tag, same⟩ := inverts
  have below : context.Parallel (counter.child 0) :=
    ⟨parallel.clock, parallel.left, parallel.right.child 0⟩
  refine (echoes_invert tag parallel.right (Node.echoes_tick below same)).imp ?_
  rintro ⟨after, result⟩ ⟨⟨outer, _⟩, _⟩ ⟨⟨child, rfl, related⟩, rfl⟩
  exact ⟨.inverts outer related, rfl⟩

theorem reset_decorator (tag : Tag) (own : Decorator A) (child : Node A) (place : Place) :
    (reset ⟨tag, .decorator own child⟩ place : Run A D (Node A)) = (do
      let tag ← tag.clear place
      let child ← child.reset (0 :: place)
      pure ⟨tag, .decorator own.forget child⟩) := by
  simp [reset_eq, Body.cancel, Body.forget, Body.visit]

theorem reset_composite (tag : Tag) (own : Composite) (nodes : List (Node A)) (place : Place) :
    (reset ⟨tag, .composite own nodes⟩ place : Run A D (Node A)) = (do
      let tag ← tag.clear place
      let nodes ← Body.visitFrom (fun position child => child.reset (position :: place)) 0 nodes
      pure ⟨tag, .composite own.forget nodes⟩) := by
  simp [reset_eq, Body.cancel, Body.forget, Body.visit]

/-- Nodes that differ in their numbers alone are reset alike. -/
theorem echoes_reset {twin : Node A} (same : node.unnumbered = twin.unnumbered)
    (place counter : Place) :
    Run.Echoes (fun node twin : Node A => node.unnumbered = twin.unnumbered)
      (node.reset place : Run A D (Node A)) (twin.reset counter : Run A E (Node A)) := by
  have parallel : Context.Parallel (⟨.zero, none, place⟩ : Context D)
      (⟨.zero, none, counter⟩ : Context E) := ⟨rfl, nofun, nofun⟩
  exact echoes.reset parallel same

/-- A reset of a wrapper resets what it inverts. -/
theorem Inverts.echoes_reset (inverts : node.Inverts wrapper) (place counter : Place) :
    Run.Echoes Inverts (node.reset place : Run A D (Node A))
      (wrapper.reset counter : Run A E (Node A)) := by
  obtain ⟨tag, same⟩ := inverts
  rw [reset_decorator, ← bind_pure (node.reset place)]
  refine (tag.silent_clear counter).right ((Node.echoes_reset same place _).bind ?_)
  exact fun _ _ renewed => Run.echoes_pure (.inverts _ renewed)

/-- In harmless contexts an abort is a reset that no panic cuts short. -/
theorem Inverts.echoes_abortIn (inverts : node.Inverts wrapper) (parallel : context.Parallel counter) :
    Run.Echoes (fun first second : Attempt (Node A) Unit => first.after.Inverts second.after ∧
        first.result = .ok () ∧ second.result = .ok ())
      (node.abortIn context) (wrapper.abortIn counter) := by
  unfold abortIn
  refine (silent_reportAbort parallel.left node).left ?_
  refine (silent_reportAbort parallel.right wrapper).right ?_
  simp only [abort_eq_reset]
  refine (inverts.echoes_reset _ _).bind fun _ _ renewed => ?_
  exact Run.echoes_pure ⟨renewed, rfl, rfl⟩

end Node

end Behavior
