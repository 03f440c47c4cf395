import Behavior.Proofs.Dual.Loops
import Behavior.Proofs.Echo.Driving

namespace Behavior

variable {A : Agent} {D E : Type}

namespace Node

/-- The duals of the nodes that wait for a failure, built of inversions and of the nodes that wait for
a success. -/
inductive Dual : Node A → Node A → Prop
  | sequence (children : List (Node A)) :
      Dual (.sequence children) (.invert (.selector (children.map .invert)))
  | reactiveSequence (children : List (Node A)) :
      Dual (.reactiveSequence children) (.invert (.reactiveSelector (children.map .invert)))
  | retrying (times : Nat) (child : Node A) :
      Dual (.retrying times child) (.invert (.repeating times (.invert child)))

/-- Below the children of two nodes it looks the same, but for the numbers, although there are two
more inversions on the paths of the second. -/
def SameInside (node twin : Node A) : Prop :=
  ∀ (path : Place) (position : Nat), (node.descendant? (path ++ [position])).map unnumbered =
    (twin.descendant? (path ++ [0, position, 0])).map unnumbered

/-- A node mirrors the inversion of a node with a dual body. -/
inductive Mirrors (node : Node A) : Node A → Prop
  | mirrors (tag : Tag) {dual : Node A} (bodies : node.body.Mirrors dual.body) :
      Mirrors node ⟨tag, .decorator .invert dual⟩

variable {node twin : Node A}

/-- Each child is inverted by its wrapper. -/
theorem forall₂_inverts_invert (children : List (Node A)) :
    List.Forall₂ Inverts children (children.map invert) := by
  induction children with
  | nil => exact .nil
  | cons child rest inductionHypothesis => exact .cons (.inverts _ rfl) inductionHypothesis

/-- Duals mirror each other as they are built. -/
theorem Dual.mirrors (dual : node.Dual twin) : node.Mirrors twin := by
  cases dual with
  | sequence children => exact .mirrors _ (.sequence none (forall₂_inverts_invert children))
  | reactiveSequence children =>
      exact .mirrors _ (.reactiveSequence rfl nofun (forall₂_inverts_invert children))
  | retrying times child => exact .mirrors _ (.retrying times 0 (.inverts _ rfl))

/-- Nodes that mirror each other have the same children inside. -/
theorem Mirrors.sameInside (mirrors : node.Mirrors twin) : node.SameInside twin := by
  obtain ⟨tag, bodies⟩ := mirrors
  rename_i dual
  intro path position
  have split : path ++ [0, position, 0] = ((path ++ [0]) ++ [position]) ++ [0] := by simp
  have outer : (Node.children ⟨tag, .decorator .invert dual⟩)[0]? = some dual := rfl
  have children : Option.Rel Inverts node.children[position]? dual.children[position]? :=
    Lockstep.getElem? bodies.children position
  rw [split, descendant?_concat, descendant?_concat, outer, Option.bind_some, descendant?_concat]
  generalize node.children[position]? = child at children
  generalize dual.children[position]? = wrapper at children
  cases children with
  | none => rfl
  | some inverts =>
      obtain ⟨tag, same⟩ := inverts
      rw [Option.bind_some, Option.bind_some, descendant?_concat]
      exact descendant?_of_unnumbered same path

/-- Numbers make no difference to duals. -/
theorem Mirrors.renumbered {other counter : Node A} (mirrors : node.Mirrors twin)
    (same : node.unnumbered = other.unnumbered) (alike : twin.unnumbered = counter.unnumbered) :
    other.Mirrors counter := by
  obtain ⟨_, bodies⟩ := mirrors
  have outer := corresponds_of_unnumbered alike
  obtain ⟨tag, body⟩ := counter
  cases outer with
  | decorator _ related =>
      exact .mirrors tag
        (bodies.renumbered (corresponds_of_unnumbered same) (corresponds_of_unnumbered related))

/-- Nodes and the inversions of their duals simulate each other. -/
theorem simulation_mirrors : Simulation D E (Mirrors (A := A)) where
  tick := by
    rintro ⟨tag, body⟩ _ context counter ⟨outer, bodies⟩ parallel
    rename_i dual
    obtain ⟨inner, opposite⟩ := dual
    have below : context.Parallel (counter.child 0) :=
      ⟨parallel.clock, parallel.left, parallel.right.child 0⟩
    have worked (info : NodeInfo) := echoes_invert outer parallel.right
      (echoes_tick_right inner below.right fun other => bodies.echoes_tick below info other)
    refine (echoes_tick_left tag parallel.left worked).imp ?_
    rintro ⟨⟨_, after⟩, result⟩ ⟨⟨_, _⟩, _⟩ ⟨⟨dual, rfl, related⟩, rfl⟩
    refine ⟨.mirrors _ related, ?_⟩
    cases result with
    | error panic => rfl
    | ok status => exact congrArg Except.ok (Status.invert_invert status).symm
  reset := by
    rintro ⟨tag, body⟩ _ ⟨outer, bodies⟩
    rename_i dual
    obtain ⟨inner, opposite⟩ := dual
    rw [reset_decorator, ← bind_pure (reset ⟨tag, body⟩ _)]
    refine (outer.silent_clear _).right ((bodies.echoes_reset tag inner _ _).bind ?_)
    exact fun _ _ renewed => Run.echoes_pure (.mirrors _ renewed)

end Node

namespace Host

variable {node twin : Node A} {settings : Settings} {tree other : Tree A D}
  {before middle ready : Stage A D} {first second : Trace A}

/-- A node and its dual, each on its own or in a tree without a sink, return the same results, make the
same calls of the same agent and look the same inside their children after everything that they are
asked, whether or not a panic has cut it short. -/
theorem duals_echo (dual : node.Dual twin)
    (builds : (Tree.build node settings).Leads before first (.ok tree) middle)
    (rebuilds : (Tree.build twin settings).Leads before second (.ok other) ready)
    (moves : List ((A.State → A.State) × Errand)) (stage : Stage A D) :
    List.Forall₂ (Outcome.Echoes (Attempt.Agree fun host twin => host.root.SameInside twin.root))
        ((bare node).drive moves stage) ((bare twin).drive moves stage) ∧
      List.Forall₂ (Outcome.Echoes (Attempt.Agree fun host twin => host.root.SameInside twin.root))
        ((planted tree.clearSink).drive moves stage) ((planted other.clearSink).drive moves stage) := by
  have simulation : Node.Simulation D D (Node.Mirrors (A := A)) := Node.simulation_mirrors
  have inside (outcome other : Outcome A D (Attempt (Host A D) (Option Status)))
      (echoes : outcome.Echoes (Attempt.Agree (Matches Node.Mirrors)) other) :
      outcome.Echoes (Attempt.Agree fun host twin => host.root.SameInside twin.root) other :=
    ⟨⟨echoes.value.after.roots.sameInside, echoes.value.result⟩, echoes.agent, echoes.made⟩
  have numbered := dual.mirrors.renumbered (node.unnumbered_number 0).symm
    (twin.unnumbered_number 0).symm
  have trees := Tree.matches_of_build builds rebuilds numbered
  exact ⟨(drive_echoes simulation (.bare dual.mirrors) rfl).imp inside,
    (drive_echoes simulation (.planted trees) rfl).imp inside⟩

/-- A tree that has just been built. -/
def grown (root : Node Sample.agent) : Tree Sample.agent Unit :=
  ⟨"main", (root.number.run 0).1, Settings.standard, 0, none⟩

/-- Every root can be grown into a tree. -/
theorem builds_grown (root : Node Sample.agent) (stage : Stage Sample.agent Unit) :
    ∃ trace, (Tree.build root Settings.standard).Leads stage trace (.ok (grown root)) stage :=
  ⟨_, rfl⟩

/-- The sample root is ticked with the flag up, aborted, and ticked with the flag down. -/
def sampleErrands : List ((Bool → Bool) × Errand) :=
  [(fun _ => true, .tick .zero), (id, .abort), (fun _ => false, .tick .zero)]

/-- The duals of one child echo each other through a list of errands. -/
theorem duals_echo_in_sample :
    List.Forall₂ (Outcome.Echoes (Attempt.Agree fun host twin => host.root.SameInside twin.root))
        ((bare (D := Unit) (.sequence [Sample.root])).drive sampleErrands ⟨true, ()⟩)
        ((bare (D := Unit) (.invert (.selector [.invert Sample.root]))).drive sampleErrands
          ⟨true, ()⟩) ∧
      List.Forall₂ (Outcome.Echoes (Attempt.Agree fun host twin => host.root.SameInside twin.root))
        ((planted (grown (.sequence [Sample.root])).clearSink).drive sampleErrands ⟨true, ()⟩)
        ((planted (grown (.invert (.selector [.invert Sample.root]))).clearSink).drive sampleErrands
          ⟨true, ()⟩) := by
  obtain ⟨_, builds⟩ := builds_grown (.sequence [Sample.root]) ⟨true, ()⟩
  obtain ⟨_, rebuilds⟩ := builds_grown (.invert (.selector [.invert Sample.root])) ⟨true, ()⟩
  exact duals_echo (.sequence [Sample.root]) builds rebuilds sampleErrands ⟨true, ()⟩

end Host

end Behavior
