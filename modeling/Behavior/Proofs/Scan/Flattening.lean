import Behavior.Proofs.Dual.Duality
import Behavior.Proofs.Scan.Grouping

namespace Behavior

variable {A : Agent} {D E : Type}

/-- A list that is related to two appended ones is split where they meet. -/
theorem forall₂_append {Child Other : Type} {Related : Child → Other → Prop}
    {first second : List Child} {others : List Other}
    (related : List.Forall₂ Related (first ++ second) others) :
    ∃ front back, others = front ++ back ∧ List.Forall₂ Related first front ∧
      List.Forall₂ Related second back := by
  refine ⟨others.take first.length, others.drop first.length, (List.take_append_drop _ _).symm, ?_, ?_⟩
  · simpa only [List.take_left] using List.forall₂_take first.length related
  · simpa only [List.drop_left] using List.forall₂_drop first.length related

/-- A list is cut at any position in it. -/
theorem exists_append {Child : Type} {children : List Child} {position : Nat}
    (inside : position ≤ children.length) :
    ∃ seen rest, children = seen ++ rest ∧ seen.length = position :=
  ⟨children.take position, children.drop position, (List.take_append_drop _ _).symm,
    List.length_take_of_le inside⟩

/-- A visit of two lists visits the second after the first. -/
theorem Body.visitFrom_append {Child Other : Type} {M : Type → Type} [Monad M] [LawfulMonad M]
    (go : Nat → Child → M Other) (position : Nat) (first second : List Child) :
    visitFrom go position (first ++ second) = (do
      let front ← visitFrom go position first
      let back ← visitFrom go (position + first.length) second
      pure (front ++ back)) := by
  induction first generalizing position with
  | nil => simp [visitFrom]
  | cons child rest inductionHypothesis =>
      have next : position + (rest.length + 1) = position + 1 + rest.length := by omega
      simp [visitFrom, inductionHypothesis, next]

namespace Node

open Composite

variable {context : Context D} {counter : Context E} {skip : Status} {before inner after : Nat}
  {running inside resumed : Option Nat} {own flat : Composite} {node twin : Node A}

/-- A composite that resumes, with a group of its own kind among its children, flattens to a composite
of this kind that has the children of the group in its place and resumes from the same child. -/
inductive Flattens (skip : Status) (before inner after : Nat) : Node A → Node A → Prop
  | flattens {tag label other : Tag} {own group flat : Composite} {running inside resumed : Option Nat}
      {front middle back others : List (Node A)} (resuming : own.resumption? = some (skip, running))
      (grouped : group.resumption? = some (skip, inside))
      (flattened : flat.resumption? = some (skip, resumed))
      (nests : Nests before inner after running inside resumed) (first : front.length = before)
      (second : middle.length = inner) (third : back.length = after)
      (alike : List.Forall₂ Resembles (front ++ (middle ++ back)) others) :
      Flattens skip before inner after
        ⟨tag, .composite own (front ++ ⟨label, .composite group middle⟩ :: back)⟩
        ⟨other, .composite flat others⟩

/-- Composites flatten if the scans that they resume regroup. -/
theorem flattens_of_regroups (parallel : context.Parallel counter) (tag other : Tag)
    {seen rest passed left : List (Node A)} {position final : Nat}
    (resuming : own.resumption? = some (skip, running)) (length : seen.length = position)
    (start : running.getD 0 = position) (flattened : flat.resumption? = some (skip, resumed))
    (count : passed.length = final) (begin : resumed.getD 0 = final)
    (scans : Run.Echoes (fun scanned other => Regroups skip before inner after
        (scanned.map fun nodes => seen ++ nodes) (other.map fun nodes => passed ++ nodes))
      (scan skip context position (rest.map arm)) (scan skip counter final (left.map arm))) :
    Run.Echoes (Attempt.Accords (Flattens skip before inner after) fun _ _ => True)
      (tick ⟨tag, .composite own (seen ++ rest)⟩ context)
      (tick ⟨other, .composite flat (passed ++ left)⟩ counter) := by
  have flat := (echoes_resumed other parallel.right flattened count begin scans.flip).flip
  refine (echoes_resumed tag parallel.left resuming length start flat).imp ?_
  rintro ⟨node, _⟩ ⟨twin, _⟩ ⟨⟨nodes, result⟩, ⟨rfl, here⟩, ⟨others, final⟩, ⟨rfl, there⟩, regroups⟩
  dsimp only [Attempt.map] at regroups here there ⊢
  generalize seen ++ nodes = whole at regroups here
  generalize passed ++ others = part at regroups there
  cases regroups with
  | unwound panic => exact .unwound panic trivial
  | ended grouped nests same first second third alike =>
      obtain ⟨tag, next, rfl, resuming⟩ := here _ rfl
      obtain ⟨other, following, rfl, flattened⟩ := there _ rfl
      dsimp only [Except.map]
      rw [same]
      exact .returned _ (.flattens resuming grouped flattened nests first second third alike)

/-- The tick of a composite with a group echoes that of the composite without it, and they flatten
again if it returns. -/
theorem Flattens.echoes_tick (flattens : node.Flattens skip before inner after twin)
    (parallel : context.Parallel counter) :
    Run.Echoes (Attempt.Accords (Flattens skip before inner after) fun _ _ => True)
      (node.tick context) (twin.tick counter) := by
  obtain @⟨tag, label, other, own, group, flat, running, inside, resumed, front, middle, back, _,
    resuming, grouped, flattened, nests, first, second, third, alike⟩ := flattens
  obtain ⟨fore, _, rfl, fronts, below⟩ := forall₂_append alike
  obtain ⟨core, rear, rfl, middles, backs⟩ := forall₂_append below
  -- Both sides start at the same child, which stands in front of the group, in it, or behind it.
  cases nests with
  | idle =>
      have none : ([] : List (Node A)).length = 0 := List.length_nil
      have scans := echoes_front parallel label grouped .nil fronts middles backs
        ((Nat.zero_add _).trans first) second third
      have ticks := flattens_of_regroups parallel tag other resuming none rfl flattened none rfl scans
      exact ticks
  | front reached =>
      obtain ⟨seen, rest, rfl, rfl⟩ := exists_append (first.symm ▸ Nat.le_of_lt reached)
      obtain ⟨passed, left, rfl, seens, rests⟩ := forall₂_append fronts
      rw [List.length_append] at first
      have scans := echoes_front parallel label grouped seens rests middles backs first second third
      rw [List.append_assoc, List.append_assoc]
      exact flattens_of_regroups parallel tag other resuming rfl rfl flattened
        seens.length_eq.symm rfl scans
  | group reached =>
      obtain ⟨seen, rest, rfl, rfl⟩ := exists_append (second.symm ▸ Nat.le_of_lt reached)
      obtain ⟨passed, left, rfl, seens, rests⟩ := forall₂_append middles
      rw [List.length_append] at second
      have scans := echoes_group parallel label grouped rfl fronts seens rests backs first second third
      have count : (fore ++ passed).length = before + seen.length := by
        rw [List.length_append, ← fronts.length_eq, ← seens.length_eq, first]
      rw [List.append_assoc, ← List.append_assoc fore]
      refine flattens_of_regroups parallel tag other resuming first rfl flattened count rfl ?_
      simpa only [List.append_assoc] using scans
  | back reached =>
      obtain ⟨seen, rest, rfl, rfl⟩ := exists_append (third.symm ▸ Nat.le_of_lt reached)
      obtain ⟨passed, left, rfl, seens, rests⟩ := forall₂_append backs
      rw [List.length_append] at third
      have scans := echoes_back parallel label grouped fronts middles seens rests first second third
      have length : (front ++ ⟨label, .composite group middle⟩ :: seen).length =
          before + 1 + seen.length := by
        rw [List.length_append, List.length_cons, first]
        omega
      have count : (fore ++ (core ++ passed)).length = before + inner + seen.length := by
        rw [List.length_append, List.length_append, ← fronts.length_eq, ← middles.length_eq,
          ← seens.length_eq, first, second, Nat.add_assoc]
      rw [← List.cons_append, ← List.append_assoc, ← List.append_assoc core, ← List.append_assoc fore]
      refine flattens_of_regroups parallel tag other resuming length rfl flattened count rfl ?_
      simpa only [List.append_assoc, List.cons_append] using scans

/-- Resets of nodes that resemble each other leave nodes that do, wherever they stand. -/
theorem echoes_renewed {nodes others : List (Node A)} (alike : List.Forall₂ Resembles nodes others)
    (place counter : Place) (position final : Nat) :
    Run.Echoes (fun renewed twins => List.Forall₂ Resembles renewed twins ∧
        renewed.length = nodes.length)
      (Body.visitFrom (fun position child => child.reset (position :: place)) position nodes :
        Run A D (List (Node A)))
      (Body.visitFrom (fun position child => child.reset (position :: counter)) final others :
        Run A E (List (Node A))) :=
  Body.echoes_visitFrom (fun same _ _ => echoes_reset same _ _) alike position final

/-- A composite with a group and the one without it are reset alike. -/
theorem Flattens.echoes_reset (flattens : node.Flattens skip before inner after twin)
    (place counter : Place) :
    Run.Echoes (Flattens skip before inner after) (node.reset place : Run A D (Node A))
      (twin.reset counter : Run A E (Node A)) := by
  obtain @⟨tag, label, other, own, group, flat, running, inside, resumed, front, middle, back, _,
    resuming, grouped, flattened, nests, first, second, third, alike⟩ := flattens
  obtain ⟨fore, _, rfl, fronts, below⟩ := forall₂_append alike
  obtain ⟨core, rear, rfl, middles, backs⟩ := forall₂_append below
  rw [reset_composite, reset_composite, Body.visitFrom_append, Body.visitFrom_append,
    Body.visitFrom_append, Body.visitFrom, reset_composite]
  simp only [bind_assoc, pure_bind]
  refine (tag.silent_clear _).left ((other.silent_clear _).right ?_)
  refine (echoes_renewed fronts _ _ _ _).bind ?_
  rintro _ _ ⟨ahead, wide⟩
  refine (label.silent_clear _).left ((echoes_renewed middles _ _ _ _).bind ?_)
  rintro _ _ ⟨within, deep⟩
  refine (echoes_renewed backs _ _ _ _).bind ?_
  rintro _ _ ⟨behind, long⟩
  exact Run.echoes_pure (.flattens (forget_of_resumption resuming) (forget_of_resumption grouped)
    (forget_of_resumption flattened) .idle (wide.trans first) (deep.trans second) (long.trans third)
    (List.rel_append ahead (List.rel_append within behind)))

/-- Numbers make no difference to flattening. -/
theorem Flattens.renumbered {other counter : Node A}
    (flattens : node.Flattens skip before inner after twin) (same : node.Resembles other)
    (alike : twin.Resembles counter) : other.Flattens skip before inner after counter := by
  obtain @⟨_, _, _, _, _, _, _, _, _, front, middle, back, _, resuming, grouped, flattened, nests,
    first, second, third, related⟩ := flattens
  have bodies := corresponds_of_unnumbered same
  have flat := corresponds_of_unnumbered alike
  obtain ⟨tag, body⟩ := other
  obtain ⟨label, twin⟩ := counter
  cases bodies with
  | composite _ nodes =>
      cases flat with
      | @composite _ _ others twins =>
          obtain ⟨fore, _, rfl, fronts, below⟩ := forall₂_append nodes
          obtain _ | @⟨_, group, _, rear, here, backs⟩ := below
          have inward := corresponds_of_unnumbered here
          obtain ⟨name, within⟩ := group
          cases inward with
          | @composite _ _ core middles =>
              have renumbered : List.Forall₂ Resembles (fore ++ (core ++ rear)) others := by
                have nodes := List.rel_append fronts (List.rel_append middles backs)
                rw [forall₂_unnumbered] at related twins nodes ⊢
                exact nodes.symm.trans (related.trans twins)
              exact .flattens resuming grouped flattened nests (fronts.length_eq.symm.trans first)
                (middles.length_eq.symm.trans second) (backs.length_eq.symm.trans third) renumbered

/-- Only a panic may tear the two apart. When it strikes behind a group that has just finished, the
group starts over with the next tick, while the composite without it resumes in the middle. -/
theorem simulation_flattens (skip : Status) (before inner after : Nat) :
    CalmSimulation D E (Flattens (A := A) skip before inner after) fun _ _ => True where
  tick flattens := flattens.echoes_tick
  reset flattens := flattens.echoes_reset _ _

/-- The composites with a group of their own kind, and the composites that have its children in its
place. -/
inductive Flat (xs ys zs : List (Node A)) : Node A → Node A → Prop
  | selector : Flat xs ys zs (.selector (xs ++ [.selector ys] ++ zs)) (.selector (xs ++ ys ++ zs))
  | sequence : Flat xs ys zs (.sequence (xs ++ [.sequence ys] ++ zs)) (.sequence (xs ++ ys ++ zs))

/-- The children of the second node are those of the first with the children of the group in its place,
and what they remember is the same at every depth. -/
def SameParts (before inner after : Nat) (node twin : Node A) : Prop :=
  ∃ front group back, node.children = front ++ [group] ++ back ∧ front.length = before ∧
    group.children.length = inner ∧ back.length = after ∧
      twin.children.map unnumbered = (front ++ group.children ++ back).map unnumbered

/-- A flat list is flattened by the status that is skipped. -/
theorem Flat.flattens {xs ys zs : List (Node A)} (flat : Flat xs ys zs node twin) :
    ∃ skip, node.Flattens skip xs.length ys.length zs.length twin := by
  cases flat with
  | selector =>
      refine ⟨.failure, ?_⟩
      rw [List.append_assoc, List.append_assoc]
      exact .flattens rfl rfl rfl .idle rfl rfl rfl (forall₂_unnumbered.2 rfl)
  | sequence =>
      refine ⟨.success, ?_⟩
      rw [List.append_assoc, List.append_assoc]
      exact .flattens rfl rfl rfl .idle rfl rfl rfl (forall₂_unnumbered.2 rfl)

/-- Flattening keeps the parts in front of the group, in it and behind it. -/
theorem Flattens.sameParts (flattens : node.Flattens skip before inner after twin) :
    node.SameParts before inner after twin := by
  obtain @⟨_, label, _, _, group, _, _, _, _, front, middle, back, others, _, _, _, _, first, second,
    third, alike⟩ := flattens
  refine ⟨front, ⟨label, .composite group middle⟩, back, ?_, first, second, third, ?_⟩
  · rw [List.append_assoc]
    rfl
  · rw [List.append_assoc]
    exact (forall₂_unnumbered.1 alike).symm

end Node

namespace Host

variable {node twin : Node A} {xs ys zs : List (Node A)} {settings : Settings} {tree other : Tree A D}
  {before middle ready : Stage A D} {first second : Trace A}

/-- A selector in a selector, or a sequence in a sequence, and the composite that has its children in
its place return the same results, make the same calls of the same agent and have the same parts after
everything that they are asked, on their own and as roots of trees without a sink, as long as nothing
panics. -/
theorem flat_echoes (flat : Node.Flat xs ys zs node twin)
    (builds : (Tree.build node settings).Leads before first (.ok tree) middle)
    (rebuilds : (Tree.build twin settings).Leads before second (.ok other) ready)
    (moves : List ((A.State → A.State) × Errand)) (stage : Stage A D) :
    ((∀ outcome ∈ (bare node).drive moves stage, outcome.Returns) →
      List.Forall₂ (Outcome.Echoes (Attempt.Agree fun host twin =>
          host.root.SameParts xs.length ys.length zs.length twin.root))
        ((bare node).drive moves stage) ((bare twin).drive moves stage)) ∧
    ((∀ outcome ∈ (planted tree.clearSink).drive moves stage, outcome.Returns) →
      List.Forall₂ (Outcome.Echoes (Attempt.Agree fun host twin =>
          host.root.SameParts xs.length ys.length zs.length twin.root))
        ((planted tree.clearSink).drive moves stage) ((planted other.clearSink).drive moves stage)) := by
  obtain ⟨skip, flattens⟩ := flat.flattens
  have simulation : Node.CalmSimulation D D (Node.Flattens (A := A) skip _ _ _) _ :=
    Node.simulation_flattens skip xs.length ys.length zs.length
  have parts (outcome other : Outcome A D (Attempt (Host A D) (Option Status)))
      (echoes : outcome.Echoes (Attempt.Agree (Matches
        (Node.Flattens skip xs.length ys.length zs.length))) other) :
      outcome.Echoes (Attempt.Agree fun host twin =>
        host.root.SameParts xs.length ys.length zs.length twin.root) other :=
    ⟨⟨echoes.value.after.roots.sameParts, echoes.value.result⟩, echoes.agent, echoes.made⟩
  have numbered := flattens.renumbered (node.unnumbered_number 0).symm (twin.unnumbered_number 0).symm
  have trees := Tree.matches_of_build builds rebuilds numbered
  exact ⟨fun returns => (drive_accords simulation (.bare flattens) rfl fun outcome member =>
      .inl (returns outcome member)).imp parts,
    fun returns => (drive_accords simulation (.planted trees) rfl fun outcome member =>
      .inl (returns outcome member)).imp parts⟩

end Host

namespace Sample

/-- A condition, an operation in a sequence of its own, and another operation. -/
def detour : Node agent :=
  .sequence [.condition (A := agent) (), .sequence [.asyncAction (A := agent) ()],
    .asyncAction (A := agent) ()]

/-- The operations follow the condition without a detour. -/
def shortcut : Node agent :=
  .sequence [.condition (A := agent) (), .asyncAction (A := agent) (), .asyncAction (A := agent) ()]

/-- With the flag up the first operation is waited for, and with the flag down both are completed. -/
def journey : List ((Bool → Bool) × Errand) :=
  [(fun _ => true, .tick .zero), (fun _ => false, .tick .zero), (id, .abort)]

end Sample

namespace Host

open Sample in
/-- The detour and the shortcut echo each other on the journey. -/
theorem flat_echoes_on_journey :
    List.Forall₂ (Outcome.Echoes (Attempt.Agree fun host twin => host.root.SameParts 1 1 1 twin.root))
        ((bare (D := Unit) detour).drive journey ⟨true, ()⟩)
        ((bare (D := Unit) shortcut).drive journey ⟨true, ()⟩) ∧
      List.Forall₂ (Outcome.Echoes (Attempt.Agree fun host twin => host.root.SameParts 1 1 1 twin.root))
        ((planted (grown detour).clearSink).drive journey ⟨true, ()⟩)
        ((planted (grown shortcut).clearSink).drive journey ⟨true, ()⟩) := by
  obtain ⟨_, builds⟩ := builds_grown detour ⟨true, ()⟩
  obtain ⟨_, rebuilds⟩ := builds_grown shortcut ⟨true, ()⟩
  have flat : Node.Flat [.condition (A := agent) ()] [.asyncAction (A := agent) ()]
    [.asyncAction (A := agent) ()] detour shortcut := .sequence
  have echoes := flat_echoes flat builds rebuilds journey ⟨true, ()⟩
  exact ⟨echoes.1 (Outcome.forall_returns [some .running, some .success, none] rfl),
    echoes.2 (Outcome.forall_returns [some .running, some .success, none] rfl)⟩

end Host

end Behavior
