import Behavior.Proofs.Touch.Evolution
import Mathlib.Data.List.Induction

namespace Behavior.Node

variable {A : Agent} {D : Type}

/-- A relation between a node at a place, what happens there and below, and what becomes of the node
spans if it holds where nothing happens to the node and of what happens one after the other. -/
structure Spans (Keeps : Place → Node A → Trace A → Node A → Prop) : Prop where
  done : ∀ place node, Keeps place node [] node
  wrote : ∀ place node record, Keeps place node [⟨place, .output (.record record)⟩] node
  trans : ∀ {place node middle final first second}, Keeps place node first middle →
    Keeps place middle second final → Keeps place node (first ++ second) final

/-- A relation between a node, the events at its place and what becomes of the node composes if it
holds where nothing happens to the node and of events one after the other. -/
structure Composes (Keeps : Node A → List (Event A) → Node A → Prop) : Prop where
  done : ∀ node, Keeps node [] node
  wrote : ∀ node record, Keeps node [.output (.record record)] node
  trans : ∀ {node middle final first second}, Keeps node first middle → Keeps middle second final →
    Keeps node (first ++ second) final

/-- A relation accumulates if it composes and holds of every touch. -/
structure Accumulates (D : Type) (Keeps : Node A → List (Event A) → Node A → Prop) : Prop
    extends Composes Keeps where
  own : ∀ {context : Context D} {node changed : Node A} {touch : Touch} {before after : Stage A D}
    {trace : Trace A}, node.Undergoes context touch before trace changed after →
      Keeps node (trace.eventsAt context.place) changed

variable {context : Context D} {node changed part : Node A} {touch : Touch} {touches : List Touch}
  {before after : Stage A D} {trace : Trace A} {path : Place}

namespace Spans

variable {Keeps : Place → Node A → Trace A → Node A → Prop}

/-- An evolution keeps at a path what each of its touches keeps there. -/
theorem evolves_of_undergoes (spans : Spans Keeps)
    (evolves : node.Evolves context touches trace changed)
    (keeps : ∀ {node changed part : Node A} {touch : Touch} {before after : Stage A D}
      {trace : Trace A}, node.Undergoes context touch before trace changed after →
        node.descendant? path = some part → ∃ next, changed.descendant? path = some next ∧
          Keeps (path ++ context.place) part (trace.within (path ++ context.place)) next)
    (leads : node.descendant? path = some part) :
    ∃ next, changed.descendant? path = some next ∧
      Keeps (path ++ context.place) part (trace.within (path ++ context.place)) next := by
  induction evolves generalizing part with
  | done => exact ⟨part, leads, spans.done _ part⟩
  | wrote record _ inductionHypothesis =>
      obtain ⟨next, led, kept⟩ := inductionHypothesis leads
      refine ⟨next, led, ?_⟩
      rw [← List.singleton_append, Trace.within_append]
      refine spans.trans ?_ kept
      by_cases here : path = []
      · subst here
        have inside : Trace.Inside context.place
            [(⟨context.place, .output (.record record)⟩ : Entry A)] :=
          List.forall_mem_singleton.2 (List.suffix_refl _)
        rw [List.nil_append, inside.within_self]
        exact spans.wrote _ part record
      · rw [Trace.local_nil.cons.within_above here]
        exact spans.done _ part
  | touched undergoes _ inductionHypothesis =>
      obtain ⟨middle, led, first⟩ := keeps undergoes leads
      obtain ⟨next, led, second⟩ := inductionHypothesis led
      refine ⟨next, led, ?_⟩
      rw [Trace.within_append]
      exact spans.trans first second

/-- If every touch in an admitted context keeps a relation at its own place, it does so at each
descendant. -/
theorem undergoes (spans : Spans Keeps) (admits : Context D → Prop)
    (below : ∀ {context position}, admits context → admits (context.child position))
    (own : ∀ {context : Context D} {node changed : Node A} {touch : Touch}
      {before after : Stage A D} {trace : Trace A}, admits context →
        node.Undergoes context touch before trace changed after →
          Keeps context.place node trace changed)
    (admitted : admits context)
    (undergoes : node.Undergoes context touch before trace changed after)
    (leads : node.descendant? path = some part) :
    ∃ next, changed.descendant? path = some next ∧
      Keeps (path ++ context.place) part (trace.within (path ++ context.place)) next := by
  -- The path is taken apart at its end, where it enters the first child.
  induction path using List.reverseRecOn
    generalizing node changed touch before after trace context part with
  | nil =>
      obtain rfl := Option.some.inj leads
      refine ⟨changed, rfl, ?_⟩
      rw [List.nil_append, undergoes.populates.inside.within_self]
      exact own admitted undergoes
  | append_singleton path position inductionHypothesis =>
      rw [descendant?_concat, Option.bind_eq_some_iff] at leads
      obtain ⟨child, present, leads⟩ := leads
      obtain ⟨_, last, taken, evolves, _⟩ := undergoes.evolves present
      obtain ⟨next, led, kept⟩ :=
        spans.evolves_of_undergoes evolves (inductionHypothesis (below admitted)) leads
      refine ⟨next, by rw [descendant?_concat, taken, Option.bind_some, led], ?_⟩
      have place : path ++ [position] ++ context.place = path ++ (position :: context.place) := by
        simp
      rwa [place, ← Trace.within_within ⟨path, rfl⟩]

/-- What spans the touches of a node holds of its whole evolution, at every place below it. -/
theorem evolves (spans : Spans Keeps) (admits : Context D → Prop)
    (below : ∀ {context position}, admits context → admits (context.child position))
    (own : ∀ {context : Context D} {node changed : Node A} {touch : Touch}
      {before after : Stage A D} {trace : Trace A}, admits context →
        node.Undergoes context touch before trace changed after →
          Keeps context.place node trace changed)
    (admitted : admits context) (evolves : node.Evolves context touches trace changed)
    (leads : node.descendant? path = some part) :
    ∃ next, changed.descendant? path = some next ∧
      Keeps (path ++ context.place) part (trace.within (path ++ context.place)) next :=
  spans.evolves_of_undergoes evolves (spans.undergoes admits below own admitted) leads

end Spans

variable {Keeps : Node A → List (Event A) → Node A → Prop}

namespace Composes

/-- What composes spans, where nothing but the events at the place of the node counts. -/
theorem spans (composes : Composes Keeps) :
    Spans fun place node (trace : Trace A) changed => Keeps node (trace.eventsAt place) changed where
  done _ := composes.done
  wrote _ node record := by simpa using composes.wrote node record
  trans first second := by
    rw [Trace.eventsAt_append]
    exact composes.trans first second

/-- What composes along the touches of a node holds of its whole evolution. -/
theorem evolves (composes : Composes Keeps) (admits : Context D → Prop)
    (below : ∀ {context position}, admits context → admits (context.child position))
    (own : ∀ {context : Context D} {node changed : Node A} {touch : Touch}
      {before after : Stage A D} {trace : Trace A}, admits context →
        node.Undergoes context touch before trace changed after →
          Keeps node (trace.eventsAt context.place) changed)
    (admitted : admits context) (evolves : node.Evolves context touches trace changed)
    (leads : node.descendant? path = some part) :
    ∃ next, changed.descendant? path = some next ∧
      Keeps part (trace.eventsAt (path ++ context.place)) next := by
  obtain ⟨next, led, kept⟩ := composes.spans.evolves admits below own admitted evolves leads
  rw [Trace.eventsAt_within (List.suffix_refl _)] at kept
  exact ⟨next, led, kept⟩

end Composes

/-- Whatever a tree does accumulates at each of its nodes. -/
theorem Accumulates.evolves (accumulates : Accumulates D Keeps)
    (evolves : node.Evolves context touches trace changed)
    (leads : node.descendant? path = some part) :
    ∃ next, changed.descendant? path = some next ∧
      Keeps part (trace.eventsAt (path ++ context.place)) next :=
  accumulates.toComposes.evolves (fun _ => True) (fun _ => trivial)
    (fun _ undergoes => accumulates.own undergoes) trivial evolves leads

/-- What every node keeps through each touch in an admitted context holds everywhere in what a tree
evolves into there. -/
theorem Evolves.everywhere_of_admits {Property : Node A → Prop} (admits : Context D → Prop)
    (below : ∀ {context position}, admits context → admits (context.child position))
    (keeps : ∀ {context : Context D} {node changed : Node A} {touch : Touch}
      {before after : Stage A D} {trace : Trace A}, admits context →
        node.Undergoes context touch before trace changed after → Property node → Property changed)
    (admitted : admits context) (evolves : node.Evolves context touches trace changed)
    (holds : node.Everywhere Property) : changed.Everywhere Property := by
  have composes : Composes fun (node : Node A) _ changed => Property node → Property changed := {
    done := fun _ held => held
    wrote := fun _ _ held => held
    trans := fun first second held => second (first held) }
  intro part member
  obtain ⟨path, leads⟩ := (mem_preorder_iff changed part).1 member
  obtain ⟨original, led, _⟩ := descendant?_of_pristine evolves.pristine.symm leads
  obtain ⟨next, found, kept⟩ := composes.evolves admits below keeps admitted evolves led
  obtain rfl := Option.some.inj (leads.symm.trans found)
  exact kept (holds.descendant led)

/-- What every node keeps through each touch holds everywhere in what a tree evolves into. -/
theorem Evolves.everywhere {Property : Node A → Prop}
    (keeps : ∀ {context : Context D} {node changed : Node A} {touch : Touch}
      {before after : Stage A D} {trace : Trace A},
        node.Undergoes context touch before trace changed after → Property node → Property changed)
    (evolves : node.Evolves context touches trace changed) (holds : node.Everywhere Property) :
    changed.Everywhere Property :=
  evolves.everywhere_of_admits (fun _ => True) (fun _ => trivial) (fun _ => keeps) trivial holds

end Behavior.Node
