import Behavior.Proofs.Report.Signs

namespace Behavior

variable {A : Agent} {D : Type}

namespace Trace

variable {place other upper : Place} {trace first second : Trace A}

/-- The statuses that the node at a place returns, in their order. -/
def returnsAt (place : Place) (trace : Trace A) : List Status :=
  (trace.signsAt place).filterMap Sign.returned?

/-- The statuses at a place come trace by trace. -/
@[simp] theorem returnsAt_append :
    returnsAt place (first ++ second) = returnsAt place first ++ returnsAt place second := by
  rw [returnsAt, signsAt_append, List.filterMap_append]
  rfl

@[simp] theorem returnsAt_cons_output (output : Output) :
    returnsAt place (⟨other, .output output⟩ :: trace) = returnsAt place trace := by
  rw [returnsAt, signsAt_cons_output]
  rfl

/-- Nothing at a place is lost if only what lies below it is kept. -/
theorem returnsAt_within (suffix : upper <:+ place) :
    (trace.within upper).returnsAt place = trace.returnsAt place := by
  rw [returnsAt, signsAt_within suffix]
  rfl

/-- A status is returned where a node is left with it. -/
theorem mem_returnsAt {status : Status} :
    status ∈ trace.returnsAt place ↔ .left status ∈ trace.signsAt place := by
  rw [returnsAt, List.mem_filterMap]
  constructor
  · rintro ⟨sign, member, same⟩
    cases sign with
    | left => rwa [← Option.some.inj same]
    | entered | aborted | cleared => cases same
  · exact fun member => ⟨_, member, rfl⟩

/-- A part of a trace has part of the signs. -/
theorem signsAt_subset (inside : first ⊆ second) : first.signsAt place ⊆ second.signsAt place := by
  intro sign member
  obtain ⟨event, listed, same⟩ := List.mem_filterMap.1 member
  have kept := inside ((mem_eventsAt event).1 listed)
  exact List.mem_filterMap.2 ⟨event, (mem_eventsAt event).2 kept, same⟩

/-- A part of a trace has part of the returned statuses. -/
theorem returnsAt_subset (inside : first ⊆ second) :
    first.returnsAt place ⊆ second.returnsAt place := by
  intro status member
  exact mem_returnsAt.2 (signsAt_subset inside (mem_returnsAt.1 member))

end Trace

/-- What a child returns is told at its place. -/
theorem Handles.mem_returnsAt {context : Context D} {nodes final : List (Node A)}
    {before after : Stage A D} {touches : List (Nat × Touch)} {trace : Trace A} {position : Nat}
    {status : Status} (handles : Handles context nodes before touches trace final after)
    (member : (position, .ticked (.ok status)) ∈ touches) :
    status ∈ trace.returnsAt (position :: context.place) := by
  obtain ⟨_, _, _, _, _, _, part, _, _, _, undergoes, inside⟩ := handles.exists_of_mem member
  refine Trace.returnsAt_subset inside (Trace.mem_returnsAt.2 ?_)
  cases undergoes with
  | ticked ticks =>
      rw [show position :: context.place = (context.child position).place from rfl,
        Node.signsAt_of_tick ticks]
      simp

namespace Node

variable {context : Context D} {node changed part : Node A} {touch : Touch} {touches : List Touch}
  {before after : Stage A D} {trace : Trace A} {path : Place}

/-- A reset returns no status. -/
theorem Resets.returnsAt (resets : node.Resets context trace) :
    trace.returnsAt context.place = [] := by
  rw [Trace.returnsAt, resets.signsAt]
  cases node.last <;> rfl

/-- A node returns at most once if it is ticked, and never if it is aborted or reset. -/
theorem Undergoes.length_returnsAt
    (undergoes : node.Undergoes context touch before trace changed after) :
    (trace.returnsAt context.place).length ≤ [touch].countP Touch.isTicked := by
  cases undergoes with
  | reset resets =>
      rw [(resets_of_reset resets).returnsAt]
      exact Nat.zero_le 0
  | aborted aborts =>
      cases abortsIn_of_abortIn aborts with
      | silent _ resets =>
          rw [(resets_of_reset resets).returnsAt]
          exact Nat.zero_le 0
      | reported _ tells resets =>
          rw [Trace.returnsAt_cons_output, Trace.returnsAt_append, Trace.returnsAt, tells.signsAt,
            (resets_of_reset resets).returnsAt]
          exact Nat.zero_le 0
      | unwound _ tells =>
          rw [Trace.returnsAt_cons_output, Trace.returnsAt, tells.signsAt]
          exact Nat.zero_le 0
  | ticked ticks =>
      cases ticked_of_tick ticks with
      | refused announces =>
          rw [Trace.returnsAt, announces.signsAt]
          exact Nat.zero_le 1
      | unwound announces works =>
          rw [Trace.returnsAt, Trace.signsAt_append, announces.signsAt, works.signsAt]
          exact Nat.zero_le 1
      | returned announces works leaves _ =>
          rw [Trace.returnsAt, Trace.signsAt_append, Trace.signsAt_append, announces.signsAt,
            works.signsAt, leaves.signsAt]
          exact Nat.le_refl 1

/-- The returns of an evolution are those of its touches. -/
theorem Evolves.length_returnsAt_of_undergoes
    (evolves : node.Evolves context touches trace changed)
    (most : ∀ {node changed part : Node A} {touch : Touch} {before after : Stage A D}
      {trace : Trace A}, node.Undergoes context touch before trace changed after →
        node.descendant? path = some part →
          (trace.returnsAt (path ++ context.place)).length ≤ [touch].countP Touch.isTicked)
    (leads : node.descendant? path = some part) :
    (trace.returnsAt (path ++ context.place)).length ≤ touches.countP Touch.isTicked := by
  induction evolves generalizing part with
  | done => exact Nat.zero_le _
  | wrote record _ inductionHypothesis =>
      rw [Trace.returnsAt_cons_output]
      exact inductionHypothesis leads
  | touched undergoes _ inductionHypothesis =>
      obtain ⟨_, led, _⟩ := descendant?_of_pristine undergoes.pristine leads
      rw [Trace.returnsAt_append, List.length_append, ← List.singleton_append, List.countP_append]
      exact Nat.add_le_add (most undergoes leads) (inductionHypothesis led)

/-- A tick lets no descendant return twice, and no other touch lets any return. -/
theorem Undergoes.length_returnsAt_descendant
    (undergoes : node.Undergoes context touch before trace changed after)
    (leads : node.descendant? path = some part) :
    (trace.returnsAt (path ++ context.place)).length ≤ [touch].countP Touch.isTicked := by
  -- The path is taken apart at its end, where it enters the first child.
  induction path using List.reverseRecOn
    generalizing node changed touch before after trace context part with
  | nil => exact undergoes.length_returnsAt
  | append_singleton path position inductionHypothesis =>
      rw [descendant?_concat, Option.bind_eq_some_iff] at leads
      obtain ⟨child, present, leads⟩ := leads
      obtain ⟨_, _, _, evolves, once, _⟩ := undergoes.evolves present
      have place : path ++ [position] ++ context.place = path ++ (position :: context.place) := by
        simp
      rw [place, ← Trace.returnsAt_within ⟨path, rfl⟩]
      exact Nat.le_trans (evolves.length_returnsAt_of_undergoes inductionHypothesis leads) once

/-- A node returns at most once for each tick of what is above it. -/
theorem Evolves.length_returnsAt (evolves : node.Evolves context touches trace changed)
    (leads : node.descendant? path = some part) :
    (trace.returnsAt (path ++ context.place)).length ≤ touches.countP Touch.isTicked :=
  evolves.length_returnsAt_of_undergoes Undergoes.length_returnsAt_descendant leads

end Node

end Behavior
