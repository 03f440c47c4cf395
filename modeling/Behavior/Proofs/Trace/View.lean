import Behavior.Proofs.Run.Leads
import Behavior.Proofs.Trace.Place

namespace Behavior

variable {A : Agent} {D View : Type} {view : Event A → Option View} {place other : Place}
  {trace first second : Trace A}

/-- A blind view sees no output. -/
def Event.Blind (view : Event A → Option View) : Prop := ∀ output, view (.output output) = none

namespace Trace

/-- What a view sees of the events at a place, in their order. -/
def viewAt (view : Event A → Option View) (place : Place) (trace : Trace A) : List View :=
  (trace.eventsAt place).filterMap view

/-- A view goes trace by trace. -/
theorem viewAt_append : (first ++ second).viewAt view place =
    first.viewAt view place ++ second.viewAt view place := by
  rw [viewAt, eventsAt_append, List.filterMap_append]
  rfl

/-- A view takes an entry at its own place. -/
theorem viewAt_cons (entry : Entry A) : viewAt view place (entry :: trace) =
    (if entry.place = place then (view entry.event).toList else []) ++ viewAt view place trace := by
  unfold viewAt eventsAt
  rw [List.filterMap_cons]
  by_cases here : entry.place = place
  · rw [if_pos here, if_pos here, List.filterMap_cons]
    cases view entry.event <;> rfl
  · rw [if_neg here, if_neg here]
    rfl

theorem viewAt_cons_output (blind : Event.Blind view) (output : Output) :
    viewAt view place (⟨other, .output output⟩ :: trace) = viewAt view place trace := by
  rw [viewAt_cons, blind output]
  split <;> rfl

/-- A view of a place sees nothing above it. -/
theorem viewAt_within {upper : Place} (suffix : upper <:+ place) :
    (trace.within upper).viewAt view place = trace.viewAt view place := by
  rw [viewAt, eventsAt_within suffix, viewAt]

/-- Nothing is seen at a place if no entry there is seen. -/
theorem viewAt_eq_nil (unseen : ∀ entry ∈ trace, entry.place = place → view entry.event = none) :
    trace.viewAt view place = [] := by
  apply List.filterMap_eq_nil_iff.2
  intro event member
  exact unseen ⟨place, event⟩ ((mem_eventsAt event).1 member) rfl

theorem viewAt_outputs (blind : Event.Blind view) (outputs : List Output) :
    viewAt view place (outputs.map fun output => (⟨other, .output output⟩ : Entry A)) = [] := by
  apply viewAt_eq_nil
  intro entry member _
  obtain ⟨output, _, rfl⟩ := List.mem_map.1 member
  exact blind output

/-- A blind view sees nothing of what is written. -/
theorem Written.viewAt (written : trace.Written other) (blind : Event.Blind view) :
    trace.viewAt view place = [] := by
  apply viewAt_eq_nil
  intro entry member _
  obtain ⟨record, rfl⟩ := written entry member
  exact blind _

/-- A view of a place sees nothing of what is local to another one. -/
theorem Local.viewAt_of_ne (all : trace.Local place) (different : place ≠ other) :
    trace.viewAt view other = [] := by
  rw [Trace.viewAt, all.eventsAt_of_ne different]
  rfl

end Trace

/-- What is told shows its notice alone. -/
theorem Context.Tells.viewAt {context : Context D} {notice : Notice}
    (tells : context.Tells notice trace) (blind : Event.Blind view) :
    trace.viewAt view context.place = (view (.notice notice)).toList := by
  obtain ⟨outputs, rfl⟩ := tells
  rw [Trace.viewAt_cons, if_pos rfl, Trace.viewAt_outputs blind, List.append_nil]

/-- A call shows nothing but itself, and this where it is made. -/
theorem Run.Leads.viewAt {Value : Type} {reply : A.State → Reply A.State Value}
    {describe : Value → Call A} {before after : Stage A D} {value : Value}
    (called : (Run.call place reply describe).Leads before trace value after)
    (blind : Event.Blind view) : trace.viewAt view other =
      if place = other then (view (.call (describe value))).toList else [] := by
  obtain ⟨lines, rfl⟩ := called.trace_of_call
  have written : Trace.viewAt view other
      ((lines.map Output.line).map fun output => (⟨place, .output output⟩ : Entry A)) = [] :=
    Trace.viewAt_outputs blind _
  rw [List.map_map] at written
  rw [Trace.viewAt_cons]
  exact (congrArg (_ ++ ·) written).trans (List.append_nil _)

end Behavior
