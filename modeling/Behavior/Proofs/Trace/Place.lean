import Behavior.Trace
import Mathlib.Data.List.Basic

namespace Behavior.Trace

variable {A : Agent} {place other upper : Place} {trace first second : Trace A}

/-- All entries of the trace stand at the place. -/
def Local (place : Place) (trace : Trace A) : Prop := ∀ entry ∈ trace, entry.place = place

/-- All entries of the trace stand at the place or below it. -/
def Inside (place : Place) (trace : Trace A) : Prop := ∀ entry ∈ trace, place <:+ entry.place

/-- A written trace consists of records at the place. -/
def Written (place : Place) (trace : Trace A) : Prop :=
  ∀ entry ∈ trace, ∃ record, entry = ⟨place, .output (.record record)⟩

/-- The events at a place, without those of other places. -/
def eventsAt (place : Place) (trace : Trace A) : List (Event A) :=
  trace.filterMap fun entry => if entry.place = place then some entry.event else none

/-- The part of the trace at a place and below it. -/
def within (place : Place) (trace : Trace A) : Trace A :=
  trace.filter fun entry => place.isSuffixOf entry.place

@[simp] theorem eventsAt_nil : eventsAt place ([] : Trace A) = [] := rfl

/-- The events at a place come trace by trace. -/
@[simp] theorem eventsAt_append :
    eventsAt place (first ++ second) = eventsAt place first ++ eventsAt place second :=
  List.filterMap_append

/-- The parts below a place come trace by trace. -/
@[simp] theorem within_append :
    within place (first ++ second) = within place first ++ within place second :=
  List.filter_append _ _

/-- An event happens at a place if its entry is in the trace. -/
theorem mem_eventsAt (event : Event A) : event ∈ trace.eventsAt place ↔ ⟨place, event⟩ ∈ trace := by
  simp only [eventsAt, List.mem_filterMap, Option.ite_none_right_eq_some, Option.some.injEq]
  constructor
  · rintro ⟨entry, member, rfl, rfl⟩
    exact member
  · intro member
    exact ⟨_, member, rfl, rfl⟩

theorem local_nil : Local place ([] : Trace A) := fun _ member => nomatch member

/-- Traces that are local to a place are so together. -/
theorem Local.append (left : first.Local place) (right : second.Local place) :
    (first ++ second).Local place := by
  intro entry member
  exact (List.mem_append.1 member).elim (left entry) (right entry)

/-- An entry in front is local if it stands at the place. -/
theorem Local.cons {event : Event A} (rest : trace.Local place) :
    Local place (⟨place, event⟩ :: trace) := by
  intro entry member
  rcases List.mem_cons.1 member with rfl | member
  · rfl
  · exact rest entry member

/-- Outputs stand where they are written. -/
theorem local_outputs (outputs : List Output) :
    Local place (outputs.map fun output => (⟨place, .output output⟩ : Entry A)) := by
  intro entry member
  obtain ⟨_, _, rfl⟩ := List.mem_map.1 member
  rfl

theorem written_nil : Written place ([] : Trace A) := fun _ member => nomatch member

/-- One more record is written in front. -/
theorem Written.cons (rest : trace.Written place) (record : Record) :
    Written place (⟨place, .output (.record record)⟩ :: trace) := by
  intro entry member
  rcases List.mem_cons.1 member with rfl | member
  · exact ⟨record, rfl⟩
  · exact rest entry member

/-- What is written is local. -/
theorem Written.stays (written : trace.Written place) : trace.Local place := by
  intro entry member
  obtain ⟨_, rfl⟩ := written entry member
  rfl

/-- What is local to one place is no event at another. -/
theorem Local.eventsAt_of_ne (all : trace.Local place) (different : place ≠ other) :
    trace.eventsAt other = [] := by
  apply List.filterMap_eq_nil_iff.2
  intro entry member
  simp [all entry member, different]

/-- A local trace has no part at a longer place. -/
theorem Local.within_above {path : Place} (all : trace.Local place) (longer : path ≠ []) :
    trace.within (path ++ place) = [] := by
  apply List.filter_eq_nil_iff.2
  intro entry member suffix
  rw [all entry member, List.isSuffixOf_iff_suffix] at suffix
  have bound := suffix.length_le
  rw [List.length_append] at bound
  exact longer (List.length_eq_zero_iff.1 (by omega))

/-- A local trace has no part below its place. -/
theorem Local.within_below (all : trace.Local place) (position : Nat) :
    trace.within (position :: place) = [] :=
  all.within_above (List.cons_ne_nil position [])

@[simp] theorem within_below_cons (event : Event A) (position : Nat) :
    within (position :: place) (⟨place, event⟩ :: trace) = within (position :: place) trace := by
  have own : Local place [(⟨place, event⟩ : Entry A)] := local_nil.cons
  change within _ ([_] ++ trace) = _
  rw [within_append, own.within_below, List.nil_append]

@[simp] theorem eventsAt_cons_self (event : Event A) :
    eventsAt place (⟨place, event⟩ :: trace) = event :: eventsAt place trace := by
  simp [eventsAt]

/-- A trace inside a place is all within it. -/
theorem Inside.within_self (inside : trace.Inside place) : trace.within place = trace := by
  apply List.filter_eq_self.2
  intro entry member
  exact List.isSuffixOf_iff_suffix.2 (inside entry member)

/-- What is inside one child is not inside another. -/
theorem Inside.within_of_ne {position different : Nat}
    (inside : trace.Inside (position :: place)) (distinct : position ≠ different) :
    trace.within (different :: place) = [] := by
  apply List.filter_eq_nil_iff.2
  intro entry member suffix
  have first := inside entry member
  have second := List.isSuffixOf_iff_suffix.1 suffix
  have same := (List.suffix_of_suffix_length_le first second (by simp)).eq_of_length (by simp)
  exact distinct (List.cons.inj same).1

/-- The part below a place is found in the part below any place above it. -/
theorem within_within (suffix : upper <:+ place) :
    (trace.within upper).within place = trace.within place := by
  rw [within, within, List.filter_filter]
  apply List.filter_congr
  intro entry _
  by_cases inside : place <:+ entry.place
  · simp [List.isSuffixOf_iff_suffix.2 inside, List.isSuffixOf_iff_suffix.2 (suffix.trans inside)]
  · simp [inside]

/-- The events at a place are found in the part below any place above it. -/
theorem eventsAt_within (suffix : upper <:+ place) :
    (trace.within upper).eventsAt place = trace.eventsAt place := by
  rw [eventsAt, within, List.filterMap_filter]
  apply List.filterMap_congr
  intro entry _
  by_cases here : entry.place = place
  · subst here
    simp [List.isSuffixOf_iff_suffix.2 suffix]
  · simp [here]

end Behavior.Trace
