import Behavior.Proofs.Report.Returns

namespace Behavior

variable {A : Agent} {D : Type}

/-- A node ends its run when it finishes and when it is cleared. -/
def Sign.EndsRun : Sign → Prop
  | left status => status ≠ .running
  | cleared => True
  | _ => False

instance (sign : Sign) : Decidable sign.EndsRun := by
  cases sign <;> simp only [Sign.EndsRun] <;> infer_instance

def Entry.EndsRun (place : Place) (entry : Entry A) : Prop :=
  entry.place = place ∧ ∃ sign ∈ entry.event.sign?, sign.EndsRun

instance (place : Place) (entry : Entry A) : Decidable (entry.EndsRun place) :=
  inferInstanceAs (Decidable (_ ∧ _))

/-- The run of a node goes on with an entry, unless the entry ends it. -/
def Entry.goOn (place : Place) (run : Trace A) (entry : Entry A) : Trace A :=
  if entry.EndsRun place then [] else run ++ [entry]

namespace Trace

variable {place other : Place} {trace first second : Trace A} {sign : Sign}

/-- What a node and its descendants have done since a run of the node has last ended. -/
def currentRun (place : Place) (trace : Trace A) : Trace A := trace.foldl (Entry.goOn place) []

/-- A trace ends a run if one of the signs at its place does. -/
def EndsRun (place : Place) (trace : Trace A) : Prop := ∃ sign ∈ trace.signsAt place, sign.EndsRun

/-- A trace ends a run if one of its entries does. -/
theorem endsRun_iff : trace.EndsRun place ↔ ∃ entry ∈ trace, entry.EndsRun place := by
  constructor
  · rintro ⟨sign, member, ends⟩
    obtain ⟨entry, listed, here, same⟩ := exists_of_mem_signsAt member
    exact ⟨entry, listed, here, sign, same, ends⟩
  · rintro ⟨⟨_, event⟩, listed, rfl, sign, same, ends⟩
    exact ⟨sign, List.mem_filterMap.2 ⟨event, (mem_eventsAt event).2 listed, same⟩, ends⟩

/-- A run goes on with a trace that does not end it. -/
theorem currentRun_append (going : ¬ second.EndsRun place) :
    (first ++ second).currentRun place = first.currentRun place ++ second := by
  rw [endsRun_iff] at going
  rw [currentRun, List.foldl_append]
  change second.foldl _ (first.currentRun place) = _
  generalize first.currentRun place = run
  induction second generalizing run with
  | nil => exact (List.append_nil run).symm
  | cons entry rest inductionHypothesis =>
      rw [List.exists_mem_cons_iff, not_or] at going
      rw [List.foldl_cons, Entry.goOn, if_neg going.1, inductionHypothesis going.2,
        List.append_assoc, List.singleton_append]

/-- What has happened before an end of a run is no part of the current run. -/
theorem currentRun_of_end (ends : second.EndsRun place) :
    (first ++ second).currentRun place = second.currentRun place := by
  rw [endsRun_iff] at ends
  rw [currentRun, currentRun, List.foldl_append]
  generalize first.foldl (Entry.goOn place) [] = run
  generalize ([] : Trace A) = other
  induction second generalizing run other with
  | nil => simp at ends
  | cons entry rest inductionHypothesis =>
      rw [List.foldl_cons, List.foldl_cons]
      by_cases here : entry.EndsRun place
      · rw [Entry.goOn, Entry.goOn, if_pos here, if_pos here]
      · rw [List.exists_mem_cons_iff, or_iff_right here] at ends
        exact inductionHypothesis ends _ _

/-- The current run is part of the past. -/
theorem currentRun_subset (trace : Trace A) : trace.currentRun place ⊆ trace := by
  induction trace using List.reverseRecOn with
  | nil => exact List.Subset.refl []
  | append_singleton trace entry inductionHypothesis =>
      rw [currentRun, List.foldl_concat]
      change Entry.goOn place (currentRun place trace) entry ⊆ _
      unfold Entry.goOn
      split
      · exact List.nil_subset _
      · exact List.append_subset.2 ⟨List.subset_append_of_subset_left _ inductionHypothesis,
          List.subset_append_right _ _⟩

/-- What has not returned in a trace has not returned in its current run. -/
theorem returnsAt_currentRun (silent : trace.returnsAt other = []) :
    (trace.currentRun place).returnsAt other = [] := by
  have inside : (trace.currentRun place).returnsAt other ⊆ trace.returnsAt other :=
    returnsAt_subset (currentRun_subset trace)
  rw [silent] at inside
  exact List.subset_nil.1 inside

end Trace

end Behavior
