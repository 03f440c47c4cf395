import Behavior.Proofs.Idle.Treatment
import Behavior.Proofs.Touch.Order

namespace Behavior

namespace Composite

variable {skip : Status} {start count position : Nat} {stop : Option Stop}
  {touches : List (Nat × Touch)}

/-- A scan ticks every child from its start up to its stop. -/
theorem Scans.tickedOf (scans : Scans skip start count touches (.ok stop)) :
    tickedOf touches = List.range' start (stop.elim count fun stop => stop.1 + 1 - start) := by
  generalize ended : (.ok stop : Except Panic (Option Stop)) = outcome at scans
  induction scans with
  | exhausted =>
      cases ended
      rfl
  | unwound => cases ended
  | stopped =>
      cases ended
      simp
  | @skipped start count touches _ rest inductionHypothesis =>
      subst ended
      rw [tickedOf_cons_ticked, inductionHypothesis rfl]
      cases stop with
      | none => rfl
      | some stop =>
          have later : start + 1 ≤ stop.1 := rest.stop_le rfl
          have length : stop.1 + 1 - start = stop.1 + 1 - (start + 1) + 1 := by omega
          simp only [Option.elim_some, length, List.range'_succ]

/-- A scan passes the children before its stop, and returns what the child at its stop returns. -/
theorem Scans.touchesOf_scanned (scans : Scans skip start count touches (.ok stop))
    (reached : start ≤ position) :
    (position < stop.elim (start + count) Prod.fst →
        touchesOf position touches = [.ticked (.ok skip)]) ∧
      ∀ status, stop = some (position, status) →
        touchesOf position touches = [.ticked (.ok status)] ∧ status ≠ skip := by
  generalize ended : (.ok stop : Except Panic (Option Stop)) = outcome at scans
  induction scans with
  | exhausted =>
      cases ended
      exact ⟨fun inside => absurd inside (Nat.not_lt.2 reached), fun _ contrary => nomatch contrary⟩
  | unwound => cases ended
  | stopped stops =>
      cases ended
      refine ⟨fun inside => absurd inside (Nat.not_lt.2 reached), fun status same => ?_⟩
      cases same
      exact ⟨by simp, stops⟩
  | @skipped start count touches _ rest inductionHypothesis =>
      subst ended
      by_cases here : start = position
      · subst here
        rw [touchesOf_cons_self, rest.touchesOf_below (Nat.lt_succ_self start)]
        refine ⟨fun _ => rfl, fun status same => ?_⟩
        exact absurd (rest.stop_le (congrArg (Option.map Prod.fst) same)) (by omega)
      · rw [touchesOf_cons_of_ne here, show start + (count + 1) = start + 1 + count by omega]
        exact inductionHypothesis (by omega) rfl

/-- A child that a scan ticks stands before its stop or at it. -/
theorem Scans.touchesOf_ticked (scans : Scans skip start count touches (.ok stop))
    (ticked : position ∈ Behavior.tickedOf touches) : start ≤ position ∧
      (position < stop.elim (start + count) Prod.fst ∧
          touchesOf position touches = [.ticked (.ok skip)] ∨
        ∃ status, stop = some (position, status) ∧
          touchesOf position touches = [.ticked (.ok status)]) := by
  rw [scans.tickedOf, List.mem_range'_1] at ticked
  obtain ⟨reached, last⟩ := ticked
  obtain ⟨passed, stopped⟩ := scans.touchesOf_scanned reached
  refine ⟨reached, ?_⟩
  match stop with
  | none => exact .inl ⟨last, passed last⟩
  | some (final, status) =>
      have last : position < start + (final + 1 - start) := last
      rcases Nat.lt_or_ge position final with before | behind
      · exact .inl ⟨before, passed before⟩
      · obtain rfl : position = final := by omega
        exact .inr ⟨status, rfl, (stopped status rfl).1⟩

/-- A scan leaves those children alone that it does not tick. -/
theorem Scans.touchesOf_eq_nil {outcome : Except Panic (Option Stop)}
    (scans : Scans skip start count touches outcome) (unticked : position ∉ Behavior.tickedOf touches) :
    touchesOf position touches = [] := by
  induction scans with
  | exhausted => rfl
  | unwound | stopped =>
      rw [tickedOf_cons_ticked, List.mem_cons, not_or] at unticked
      rw [touchesOf_cons_of_ne (Ne.symm unticked.1), touchesOf_nil]
  | skipped _ inductionHypothesis =>
      rw [tickedOf_cons_ticked, List.mem_cons, not_or] at unticked
      rw [touchesOf_cons_of_ne (Ne.symm unticked.1), inductionHypothesis unticked.2]

/-- A scan leaves a child running if it has stopped at it for that. -/
theorem runningOf_eq_some : runningOf stop = some position ↔ stop = some (position, .running) := by
  match stop with
  | some (_, .running) => simp [runningOf]
  | none | some (_, .success) | some (_, .failure) => simp [runningOf]

end Composite

end Behavior
