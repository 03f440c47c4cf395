import Behavior.Proofs.Touch.Choice

namespace Behavior

variable {A : Agent} {D : Type}

namespace Composite

/-- A scan ticks children from a position on until one does not return the skipped status. -/
inductive Scans (skip : Status) :
    Nat → Nat → List (Nat × Touch) → Except Panic (Option Stop) → Prop
  | exhausted {position : Nat} : Scans skip position 0 [] (.ok none)
  | unwound {position count : Nat} (panic : Panic) :
      Scans skip position (count + 1) [(position, .ticked (.error panic))] (.error panic)
  | stopped {position count : Nat} {status : Status} (stops : status ≠ skip) :
      Scans skip position (count + 1) [(position, .ticked (.ok status))]
        (.ok (some (position, status)))
  | skipped {position count : Nat} {touches : List (Nat × Touch)}
      {outcome : Except Panic (Option Stop)}
      (rest : Scans skip (position + 1) count touches outcome) :
      Scans skip position (count + 1) ((position, .ticked (.ok skip)) :: touches) outcome

/-- A preemption aborts the remembered children except the one at which the scan has stopped. -/
inductive Preempts (stop : Option Nat) (count : Nat) :
    List Nat → List (Nat × Touch) → Except Panic Unit → Prop
  | done : Preempts stop count [] [] (.ok ())
  | kept {position : Nat} {positions : List Nat} {touches : List (Nat × Touch)}
      {outcome : Except Panic Unit} (stopped : stop = some position)
      (rest : Preempts stop count positions touches outcome) :
      Preempts stop count (position :: positions) touches outcome
  | aborted {position : Nat} {positions : List Nat} {touches : List (Nat × Touch)}
      {outcome : Except Panic Unit} (passed : stop ≠ some position) (inside : position < count)
      (rest : Preempts stop count positions touches outcome) :
      Preempts stop count (position :: positions) ((position, .aborted (.ok ())) :: touches) outcome
  | unwound {position : Nat} {positions : List Nat} (passed : stop ≠ some position)
      (inside : position < count) (panic : Panic) :
      Preempts stop count (position :: positions) [(position, .aborted (.error panic))]
        (.error panic)
  | outside {position : Nat} {positions : List Nat} (passed : stop ≠ some position)
      (beyond : count ≤ position) :
      Preempts stop count (position :: positions) [] (.error (.outOfRange position count))

/-- An advance ticks each child without an outcome and remembers what has finished. -/
inductive Advances :
    Nat → List (Option Status) → List (Nat × Touch) → List (Option Status) → Except Panic Unit → Prop
  | done {position : Nat} : Advances position [] [] [] (.ok ())
  | finished {position : Nat} {outcome : Status} {outcomes later : List (Option Status)}
      {touches : List (Nat × Touch)} {result : Except Panic Unit}
      (rest : Advances (position + 1) outcomes touches later result) :
      Advances position (some outcome :: outcomes) touches (some outcome :: later) result
  | ticked {position : Nat} {status : Status} {outcomes later : List (Option Status)}
      {touches : List (Nat × Touch)} {result : Except Panic Unit}
      (rest : Advances (position + 1) outcomes touches later result) :
      Advances position (none :: outcomes) ((position, .ticked (.ok status)) :: touches)
        (outcomeOf status :: later) result
  | unwound {position : Nat} {outcomes : List (Option Status)} (panic : Panic) :
      Advances position (none :: outcomes) [(position, .ticked (.error panic))] (none :: outcomes)
        (.error panic)

/-- A finalization gives up all outcomes and aborts each child without one. -/
inductive Finalizes :
    Nat → List (Option Status) → List (Nat × Touch) → List (Option Status) → Except Panic Unit → Prop
  | done {position : Nat} : Finalizes position [] [] [] (.ok ())
  | finished {position : Nat} {outcome : Status} {outcomes later : List (Option Status)}
      {touches : List (Nat × Touch)} {result : Except Panic Unit}
      (rest : Finalizes (position + 1) outcomes touches later result) :
      Finalizes position (some outcome :: outcomes) touches (none :: later) result
  | aborted {position : Nat} {outcomes later : List (Option Status)}
      {touches : List (Nat × Touch)} {result : Except Panic Unit}
      (rest : Finalizes (position + 1) outcomes touches later result) :
      Finalizes position (none :: outcomes) ((position, .aborted (.ok ())) :: touches)
        (none :: later) result
  | unwound {position : Nat} {outcomes : List (Option Status)} (panic : Panic) :
      Finalizes position (none :: outcomes) [(position, .aborted (.error panic))]
        (none :: outcomes) (.error panic)

/-- A resumption scans from the remembered position on. -/
inductive Resumes (own : Option Nat → Composite) (skip : Status) (running : Option Nat)
    (count : Nat) : List (Nat × Touch) → Except Panic Status → Composite → Prop
  | outside (beyond : count < running.getD 0) :
      Resumes own skip running count [] (.error (.outOfRange (running.getD 0) count)) (own running)
  | unwound {touches : List (Nat × Touch)} {panic : Panic} (inside : running.getD 0 ≤ count)
      (scans : Scans skip (running.getD 0) (count - running.getD 0) touches (.error panic)) :
      Resumes own skip running count touches (.error panic) (own running)
  | ended {touches : List (Nat × Touch)} {stop : Option Stop} (inside : running.getD 0 ≤ count)
      (scans : Scans skip (running.getD 0) (count - running.getD 0) touches (.ok stop)) :
      Resumes own skip running count touches (.ok (statusOf skip stop)) (own (runningOf stop))

/-- A reaction scans from the first child on and then preempts the remembered children. -/
inductive Reacts (skip : Status) (running : List Nat) (kept unwound : Composite)
    (settled : Option Stop → Composite) (count : Nat) :
    List (Nat × Touch) → Except Panic Status → Composite → Prop
  | scanUnwound {touches : List (Nat × Touch)} {panic : Panic}
      (scans : Scans skip 0 count touches (.error panic)) :
      Reacts skip running kept unwound settled count touches (.error panic) kept
  | preemptionUnwound {touches more : List (Nat × Touch)} {stop : Option Stop} {panic : Panic}
      (scans : Scans skip 0 count touches (.ok stop))
      (preempts : Preempts (stop.map Prod.fst) count running more (.error panic)) :
      Reacts skip running kept unwound settled count (touches ++ more) (.error panic) unwound
  | ended {touches more : List (Nat × Touch)} {stop : Option Stop}
      (scans : Scans skip 0 count touches (.ok stop))
      (preempts : Preempts (stop.map Prod.fst) count running more (.ok ())) :
      Reacts skip running kept unwound settled count (touches ++ more)
        (.ok (statusOf skip stop)) (settled stop)

/-- The verdict of a parallel node on the outcomes of its children. -/
def verdictOn (policy : Policy) (count : Nat) (outcomes : List (Option Status)) : Option Status :=
  policy.verdict count (outcomes.count (some .success)) (outcomes.count (some .failure))

/-- A parallel node advances its children and finalizes them on a verdict. -/
inductive Concurs (policy : Policy) (outcomes : List (Option Status)) (count : Nat) :
    List (Nat × Touch) → Except Panic Status → Composite → Prop
  | advanceUnwound {touches : List (Nat × Touch)} {later : List (Option Status)} {panic : Panic}
      (advances : Advances 0 (padded outcomes count) touches later (.error panic)) :
      Concurs policy outcomes count touches (.error panic) (.parallel policy later)
  | continued {touches : List (Nat × Touch)} {later : List (Option Status)}
      (advances : Advances 0 (padded outcomes count) touches later (.ok ()))
      (undecided : verdictOn policy count later = none) :
      Concurs policy outcomes count touches (.ok .running) (.parallel policy later)
  | finalizationUnwound {touches more : List (Nat × Touch)} {later last : List (Option Status)}
      {status : Status} {panic : Panic}
      (advances : Advances 0 (padded outcomes count) touches later (.ok ()))
      (decided : verdictOn policy count later = some status)
      (finalizes : Finalizes 0 later more last (.error panic)) :
      Concurs policy outcomes count (touches ++ more) (.error panic) (.parallel policy last)
  | finalized {touches more : List (Nat × Touch)} {later last : List (Option Status)}
      {status : Status} (advances : Advances 0 (padded outcomes count) touches later (.ok ()))
      (decided : verdictOn policy count later = some status)
      (finalizes : Finalizes 0 later more last (.ok ())) :
      Concurs policy outcomes count (touches ++ more) (.ok status) (.parallel policy [])

/-- A play is one way in which a tick of a composite can go. -/
inductive Plays (count : Nat) :
    Composite → List (Nat × Touch) → Except Panic Status → Composite → Prop
  | selector {running : Option Nat} {touches : List (Nat × Touch)} {result : Except Panic Status}
      {next : Composite}
      (resumes : Resumes .selector .failure running count touches result next) :
      Plays count (.selector running) touches result next
  | sequence {running : Option Nat} {touches : List (Nat × Touch)} {result : Except Panic Status}
      {next : Composite}
      (resumes : Resumes .sequence .success running count touches result next) :
      Plays count (.sequence running) touches result next
  | parallel {policy : Policy} {outcomes : List (Option Status)} {touches : List (Nat × Touch)}
      {result : Except Panic Status} {next : Composite}
      (concurs : Concurs policy outcomes count touches result next) :
      Plays count (.parallel policy outcomes) touches result next
  | reactiveSelector {running : Positions} {touches : List (Nat × Touch)}
      {result : Except Panic Status} {next : Composite}
      (reacts : Reacts .failure running.list (.reactiveSelector running) (.reactiveSelector running)
        (fun stop => .reactiveSelector (running.replace (runningOf stop))) count touches result
        next) :
      Plays count (.reactiveSelector running) touches result next
  | reactiveSequence {running : Option Nat} {touches : List (Nat × Touch)}
      {result : Except Panic Status} {next : Composite}
      (reacts : Reacts .success running.toList (.reactiveSequence running) (.reactiveSequence none)
        (fun stop => .reactiveSequence (runningOf stop)) count touches result next) :
      Plays count (.reactiveSequence running) touches result next

variable {context : Context D} {left nodes : List (Node A)} {before after : Stage A D}
  {trace : Trace A}

/-- A scan of children handles them as `Scans` says. -/
theorem leads_scan (left : List (Node A)) {skip : Status} {position : Nat}
    {changed : List (Node A)} {outcome : Except Panic (Option Stop)} (start : left.length = position)
    (scanned : (scan skip context position (nodes.map Node.arm)).Leads before trace
      ⟨changed, outcome⟩ after) :
    ∃ touches, Scans skip position nodes.length touches outcome ∧
      Handles context (left ++ nodes) before touches trace (left ++ changed)
        after := by
  induction nodes generalizing left position before trace changed outcome with
  | nil =>
      obtain ⟨rfl, rfl, rfl, rfl⟩ := Run.leads_attempt.1 scanned
      exact ⟨[], .exhausted, .done⟩
  | cons node rest inductionHypothesis =>
      obtain ⟨⟨ticked, returned⟩, middle, earlier, later, ticks, ended, rfl⟩ :=
        Run.leads_bind.1 scanned
      have first : Handles context (left ++ node :: rest) before
          [(position, .ticked returned)] earlier (left ++ ticked :: rest) middle :=
        .between left rest start (.ticked ticks)
      match returned with
      | .error panic =>
          obtain ⟨rfl, rfl, rfl, rfl⟩ := Run.leads_attempt.1 ended
          rw [map_node_arm, List.append_nil]
          exact ⟨_, .unwound panic, first⟩
      | .ok status =>
          by_cases skipped : status = skip
          · simp only [if_pos skipped] at ended
            obtain ⟨⟨others, _⟩, following, rfl, rfl⟩ := Run.leads_bind_attempt.1 ended
            have longer : (left ++ [ticked]).length = position + 1 := by simp [start]
            obtain ⟨touches, scans, handles⟩ := inductionHypothesis _ longer following
            rw [← List.append_cons, ← List.append_cons] at handles
            refine ⟨_, .skipped scans, ?_⟩
            rw [← skipped]
            exact first.trans handles
          · simp only [if_neg skipped, map_node_arm] at ended
            obtain ⟨rfl, rfl, rfl, rfl⟩ := Run.leads_attempt.1 ended
            rw [List.append_nil]
            exact ⟨_, .stopped skipped, first⟩

/-- A preemption of children handles them as `Preempts` says. -/
theorem leads_preempt {stop : Option Stop} {positions : List Nat} {changed : List (Node A)}
    {outcome : Except Panic Unit}
    (preempted : (preempt context stop positions nodes).Leads before trace ⟨changed, outcome⟩
      after) :
    ∃ touches, Preempts (stop.map Prod.fst) nodes.length positions touches outcome ∧
      Handles context nodes before touches trace changed after := by
  induction positions generalizing nodes before trace with
  | nil =>
      obtain ⟨rfl, rfl, rfl, rfl⟩ := Run.leads_attempt.1 preempted
      exact ⟨[], .done, .done⟩
  | cons position positions inductionHypothesis =>
      rw [preempt] at preempted
      by_cases stopped : stop.map Prod.fst = some position
      · rw [if_pos stopped] at preempted
        obtain ⟨touches, preempts, handles⟩ := inductionHypothesis preempted
        exact ⟨touches, .kept stopped preempts, handles⟩
      · rw [if_neg stopped] at preempted
        cases taken : nodes[position]? with
        | none =>
            rw [taken] at preempted
            obtain ⟨rfl, rfl, rfl, rfl⟩ := Run.leads_attempt.1 preempted
            exact ⟨[], .outside stopped (List.getElem?_eq_none_iff.1 taken), .done⟩
        | some node =>
            rw [taken] at preempted
            obtain ⟨inside, _⟩ := List.getElem?_eq_some_iff.1 taken
            obtain ⟨⟨_, aborted⟩, _, _, _, aborts, ended, rfl⟩ := Run.leads_bind.1 preempted
            have first := Handles.single taken (.aborted aborts)
            match aborted with
            | .error panic =>
                obtain ⟨rfl, rfl, rfl, rfl⟩ := Run.leads_attempt.1 ended
                rw [List.append_nil]
                exact ⟨_, .unwound stopped inside panic, first⟩
            | .ok () =>
                obtain ⟨touches, preempts, handles⟩ := inductionHypothesis ended
                rw [List.length_set] at preempts
                exact ⟨_, .aborted stopped inside preempts, first.trans handles⟩

/-- An advance of children handles them as `Advances` says. -/
theorem leads_advance (left : List (Node A)) {position : Nat}
    {outcomes later : List (Option Status)} {changed : List (Node A)} {result : Except Panic Unit}
    (start : left.length = position)
    (lengths : outcomes.length = nodes.length)
    (advanced : (advance context position (nodes.map Node.arm) outcomes).Leads before trace
      ⟨(changed, later), result⟩ after) :
    ∃ touches, Advances position outcomes touches later result ∧
      Handles context (left ++ nodes) before touches trace (left ++ changed)
        after := by
  induction nodes generalizing left position outcomes before trace changed later with
  | nil =>
      obtain rfl := List.length_eq_zero_iff.1 lengths
      obtain ⟨rfl, rfl, rfl, rfl, rfl⟩ := Run.leads_pair.1 advanced
      exact ⟨[], .done, .done⟩
  | cons node rest inductionHypothesis =>
      cases outcomes with
      | nil => simp at lengths
      | cons outcome outcomes =>
          have shorter : outcomes.length = rest.length := by simpa using lengths
          cases outcome with
          | some outcome =>
              obtain ⟨⟨⟨others, _⟩, _⟩, following, rfl, rfl, rfl⟩ := Run.leads_bind_pair.1 advanced
              have longer : (left ++ [node]).length = position + 1 := by simp [start]
              obtain ⟨touches, advances, handles⟩ := inductionHypothesis _ longer shorter following
              rw [← List.append_cons, ← List.append_cons] at handles
              exact ⟨touches, .finished advances, handles⟩
          | none =>
              obtain ⟨⟨ticked, returned⟩, middle, earlier, _, ticks, ended, rfl⟩ :=
                Run.leads_bind.1 advanced
              have first : Handles context (left ++ node :: rest) before
                  [(position, .ticked returned)] earlier (left ++ ticked :: rest) middle :=
                .between left rest start (.ticked ticks)
              cases returned with
              | error panic =>
                  obtain ⟨rfl, rfl, rfl, rfl, rfl⟩ := Run.leads_pair.1 ended
                  rw [map_node_arm, List.append_nil]
                  exact ⟨_, .unwound panic, first⟩
              | ok status =>
                  obtain ⟨⟨⟨others, _⟩, _⟩, following, rfl, rfl, rfl⟩ := Run.leads_bind_pair.1 ended
                  have longer : (left ++ [ticked]).length = position + 1 := by simp [start]
                  obtain ⟨touches, advances, handles⟩ :=
                    inductionHypothesis _ longer shorter following
                  rw [← List.append_cons, ← List.append_cons] at handles
                  exact ⟨_, .ticked advances, first.trans handles⟩

/-- An advance keeps one outcome for each child. -/
theorem Advances.length_eq {position : Nat} {outcomes later : List (Option Status)}
    {touches : List (Nat × Touch)} {result : Except Panic Unit}
    (advances : Advances position outcomes touches later result) :
    later.length = outcomes.length := by
  induction advances with
  | done | unwound => rfl
  | finished _ inductionHypothesis | ticked _ inductionHypothesis => simp [inductionHypothesis]

/-- A finalization of children handles them as `Finalizes` says. -/
theorem leads_finalize (left : List (Node A)) {position : Nat}
    {outcomes later : List (Option Status)} {changed : List (Node A)} {result : Except Panic Unit}
    (start : left.length = position) (lengths : outcomes.length = nodes.length)
    (finalized : (finalize context position nodes outcomes).Leads before trace
      ⟨(changed, later), result⟩ after) :
    ∃ touches, Finalizes position outcomes touches later result ∧
      Handles context (left ++ nodes) before touches trace (left ++ changed) after := by
  induction nodes generalizing left position outcomes before trace changed later with
  | nil =>
      obtain rfl := List.length_eq_zero_iff.1 lengths
      obtain ⟨rfl, rfl, rfl, rfl, rfl⟩ := Run.leads_pair.1 finalized
      exact ⟨[], .done, .done⟩
  | cons node rest inductionHypothesis =>
      cases outcomes with
      | nil => simp at lengths
      | cons outcome outcomes =>
          have shorter : outcomes.length = rest.length := by simpa using lengths
          cases outcome with
          | some outcome =>
              obtain ⟨⟨⟨others, _⟩, _⟩, following, rfl, rfl, rfl⟩ := Run.leads_bind_pair.1 finalized
              have longer : (left ++ [node]).length = position + 1 := by simp [start]
              obtain ⟨touches, finalizes, handles⟩ := inductionHypothesis _ longer shorter following
              rw [← List.append_cons, ← List.append_cons] at handles
              exact ⟨touches, .finished finalizes, handles⟩
          | none =>
              obtain ⟨⟨stopped, aborted⟩, middle, earlier, _, aborts, ended, rfl⟩ :=
                Run.leads_bind.1 finalized
              have first : Handles context (left ++ node :: rest) before
                  [(position, .aborted aborted)] earlier (left ++ stopped :: rest) middle :=
                .between left rest start (.aborted aborts)
              cases aborted with
              | error panic =>
                  obtain ⟨rfl, rfl, rfl, rfl, rfl⟩ := Run.leads_pair.1 ended
                  rw [List.append_nil]
                  exact ⟨_, .unwound panic, first⟩
              | ok =>
                  obtain ⟨⟨⟨others, _⟩, _⟩, following, rfl, rfl, rfl⟩ := Run.leads_bind_pair.1 ended
                  have longer : (left ++ [stopped]).length = position + 1 := by simp [start]
                  obtain ⟨touches, finalizes, handles⟩ :=
                    inductionHypothesis _ longer shorter following
                  rw [← List.append_cons, ← List.append_cons] at handles
                  exact ⟨_, .aborted finalizes, first.trans handles⟩

variable {own next : Composite} {changed : List (Node A)} {result : Except Panic Status}

/-- A composite that starts from its position handles its children as `Resumes` says. -/
theorem resumes_of_resume {remember : Option Nat → Composite} {skip : Status}
    {running : Option Nat}
    (resumed : (resume context remember skip running (nodes.map Node.arm)).Leads before trace
      ⟨(next, changed), result⟩ after) :
    ∃ touches, Resumes remember skip running nodes.length touches result next ∧
      Handles context nodes before touches trace changed after := by
  unfold resume at resumed
  simp only [List.length_map] at resumed
  by_cases beyond : nodes.length < running.getD 0
  · simp only [if_pos beyond, map_node_arm] at resumed
    obtain ⟨rfl, rfl, rfl, rfl, rfl⟩ := Run.leads_pair.1 resumed
    exact ⟨[], .outside beyond, .done⟩
  · simp only [if_neg beyond] at resumed
    have inside : running.getD 0 ≤ nodes.length := Nat.le_of_not_lt beyond
    obtain ⟨⟨others, outcome⟩, _, _, _, scanned, ended, rfl⟩ := Run.leads_bind.1 resumed
    rw [← List.map_drop] at scanned
    rw [← List.map_take, map_node_arm] at ended
    have start : (nodes.take (running.getD 0)).length = running.getD 0 := by simp [inside]
    obtain ⟨touches, scans, handles⟩ := leads_scan _ start scanned
    rw [List.take_append_drop] at handles
    rw [List.length_drop] at scans
    match outcome with
    | .error panic =>
        obtain ⟨rfl, rfl, rfl, rfl, rfl⟩ := Run.leads_pair.1 ended
        rw [List.append_nil]
        exact ⟨touches, .unwound inside scans, handles⟩
    | .ok stop =>
        obtain ⟨rfl, rfl, rfl, rfl, rfl⟩ := Run.leads_pair.1 ended
        rw [List.append_nil]
        exact ⟨touches, .ended inside scans, handles⟩

/-- A reactive composite handles its children as `Reacts` says. -/
theorem reacts_of_rescan {skip : Status} {running : List Nat} {kept unwound : Composite}
    {settled : Option Stop → Composite}
    (rescanned : (rescan context skip running kept unwound settled (nodes.map Node.arm)).Leads before
      trace ⟨(next, changed), result⟩ after) :
    ∃ touches, Reacts skip running kept unwound settled nodes.length touches result next ∧
      Handles context nodes before touches trace changed after := by
  obtain ⟨⟨others, outcome⟩, _, _, _, scanned, ended, rfl⟩ := Run.leads_bind.1 rescanned
  obtain ⟨touches, scans, handles⟩ :=
    leads_scan [] rfl scanned
  rw [List.nil_append, List.nil_append] at handles
  match outcome with
  | .error panic =>
      obtain ⟨rfl, rfl, rfl, rfl, rfl⟩ := Run.leads_pair.1 ended
      rw [List.append_nil]
      exact ⟨touches, .scanUnwound scans, handles⟩
  | .ok stop =>
      obtain ⟨⟨_, aborted⟩, _, _, _, preempted, last, rfl⟩ := Run.leads_bind.1 ended
      obtain ⟨more, preempts, aborting⟩ := leads_preempt preempted
      rw [handles.length_eq] at preempts
      match aborted with
      | .error panic =>
          obtain ⟨rfl, rfl, rfl, rfl, rfl⟩ := Run.leads_pair.1 last
          rw [List.append_nil]
          exact ⟨_, .preemptionUnwound scans preempts, handles.trans aborting⟩
      | .ok () =>
          obtain ⟨rfl, rfl, rfl, rfl, rfl⟩ := Run.leads_pair.1 last
          rw [List.append_nil]
          exact ⟨_, .ended scans preempts, handles.trans aborting⟩

theorem length_padded (outcomes : List (Option Status)) (count : Nat) :
    (padded outcomes count).length = count := by
  simp only [padded, List.length_take, List.length_append, List.length_replicate]
  omega

/-- A parallel node handles its children as `Concurs` says. -/
theorem concurs_of_tickParallel {policy : Policy} {outcomes : List (Option Status)}
    (ticked : (tickParallel context policy outcomes (nodes.map Node.arm)).Leads before trace
      ⟨(next, changed), result⟩ after) :
    ∃ touches, Concurs policy outcomes nodes.length touches result next ∧
      Handles context nodes before touches trace changed after := by
  obtain ⟨⟨⟨others, later⟩, advanced⟩, _, _, _, ticks, ended, rfl⟩ := Run.leads_bind.1 ticked
  rw [List.length_map] at ticks
  have padding := length_padded outcomes nodes.length
  obtain ⟨touches, advances, handles⟩ :=
    leads_advance [] rfl padding ticks
  rw [List.nil_append, List.nil_append] at handles
  match advanced with
  | .error panic =>
      obtain ⟨rfl, rfl, rfl, rfl, rfl⟩ := Run.leads_pair.1 ended
      rw [List.append_nil]
      exact ⟨touches, .advanceUnwound advances, handles⟩
  | .ok () =>
      have count : others.length = nodes.length := handles.length_eq
      simp only [count] at ended
      cases decided : policy.verdict nodes.length (later.count (some .success))
          (later.count (some .failure)) with
      | none =>
          simp only [decided] at ended
          obtain ⟨rfl, rfl, rfl, rfl, rfl⟩ := Run.leads_pair.1 ended
          rw [List.append_nil]
          exact ⟨touches, .continued advances decided, handles⟩
      | some status =>
          simp only [decided] at ended
          obtain ⟨_, _, _, _, wrote, finalization, rfl⟩ := Run.leads_bind.1 ended
          obtain ⟨rfl, rfl⟩ := Run.leads_write.1 wrote
          obtain ⟨⟨⟨_, _⟩, aborted⟩, _, _, _, finalized, last, rfl⟩ :=
            Run.leads_bind.1 finalization
          have lengths : later.length = others.length := by
            rw [advances.length_eq, padding, count]
          obtain ⟨more, finalizes, aborting⟩ :=
            leads_finalize [] rfl lengths finalized
          rw [List.nil_append, List.nil_append] at aborting
          match aborted with
          | .error panic =>
              obtain ⟨rfl, rfl, rfl, rfl, rfl⟩ := Run.leads_pair.1 last
              rw [List.append_nil]
              exact ⟨_, .finalizationUnwound advances decided finalizes,
                handles.trans (.wrote _ aborting)⟩
          | .ok () =>
              obtain ⟨rfl, rfl, rfl, rfl, rfl⟩ := Run.leads_pair.1 last
              rw [List.append_nil]
              exact ⟨_, .finalized advances decided finalizes,
                handles.trans (.wrote _ aborting)⟩

/-- Every tick of a composite plays with its children. -/
theorem plays_of_tick
    (ticked : (own.tick context (nodes.map Node.arm)).Leads before trace ⟨(next, changed), result⟩
      after) :
    ∃ touches, Plays nodes.length own touches result next ∧
      Handles context nodes before touches trace changed after := by
  cases own with
  | selector running =>
      obtain ⟨touches, resumes, handles⟩ := resumes_of_resume ticked
      exact ⟨touches, .selector resumes, handles⟩
  | sequence running =>
      obtain ⟨touches, resumes, handles⟩ := resumes_of_resume ticked
      exact ⟨touches, .sequence resumes, handles⟩
  | parallel policy outcomes =>
      obtain ⟨touches, concurs, handles⟩ := concurs_of_tickParallel ticked
      exact ⟨touches, .parallel concurs, handles⟩
  | reactiveSelector running =>
      obtain ⟨touches, reacts, handles⟩ := reacts_of_rescan ticked
      exact ⟨touches, .reactiveSelector reacts, handles⟩
  | reactiveSequence running =>
      obtain ⟨touches, reacts, handles⟩ := reacts_of_rescan ticked
      exact ⟨touches, .reactiveSequence reacts, handles⟩

end Composite

end Behavior
