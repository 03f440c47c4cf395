import Behavior.Proofs.Life
import Behavior.Proofs.Renewal.Rebuilding
import Behavior.Proofs.Touch.Framing

namespace Behavior

variable {A : Agent} {D : Type}

/-- A reactive guard aborts its body if the body is running while the predicate is false. Otherwise it
ticks the body if the predicate is true, and resets it as soon as it has finished. -/
theorem Decorator.Plays.watched {predicate : A.Predicate} {clock : Clock} {answer running : Bool}
    {touches : List (Nat × Touch)} {status : Status} {next : Decorator A}
    (plays : (reactiveGuard predicate).Plays clock answer running touches (.ok status) next) :
    (answer = false ∧ status = .failure ∧
        touches = if running then [(0, .aborted (.ok ()))] else []) ∨
      (answer = true ∧ touches = (0, .ticked (.ok status)) ::
        if status = .running then [] else [(0, .reset)]) := by
  generalize returned : (.ok status : Except Panic Status) = result at plays
  cases plays with
  | skipped decided =>
      cases returned
      cases answer with
      | true => cases decided
      | false =>
          cases running with
          | true => cases decided
          | false =>
              cases decided
              exact .inl ⟨rfl, rfl, rfl⟩
  | aborted final decided =>
      cases final with
      | error => cases returned
      | ok =>
          cases returned
          cases answer with
          | true => cases decided
          | false =>
              cases running with
              | false => cases decided
              | true =>
                  cases decided
                  exact .inl ⟨rfl, rfl, rfl⟩
  | unwound => cases returned
  | ticked final decided keeps =>
      cases returned
      cases answer with
      | false => cases running <;> cases decided
      | true =>
          cases decided
          cases final with
          | running => exact .inr ⟨rfl, rfl⟩
          | success | failure => cases keeps
  | renewed final decided resets =>
      cases returned
      cases answer with
      | false => cases running <;> cases decided
      | true =>
          cases decided
          cases final with
          | running => cases resets
          | success | failure => exact .inr ⟨rfl, rfl⟩

namespace Node

variable {context : Context D} {place : Place} {start node changed child : Node A}
  {before after : Stage A D} {past trace : Trace A} {status : Status} {predicate : A.Predicate}

/-- Nothing is pending in an idle tree. -/
theorem pending_of_idle (idle : node.Everywhere Idle) : node.pending = [] := by
  apply List.filterMap_eq_nil_iff.2
  intro part member
  have settled := (idle part member).2
  cases shape : part.body with
  | leaf own =>
      rw [shape] at settled
      cases own with
      | condition | action => rfl
      | asyncAction => exact settled
  | decorator | choice | composite => rfl

/-- A tree is idle if it differs from an idle one in numbers alone. -/
theorem idle_of_unnumbered {other : Node A} (same : other.unnumbered = node.unnumbered)
    (idle : node.Everywhere Idle) : other.Everywhere Idle := by
  rwa [← descends_unnumbered.everywhere_iff idle_unnumbered, same,
    descends_unnumbered.everywhere_iff idle_unnumbered]

/-- An abort within a tick is reported if the node is running, and for this node alone. It uses the
agent for nothing but to cancel the pending operations of the subtree, each once and in preorder. -/
theorem Undergoes.told
    (undergoes : node.Undergoes context (.aborted (.ok ())) before trace changed after) :
    trace.notices = (if node.isRunning then [(context.place, .aborted node.info)] else []) ∧
      trace.calls.map Prod.snd = node.pending.map .cancelled := by
  have cancels := node.cancels_of_reset (D := D) context.place
  cases undergoes with
  | aborted aborts =>
  cases abortsIn_of_abortIn aborts with
  | @silent earlier _ _ idle resets =>
      have notices := cancels.notices earlier
      have calls := cancels.calls earlier
      rw [resets] at notices calls
      rw [idle]
      exact ⟨notices, calls⟩
  | @reported earlier _ telling clearing running tells resets =>
      have notices := cancels.notices earlier
      have calls := cancels.calls earlier
      rw [resets] at notices calls
      have told : Trace.notices (telling ++ clearing) = [(context.place, .aborted node.info)] := by
        rw [Trace.notices_append, tells.notices, notices, List.append_nil]
      have called : (Trace.calls (telling ++ clearing)).map Prod.snd = node.pending.map .cancelled := by
        rw [Trace.calls_append, tells.calls, List.nil_append, calls]
      rw [running]
      exact ⟨told, called⟩

/-- An abort tells the same if something has been written before it. -/
theorem Evolves.told (evolves : node.Evolves context [.aborted (.ok ())] trace changed) :
    trace.notices = (if node.isRunning then [(context.place, .aborted node.info)] else []) ∧
      trace.calls.map Prod.snd = node.pending.map .cancelled := by
  obtain ⟨_, _, _, writing, aborting, rest, rfl, written, aborted, ends⟩ := evolves.uncons
  obtain ⟨rfl, later⟩ := ends.nil
  obtain ⟨told, called⟩ := aborted.told
  constructor
  · rw [Trace.notices_append, Trace.notices_append, written.notices, told, later.notices,
      List.nil_append, List.append_nil]
  · rw [Trace.calls_append, Trace.calls_append, written.calls, later.calls, List.nil_append,
      List.append_nil, called]

/-- A decorator differs from a node in numbers alone only if that is the same decorator. -/
theorem decorator_of_unnumbered {other : Node A} {own : Decorator A}
    (same : other.unnumbered = node.unnumbered) (shape : other.body = .decorator own child) :
    ∃ former, node.body = .decorator own former ∧ child.unnumbered = former.unnumbered := by
  have bodies := corresponds_of_unnumbered same
  rw [shape] at bodies
  generalize node.body = body at bodies
  cases bodies with
  | decorator _ related => exact ⟨_, rfl, related⟩

/-- A reactive guard watches its body: either all of the body is idle, or both are running. -/
def Watches (node : Node A) : Prop :=
  ∀ predicate child, node.body = .decorator (.reactiveGuard predicate) child →
    child.Everywhere Idle ∨ node.last = some .running ∧ child.last = some .running

/-- A tick of a reactive guard watches the body. It asks the predicate. If that is false, it fails and
enters no node of the body; it aborts the body if that is running, which is reported for the body alone
and cancels each pending operation below once, and does nothing to it otherwise. If the predicate is
true, it enters the body once and returns what the body returns. -/
inductive Watched (predicate : A.Predicate) (child : Node A) (place : Place) (trace : Trace A) :
    Bool → Status → Prop
  | closed (asked : trace.callsAt place = [.tested predicate (.ok false)])
      (told : (trace.within (0 :: place)).notices =
        if child.isRunning then [(0 :: place, .aborted child.info)] else [])
      (called : (trace.within (0 :: place)).calls.map Prod.snd =
        if child.isRunning then child.pending.map .cancelled else []) :
      Watched predicate child place trace false .failure
  | opened {status : Status} (asked : trace.callsAt place = [.tested predicate (.ok true)])
      (entered : trace.entrances place = [0])
      (returned : trace.returnsAt (0 :: place) = [status]) :
      Watched predicate child place trace true status

/-- What a tick of a reactive guard does, and what it leaves of the body. -/
theorem watched_of_tick (shape : node.body = .decorator (.reactiveGuard predicate) child)
    (watches : node.Watches)
    (ticks : (node.tick context).Leads before trace ⟨changed, .ok status⟩ after) :
    (∃ answer, Watched predicate child context.place trace answer status) ∧ changed.Watches := by
  obtain ⟨answer, touches, plays, asked, entered, evolves⟩ := answered_of_tick ticks fun leaf alone => by
    rw [shape] at alone
    cases alone
  have last := last_of_tick ticks
  have first : node.children[0]? = some child := by
    rw [children, shape]
    rfl
  obtain ⟨final, taken, evolves, returns⟩ := evolves 0 child first
  rw [shape] at plays asked
  generalize former : changed.body = body at plays
  cases plays with
  | @decorator _ next _ kept _ _ plays =>
  rw [children, former] at taken
  obtain rfl : kept = final := Option.some.inj taken
  have leaves (holds : kept.Everywhere Idle ∨ status = .running ∧ kept.last = some .running) :
      changed.Watches := by
    intro other child same
    obtain ⟨rfl, rfl⟩ := Body.decorator.inj (former.symm.trans same)
    rwa [last, Option.some.injEq]
  rcases plays.watched with ⟨rfl, rfl, rfl⟩ | ⟨rfl, rfl⟩
  · cases running : child.isRunning with
    | false =>
        rw [running] at evolves
        obtain ⟨rfl, written⟩ := evolves.nil
        refine ⟨⟨_, .closed asked ?_ ?_⟩, leaves (.inl ?_)⟩
        · rw [running]
          exact written.notices
        · rw [running, written.calls]
          rfl
        · refine (watches predicate kept shape).resolve_right fun both => ?_
          rw [isRunning, both.2] at running
          cases running
    | true =>
        rw [running] at evolves
        replace evolves : child.Evolves (context.child 0) ([] ++ [.aborted (.ok ())]) _ kept := evolves
        obtain ⟨told, called⟩ := evolves.told
        rw [running] at told
        refine ⟨⟨_, .closed asked ?_ ?_⟩, leaves (.inl (evolves.idle_of_last (.inr rfl)))⟩
        · rw [told, running]
          rfl
        · rw [called, running]
          rfl
  · have opens : Watched predicate child context.place trace true status := by
      refine .opened asked ?_ ?_
      · rw [entered]
        by_cases running : status = .running
        · rw [if_pos running]
          rfl
        · rw [if_neg running]
          rfl
      · rw [returns]
        by_cases running : status = .running
        · rw [if_pos running]
          rfl
        · rw [if_neg running]
          rfl
    refine ⟨⟨_, opens⟩, leaves ?_⟩
    by_cases running : status = .running
    · rw [if_pos running] at evolves
      exact .inr ⟨running, evolves.last_of_ticked.trans (congrArg some running)⟩
    · rw [if_neg running] at evolves
      replace evolves :
        child.Evolves (context.child 0) ([.ticked (.ok status)] ++ [.reset]) _ kept := evolves
      exact .inl (evolves.idle_of_last (.inl rfl))

/-- What is a reactive guard after a tick has been one before. -/
theorem Undergoes.reactiveGuard {touch : Touch}
    (undergoes : node.Undergoes context touch before trace changed after)
    (shape : changed.body = .decorator (.reactiveGuard predicate) child) :
    ∃ former, node.body = .decorator (.reactiveGuard predicate) former := by
  obtain ⟨own, former, body, same⟩ := undergoes.decorator shape
  cases own <;> cases same
  exact ⟨former, body⟩

/-- A guard over nothing but an idle tree watches it. -/
theorem watches_of_idle (idle : node.Everywhere Idle) : node.Watches := by
  intro predicate child shape
  refine .inl (idle.child ?_)
  rw [children, shape]
  exact List.mem_singleton_self child

/-- The invariant of calm lives: reactive guards watch their bodies. -/
theorem Lives.watches (built : start.Built)
    (lives : start.Lives place Built (Touch.Calmly D) past node) : node.Watches := by
  induction lives with
  | born => exact watches_of_idle built.idle
  | wrote _ _ inductionHypothesis => exact inductionHypothesis
  | touched _ _ undergoes calm inductionHypothesis =>
      cases undergoes with
      | reset resets =>
          rw [cleared_of_reset resets]
          exact watches_of_idle (idle_cleared _)
      | aborted aborts =>
          obtain rfl := calm
          rw [cleared_of_abortIn aborts]
          exact watches_of_idle (idle_cleared _)
      | ticked ticks =>
          obtain ⟨_, rfl⟩ := calm
          intro predicate child shape
          obtain ⟨_, former⟩ := (Undergoes.ticked ticks).reactiveGuard shape
          exact (watched_of_tick former inductionHypothesis ticks).2 predicate child shape
  | extended _ _ accepted =>
      obtain ⟨tag, own, nodes, rfl, rfl⟩ := addChild_spec accepted
      rintro _ _ ⟨⟩
  | numbered _ same inductionHypothesis =>
      intro predicate child shape
      obtain ⟨former, body, twins⟩ := decorator_of_unnumbered same shape
      refine (inductionHypothesis predicate former body).imp (idle_of_unnumbered twins) fun both => ?_
      rwa [← last_unnumbered, same, last_unnumbered, ← last_unnumbered child, twins, last_unnumbered]

/-- A guard whose predicate is false abandons its body, which has nothing pending unless it is running. -/
theorem Watched.abandons (shape : node.body = .decorator (.reactiveGuard predicate) child)
    (watches : node.Watches) (watched : Watched predicate child context.place trace false status)
    (ticks : (node.tick context).Leads before trace ⟨changed, .ok status⟩ after) :
    node.Abandons child context [.evaluated node.info false]
      ⟨(A.test predicate before.agent).state, before.debugger⟩ after := by
  cases watched with
  | closed asked told called =>
      obtain ⟨_, performed, heard⟩ := tested_of_tick shape rfl asked ticks
      have cancelled : (trace.within (0 :: context.place)).made = child.pending.map .cancelled := by
        refine called.trans ?_
        cases running : child.isRunning with
        | true => rfl
        | false =>
            -- Either all of the body is idle or it is running.
            have idle := (watches predicate child shape).resolve_right fun both => by
              rw [isRunning, both.2] at running
              cases running
            rw [pending_of_idle idle]
            rfl
      have reported : (trace.within (0 :: context.place)).told =
          if child.isRunning then [.aborted child.info] else [] := by
        rw [Trace.told, told]
        cases child.isRunning <;> rfl
      rw [cancelled] at performed
      rw [reported] at heard
      refine ⟨performed.eq_cancelAll, ?_⟩
      rw [((node.carried_tick context).of_leads ticks).heard, heard]
      rfl

/-- Whatever a reactive guard has gone through without a panic: as long as it is not running, all of its
body is idle and nothing is pending in it. Each of its ticks watches the body by what the predicate
answers on the stage, where all that the trace tells is done and heard. If the answer is false, the guard
abandons its body. -/
theorem reactive_guard_watches {place : Place} {start node child : Node A} {past : Trace A}
    {predicate : A.Predicate} (built : start.Built)
    (lives : start.Lives place Built (Touch.Calmly D) past node)
    (shape : node.body = .decorator (.reactiveGuard predicate) child) :
    (node.last ≠ some .running → child.Everywhere Idle ∧ child.pending = []) ∧
      ∀ (context : Context D) (before after : Stage A D) (trace : Trace A) (changed : Node A)
        (status : Status), context.place = place →
          (node.tick context).Leads before trace ⟨changed, .ok status⟩ after →
            trace.Carries context.sink before after ∧
              ∃ answer, (A.test predicate before.agent).value = .ok answer ∧
                Watched predicate child place trace answer status ∧
                (answer = false → node.Abandons child context [.evaluated node.info false]
                  ⟨(A.test predicate before.agent).state, before.debugger⟩ after) := by
  have watches := lives.watches built
  refine ⟨fun stopped => ?_, ?_⟩
  · have idle : child.Everywhere Idle :=
      (watches predicate child shape).resolve_right fun both => stopped both.1
    exact ⟨idle, pending_of_idle idle⟩
  · rintro context before after trace changed status rfl ticks
    obtain ⟨answer, watched⟩ := (watched_of_tick shape watches ticks).1
    refine ⟨(node.carried_tick context).of_leads ticks, answer, ?_, watched, ?_⟩
    · cases watched with
      | closed asked | opened asked => exact (tested_of_tick shape rfl asked ticks).1
    · rintro rfl
      exact watched.abandons shape watches ticks

end Node

/-- With the flag down the sample root aborts its operation, and nothing of it is left. -/
theorem Node.waiting_guard_watches :
    (∃ operation, Sample.waiting.body = .decorator (.reactiveGuard ()) operation ∧
      operation.isRunning = true ∧ operation.pending = [()] ∧
        Watched () operation Tree.rootPlace (Sample.heard Sample.waiting false).trace false .failure ∧
        (Sample.heard Sample.waiting false).stage.debugger =
          [.entered Sample.waiting.info .zero, .evaluated Sample.waiting.info false,
            .aborted operation.info, .left Sample.waiting.info .failure .zero]) ∧
      ∃ operation, Sample.stopped.body = .decorator (.reactiveGuard ()) operation ∧
        operation.Everywhere Idle ∧ operation.pending = [] := by
  have waiting : Sample.root.Lives Tree.rootPlace Built (Touch.Calmly (List Notice)) _ Sample.waiting :=
    (Sample.history_heard Host.calm_ok).lives
  have stopped : Sample.root.Lives Tree.rootPlace Built (Touch.Calmly Unit) _ Sample.stopped :=
    (Sample.history_stopped Host.calm_ok).lives
  obtain ⟨_, ticks⟩ := reactive_guard_watches Sample.built waiting rfl
  obtain ⟨idle, _⟩ := reactive_guard_watches Sample.built stopped rfl
  refine ⟨⟨_, rfl, rfl, rfl, ?_⟩, ⟨_, rfl, idle nofun⟩⟩
  obtain ⟨_, answer, answered, watched, abandons⟩ := ticks Sample.attentive ⟨false, []⟩ _ _ _ .failure rfl
    (Run.leads_self (Sample.waiting.tick Sample.attentive) ⟨false, []⟩)
  obtain rfl : false = answer := Except.ok.inj answered
  refine ⟨watched, ?_⟩
  rw [Sample.heard, (abandons rfl).debugger]
  exact Sink.hearAll_collecting _ []

end Behavior
