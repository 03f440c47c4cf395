import Behavior.Proofs.Valid.Bookkeeping

namespace Behavior

variable {A : Agent} {D : Type}

/-- The panic with which a call has ended. -/
def Call.panic? : Call A → Option Panic
  | .tested _ (.error panic) => some panic
  | .acted _ _ (.error panic) => some panic
  | .started _ (.error panic) => some panic
  | _ => none

/-- A panic is raised from outside if a call in the trace has ended with it, or if the sink reacts
with it to a notice in the trace or to a pause. -/
inductive Raised (sink : Option (Sink D)) (trace : Trace A) (panic : Panic) : Prop
  | called {place : Place} {call : Call A} (made : ⟨place, .call call⟩ ∈ trace)
      (ended : call.panic? = some panic)
  | observed {observer : Sink D} {place : Place} {notice : Notice} (debugger : D)
      (installed : sink = some observer) (told : ⟨place, .notice notice⟩ ∈ trace)
      (reacts : (observer.observe notice debugger).panic = some panic)
  | paused {observer : Sink D} (debugger : D) (installed : sink = some observer)
      (reacts : (observer.pause debugger).panic = some panic)

variable {context : Context D} {info : NodeInfo} {before after : Stage A D} {trace more : Trace A}
  {panic : Panic}

/-- What is raised in a trace is raised in a longer one. -/
theorem Raised.mono {sink : Option (Sink D)} (raised : Raised sink trace panic)
    (included : trace ⊆ more) : Raised sink more panic := by
  cases raised with
  | called made ended => exact .called (included made) ended
  | observed debugger installed told reacts =>
      exact .observed debugger installed (included told) reacts
  | paused debugger installed reacts => exact .paused debugger installed reacts

/-- A panic at the beginning is a panic of the whole. -/
theorem Raised.left {sink : Option (Sink D)} (raised : Raised sink trace panic) :
    Raised sink (trace ++ more) panic :=
  raised.mono (List.subset_append_left _ _)

/-- A panic at the end is a panic of the whole. -/
theorem Raised.right {sink : Option (Sink D)} (raised : Raised sink more panic) :
    Raised sink (trace ++ more) panic :=
  raised.mono (List.subset_append_right _ _)

/-- A call that ends with a panic has raised it. -/
theorem Raised.of_call {Value : Type} {sink : Option (Sink D)} {place : Place}
    {reply : A.State → Reply A.State Value} {describe : Value → Call A} {value : Value}
    (called : (Run.call place reply describe).Leads before trace value after)
    (ended : (describe value).panic? = some panic) : Raised sink trace panic := by
  obtain ⟨lines, rfl⟩ := called.trace_of_call
  exact .called List.mem_cons_self ended

namespace Context

/-- A hook that panics has reacted with its panic in some state of the debugger. -/
theorem panic_of_react {hook : D → Reaction D}
    (reacted : (context.react hook).Leads before trace (.error panic) after) :
    (hook before.debugger).panic = some panic := by
  simp only [Run.Leads, react, Outcome.mk.injEq] at reacted
  have result := reacted.1
  cases raised : (hook before.debugger).panic with
  | none =>
      rw [raised] at result
      cases result
  | some other =>
      rw [raised] at result
      exact congrArg some (Except.error.inj result)

/-- Only the sink panics where a notice is told. -/
theorem raised_of_notify {notice : Notice}
    (notified : (context.notify notice).Leads before trace (.error panic) after) :
    Raised context.sink trace panic := by
  obtain ⟨_, middle, earlier, later, entered, observed, rfl⟩ := Run.leads_bind.1 notified
  obtain ⟨rfl, rfl⟩ := Run.leads_enter.1 entered
  cases installed : context.sink with
  | none =>
      rw [installed] at observed
      cases (Run.leads_pure.1 observed).1
  | some observer =>
      rw [installed] at observed
      exact .observed _ rfl List.mem_cons_self (panic_of_react observed)

/-- Only the sink panics at a pause. -/
theorem raised_of_pauseBefore
    (paused : (context.pauseBefore info).Leads before trace (.error panic) after) :
    Raised context.sink trace panic := by
  unfold pauseBefore at paused
  cases installed : context.sink with
  | none =>
      rw [installed] at paused
      cases (Run.leads_pure.1 paused).1
  | some observer =>
      simp only [installed, Run.Leads] at paused
      split at paused
      · replace paused : (context.react observer.pause).Leads _ trace (.error panic) after := paused
        exact .paused _ rfl (panic_of_react paused)
      · cases congrArg Outcome.value paused

/-- Only the sink panics where a node is entered. -/
theorem raised_of_enter
    (entered : (context.enter info).Leads before trace (.error panic) after) :
    Raised context.sink trace panic := by
  obtain ⟨announced, _, _, _, notified, ended, rfl⟩ := Run.leads_bind.1 entered
  match announced with
  | .error other =>
      obtain ⟨same, rfl, rfl⟩ := Run.leads_pure.1 ended
      cases same
      exact (raised_of_notify notified).left
  | .ok () => exact (raised_of_pauseBefore ended).right

/-- A predicate that is asked panics itself, or the sink does. -/
theorem raised_of_ask {predicate : A.Predicate}
    (asks : (context.ask info predicate).Leads before trace (.error panic) after) :
    Raised context.sink trace panic := by
  obtain ⟨answer, _, _, _, called, ended, rfl⟩ := Run.leads_bind.1 asks
  match answer with
  | .error other =>
      obtain ⟨same, rfl, rfl⟩ := Run.leads_pure.1 ended
      cases same
      exact (Raised.of_call called rfl).left
  | .ok value =>
      obtain ⟨reported, notified, same⟩ := Run.leads_bind_pure.1 ended
      cases reported with
      | error other =>
          cases same
          exact (raised_of_notify notified).right
      | ok => cases same

end Context

/-- An optional predicate that is asked panics itself, or the sink does. -/
theorem Asks.raised {predicate : Option A.Predicate}
    (asks : Asks context info predicate before trace (.error panic) after) :
    Raised context.sink trace panic := by
  cases asks with
  | asked asks => exact Context.raised_of_ask asks

namespace Leaf

variable {own next : Leaf A}

/-- Every poll returns a status. -/
theorem ok_of_poll {place : Place} {starter : A.Starter} {operation : A.Operation}
    {result : Except Panic Status}
    (polls : (poll place starter operation).Leads before trace ⟨next, result⟩ after) :
    ∃ status, result = .ok status := by
  obtain ⟨completed, _, _, _, _, ended, rfl⟩ := Run.leads_bind.1 polls
  cases completed with
  | false =>
      obtain ⟨_, rfl, _⟩ := Run.leads_attempt.1 ended
      exact ⟨_, rfl⟩
  | true =>
      obtain ⟨_, _, _, rfl⟩ := Run.leads_bind_attempt.1 ended
      exact ⟨_, rfl⟩

/-- A leaf panics only as the agent or the sink does. -/
theorem raised_of_tick
    (ticks : (own.tick info context).Leads before trace ⟨next, .error panic⟩ after) :
    Raised context.sink trace panic := by
  match own with
  | .condition predicate =>
      obtain ⟨answer, asks, _, same⟩ := Run.leads_bind_attempt.1 ticks
      cases answer with
      | error other =>
          cases same
          exact Context.raised_of_ask asks
      | ok => cases same
  | .action deed =>
      obtain ⟨status, called, _, rfl⟩ := Run.leads_bind_attempt.1 ticks
      exact .of_call called rfl
  | .asyncAction starter (some operation) =>
      obtain ⟨_, contrary⟩ := ok_of_poll ticks
      cases contrary
  | .asyncAction starter none =>
      obtain ⟨started, _, _, _, called, ended, rfl⟩ := Run.leads_bind.1 ticks
      match started with
      | .error other =>
          obtain ⟨_, same, rfl, rfl⟩ := Run.leads_attempt.1 ended
          cases same
          exact (Raised.of_call called rfl).left
      | .ok operation =>
          obtain ⟨_, contrary⟩ := ok_of_poll ended
          cases contrary

end Leaf

/-- A touch fails with the panic that cuts it short. -/
inductive Touch.Fails (panic : Panic) : Touch → Prop
  | ticked : Fails panic (.ticked (.error panic))
  | aborted : Fails panic (.aborted (.error panic))

/-- Some touches fail with a panic if one of them does. -/
def FailsWithin (panic : Panic) (touches : List (Nat × Touch)) : Prop :=
  ∃ position touch, (position, touch) ∈ touches ∧ touch.Fails panic

variable {touches : List (Nat × Touch)} {touch : Touch}

/-- One touch that fails is enough. -/
theorem failsWithin_single {position : Nat} (fails : touch.Fails panic) :
    FailsWithin panic [(position, touch)] :=
  ⟨position, touch, List.mem_singleton_self _, fails⟩

/-- What fails within some touches fails within more. -/
theorem FailsWithin.mono {others : List (Nat × Touch)} (fails : FailsWithin panic touches)
    (included : touches ⊆ others) : FailsWithin panic others := by
  obtain ⟨position, touch, member, fails⟩ := fails
  exact ⟨position, touch, included member, fails⟩

/-- One more touch in front changes nothing about a failure. -/
theorem FailsWithin.cons {position : Nat} (fails : FailsWithin panic touches) :
    FailsWithin panic ((position, touch) :: touches) :=
  fails.mono (List.subset_cons_self _ _)

/-- A decorator panics only as its child does. -/
theorem Decorator.Plays.fails {clock : Clock} {answer running : Bool} {own next : Decorator A}
    (plays : own.Plays clock answer running touches (.error panic) next) :
    FailsWithin panic touches := by
  generalize failed : (.error panic : Except Panic Status) = result at plays
  cases plays with
  | skipped | ticked | renewed => cases failed
  | aborted result =>
      cases result with
      | error other =>
          cases failed
          exact failsWithin_single .aborted
      | ok => cases failed
  | unwound other =>
      cases failed
      exact failsWithin_single .ticked

/-- An abandonment panics in the abort of the branch. -/
theorem Choice.Abandonment.fails {own : Choice A} {hasNo : Bool} {branch : Branch}
    (abandons : own.Abandonment hasNo branch touches (.error panic)) :
    FailsWithin panic touches := by
  cases abandons with
  | aborted => exact failsWithin_single .aborted

/-- A choice panics only as one of its branches does. -/
theorem Choice.Plays.fails {own next : Choice A} {hasNo answer : Bool}
    (plays : own.Plays hasNo answer touches (.error panic) next) : FailsWithin panic touches := by
  cases plays with
  | unwound abandons => exact abandons.fails
  | routed => exact (failsWithin_single .ticked).mono (List.subset_append_right _ _)

namespace Composite

variable {skip : Status} {start count : Nat} {own next : Composite}
  {outcomes later : List (Option Status)}

/-- A scan panics in one of its children. -/
theorem Scans.fails (scans : Scans skip start count touches (.error panic)) :
    FailsWithin panic touches := by
  generalize failed : (.error panic : Except Panic (Option Stop)) = outcome at scans
  induction scans with
  | exhausted | stopped => cases failed
  | unwound =>
      cases failed
      exact failsWithin_single .ticked
  | skipped _ inductionHypothesis => exact (inductionHypothesis failed).cons

/-- The remembered positions are never outside, so only the reports of the preemption can panic. -/
theorem Preempts.fails {stop : Option Nat} {positions : List Nat}
    (preempts : Preempts stop count positions touches (.error panic))
    (inside : ∀ position ∈ positions, position < count) : FailsWithin panic touches := by
  generalize failed : (.error panic : Except Panic Unit) = outcome at preempts
  induction preempts with
  | done => cases failed
  | kept _ _ inductionHypothesis =>
      exact inductionHypothesis (List.forall_mem_cons.1 inside).2 failed
  | aborted _ _ _ inductionHypothesis =>
      exact (inductionHypothesis (List.forall_mem_cons.1 inside).2 failed).cons
  | unwound =>
      cases failed
      exact failsWithin_single .aborted
  | outside _ beyond =>
      have below := (List.forall_mem_cons.1 inside).1
      omega

/-- An advance panics in one of its children. -/
theorem Advances.fails (advances : Advances start outcomes touches later (.error panic)) :
    FailsWithin panic touches := by
  generalize failed : (.error panic : Except Panic Unit) = result at advances
  induction advances with
  | done => cases failed
  | finished _ inductionHypothesis => exact inductionHypothesis failed
  | ticked _ inductionHypothesis => exact (inductionHypothesis failed).cons
  | unwound =>
      cases failed
      exact failsWithin_single .ticked

/-- A finalization panics in one of its aborts. -/
theorem Finalizes.fails (finalizes : Finalizes start outcomes touches later (.error panic)) :
    FailsWithin panic touches := by
  generalize failed : (.error panic : Except Panic Unit) = result at finalizes
  induction finalizes with
  | done => cases failed
  | finished _ inductionHypothesis => exact inductionHypothesis failed
  | aborted _ inductionHypothesis => exact (inductionHypothesis failed).cons
  | unwound =>
      cases failed
      exact failsWithin_single .aborted

/-- A resumption from a position of a child never starts outside. -/
theorem Resumes.fails {remember : Option Nat → Composite} {running : Option Nat}
    (resumes : Resumes remember skip running count touches (.error panic) next)
    (inside : ∀ position, running = some position → position < count) :
    FailsWithin panic touches := by
  cases resumes with
  | outside beyond =>
      cases running with
      | none => exact absurd beyond (Nat.not_lt_zero _)
      | some position => exact absurd (inside position rfl) (Nat.lt_asymm beyond)
  | unwound _ scans => exact scans.fails

/-- A reaction panics in one of its children. -/
theorem Reacts.fails {running : List Nat} {kept unwound : Composite}
    {settled : Option Stop → Composite}
    (reacts : Reacts skip running kept unwound settled count touches (.error panic) next)
    (inside : ∀ position ∈ running, position < count) : FailsWithin panic touches := by
  cases reacts with
  | scanUnwound scans => exact scans.fails
  | preemptionUnwound _ preempts =>
      exact (preempts.fails inside).mono (List.subset_append_right _ _)

/-- A valid composite panics only as one of its children does. -/
theorem Plays.fails (plays : Plays count own touches (.error panic) next)
    (valid : own.Valid count) : FailsWithin panic touches := by
  cases plays with
  | selector resumes | sequence resumes => exact resumes.fails valid
  | parallel concurs =>
      cases concurs with
      | advanceUnwound advances => exact advances.fails
      | finalizationUnwound _ _ finalizes =>
          exact finalizes.fails.mono (List.subset_append_right _ _)
  | reactiveSelector reacts => exact reacts.fails valid
  | reactiveSequence reacts =>
      exact reacts.fails fun position member => valid position (Option.mem_toList.1 member)

end Composite

namespace Body

variable {body changed : Body A (Node A)}

/-- A valid body that panics has a child that does. -/
theorem Plays.fails {clock : Clock} {answer : Bool}
    (plays : body.Plays clock answer touches (.error panic) changed) (valid : body.Valid) :
    FailsWithin panic touches := by
  cases plays with
  | decorator plays => exact plays.fails
  | choice plays => exact plays.fails
  | composite plays => exact plays.fails valid

end Body

namespace Node

variable {tag : Tag} {node changed : Node A}

/-- Only the sink panics in an abort. -/
theorem raised_of_abortIn
    (aborts : (node.abortIn context).Leads before trace ⟨changed, .error panic⟩ after) :
    Raised context.sink trace panic := by
  obtain ⟨reported, middle, earlier, later, asked, ended, rfl⟩ := Run.leads_bind.1 aborts
  match reported with
  | .ok () =>
      obtain ⟨_, _, same⟩ := Run.leads_bind_pure.1 ended
      cases same
  | .error other =>
      obtain ⟨_, same, rfl, rfl⟩ := Run.leads_attempt.1 ended
      cases same
      unfold reportAbort at asked
      split at asked
      case isTrue =>
        obtain ⟨_, _, _, _, wrote, notified, rfl⟩ := Run.leads_bind.1 asked
        exact (Context.raised_of_notify notified).right.left
      case isFalse => cases (Run.leads_pure.1 asked).1

/-- Nodes panic from outside if the panics that leave the valid nodes that are built as one of them
are raised from outside. -/
def PanicFromOutside (D : Type) (nodes : List (Node A)) : Prop :=
  ∀ child ∈ nodes, ∀ other : Node A, other.pristine = child.pristine → other.Everywhere Valid →
    ∀ {context : Context D} {before after : Stage A D} {trace : Trace A} {changed : Node A}
      {panic : Panic}, (other.tick context).Leads before trace ⟨changed, .error panic⟩ after →
        Raised context.sink trace panic

/-- A valid body panics as the agent, the sink, or one of its children does. -/
theorem raised_of_works {body next : Body A (Node A)}
    (valid : Everywhere Valid ⟨tag, body⟩) (below : PanicFromOutside D body.children)
    (works : body.Works context info before trace (.error panic) next after) :
    Raised context.sink trace panic := by
  cases works with
  | leaf ticks => exact Leaf.raised_of_tick ticks
  | refused asks => exact asks.raised
  | played _ handles plays =>
      obtain ⟨position, touch, member, fails⟩ := plays.fails valid.here
      obtain ⟨child, present, _, _, _, _, touching, _, _, evolves, undergoes, inside⟩ :=
        handles.exists_of_mem member
      have raised : Raised (context.child position).sink touching panic := by
        cases fails with
        | ticked =>
            obtain ⟨ticks⟩ := undergoes
            exact below child present _ evolves.pristine
              (evolves.everywhere Undergoes.valid (valid.child present)) ticks
        | aborted =>
            cases undergoes with
            | aborted aborts => exact raised_of_abortIn aborts
      exact (raised.mono inside).right

/-- A valid tree never fails by itself: whatever panic leaves its tick is raised from outside. -/
theorem raised_of_tick (valid : node.Everywhere Valid)
    (ticks : (node.tick context).Leads before trace ⟨changed, .error panic⟩ after) :
    Raised context.sink trace panic := by
  induction node using Node.rebuilding generalizing context before trace changed after panic with
  | step node inductionHypothesis =>
      obtain ⟨tag, body⟩ := node
      have below : PanicFromOutside D body.children :=
        fun child member other built valid _ _ _ _ _ _ ticks =>
          inductionHypothesis child member other built valid ticks
      rw [tick_eq, tickStep, Body.kind_map, map_node] at ticks
      obtain ⟨announced, _, _, _, entered, worked, rfl⟩ := Run.leads_bind.1 ticks
      cases announced with
      | error other =>
          obtain ⟨_, same, rfl, rfl⟩ := Run.leads_attempt.1 worked
          cases same
          exact (Context.raised_of_enter entered).left
      | ok =>
          obtain ⟨⟨_, returned⟩, _, _, _, works, ended, rfl⟩ := Run.leads_bind.1 worked
          replace works := Body.works_of_tick works
          cases returned with
          | error other =>
              obtain ⟨_, same, rfl, rfl⟩ := Run.leads_attempt.1 ended
              cases same
              exact (raised_of_works valid below works).left.right
          | ok status =>
              obtain ⟨left, notified, _, same⟩ := Run.leads_bind_attempt.1 ended
              cases left with
              | error other =>
                  cases same
                  exact (Context.raised_of_notify notified).right.right
              | ok => cases same

end Node

namespace Tree

variable {tree changed : Tree A D}

/-- Whatever panic ends a tick of a tree has been raised in it. -/
theorem raised_of_tick {deltaTime : Float32} (valid : tree.root.Everywhere Node.Valid)
    (ticks : (tree.tick deltaTime).Leads before trace ⟨changed, .error panic⟩ after) :
    Raised tree.sink trace panic := by
  obtain ⟨⟨root, returned⟩, _, _, _, ticked, ended, rfl⟩ := Run.leads_bind.1 ticks
  match returned with
  | .error other =>
      obtain ⟨_, same, rfl, rfl⟩ := Run.leads_attempt.1 ended
      cases same
      exact (Node.raised_of_tick valid ticked).left
  | .ok status =>
      obtain ⟨_, _, _, _, _, followed, rfl⟩ := Run.leads_bind.1 ended
      dsimp only at followed
      split at followed
      · obtain ⟨_, _, _, contrary⟩ := Run.leads_bind_attempt.1 followed
        cases contrary
      · obtain ⟨_, contrary, _⟩ := Run.leads_attempt.1 followed
        cases contrary

/-- A valid tree obeys every order unless the agent or the sink panics. -/
theorem raised_of_obey {order : Order D} (valid : tree.root.Everywhere Node.Valid)
    (obeys : (tree.obey order).Leads before trace ⟨changed, .error panic⟩ after) :
    Raised tree.sink trace panic := by
  cases order with
  | tick deltaTime =>
      obtain ⟨⟨_, result⟩, ticks, _, same⟩ := Run.leads_bind_attempt.1 obeys
      cases result with
      | error other =>
          cases same
          exact raised_of_tick valid ticks
      | ok => cases same
  | reset =>
      obtain ⟨_, _, _, contrary⟩ := Run.leads_bind_attempt.1 obeys
      cases contrary
  | abort =>
      obtain ⟨⟨_, result⟩, stopped, _, same⟩ := Run.leads_bind_attempt.1 obeys
      obtain ⟨⟨_, _⟩, aborts, _, rfl⟩ := Run.leads_bind_attempt.1 stopped
      cases result with
      | error other =>
          cases same
          exact Node.raised_of_abortIn aborts
      | ok => cases same
  | setSink | clearSink =>
      obtain ⟨_, contrary, _⟩ := Run.leads_attempt.1 obeys
      cases contrary

end Tree

/-- However the children of a parallel node end, no more of them have failed than there are. -/
theorem Composite.count_failures_le (context : Context D) (outcomes : List (Option Status))
    (nodes : List (Node A)) (stage : Stage A D) :
    (advance context 0 (nodes.map Node.arm) (padded outcomes nodes.length) stage).value.after.2.count
      (some .failure) ≤ nodes.length := by
  have padding := length_padded outcomes nodes.length
  obtain ⟨_, advances, _⟩ := leads_advance [] rfl padding
    (Run.leads_self (advance context 0 (nodes.map Node.arm) (padded outcomes nodes.length)) stage)
  calc List.count _ _ ≤ _ := List.count_le_length
    _ = (padded outcomes nodes.length).length := advances.length_eq
    _ = nodes.length := padding

/-- Whatever has been done to a host, however often it has been cut short by panics: its nodes
remember what fits them, no parallel node counts more failures than it has children, and whatever
panic leaves the next tick or the next order has been raised from outside. -/
theorem Host.panics_come_from_outside {root : Node A} {host : Host A D} {past : Trace A}
    {ends : Except Panic (Option Status) → Prop} (built : root.Built)
    (history : (Host.bare (D := D) root).History Node.Built ends past host) :
    (∀ node ∈ host.root.preorder, node.Valid) ∧
    (∀ node ∈ host.root.preorder, ∀ policy outcomes nodes,
      node.body = .composite (.parallel policy outcomes) nodes →
        ∀ (context : Context D) (stage : Stage A D),
          (Composite.advance context 0 (nodes.map Node.arm)
            (Composite.padded outcomes nodes.length) stage).value.after.2.count (some .failure) ≤
              nodes.length) ∧
    (∀ (context : Context D) stage panic, (host.root.tick context stage).value.result = .error panic →
      Raised context.sink (host.root.tick context stage).trace panic) ∧
    ∀ tree, host = .planted tree → ∀ order stage panic,
      (tree.obey order stage).value.result = .error panic →
        Raised tree.sink (tree.obey order stage).trace panic := by
  have valid := history.valid built
  refine ⟨valid, ?_, ?_, ?_⟩
  · intro node _ policy outcomes nodes _ context stage
    exact Composite.count_failures_le context outcomes nodes stage
  · intro context stage panic failed
    have ticks := Run.leads_self (host.root.tick context) stage
    generalize (host.root.tick context stage).value = ended at failed ticks
    obtain ⟨_, _⟩ := ended
    obtain rfl := failed
    exact Node.raised_of_tick valid ticks
  · rintro tree rfl order stage panic failed
    have obeys := Run.leads_self (tree.obey order) stage
    generalize (tree.obey order stage).value = ended at failed obeys
    obtain ⟨_, _⟩ := ended
    obtain rfl := failed
    exact Tree.raised_of_obey valid obeys

namespace Sample

/-- An alarm panics at the report of an abort. -/
def alarm : Sink Unit :=
  { Sink.silent with observe := fun notice debugger =>
      match notice with
      | .aborted _ => ⟨debugger, [], some (.raised "alarm")⟩
      | _ => .none debugger }

/-- Under an alarm the abort of the pending operation is cut short. -/
def alarmed : Outcome agent Unit (Attempt (Node agent) Status) :=
  waiting.tick { Sample.context with sink := some alarm } ⟨false, ()⟩

end Sample

/-- The panic that leaves the tick under an alarm is the one of the alarm. -/
theorem Host.panic_comes_from_alarm :
    Sample.alarmed.value.result = .error (.raised "alarm") ∧
      Raised (some Sample.alarm) Sample.alarmed.trace (.raised "alarm") := by
  have failed : Sample.alarmed.value.result = .error (.raised "alarm") := rfl
  have safe := panics_come_from_outside Sample.built (Sample.history_waiting calm_ok)
  exact ⟨failed, safe.2.2.1 { Sample.context with sink := some Sample.alarm } _ _ failed⟩

end Behavior
