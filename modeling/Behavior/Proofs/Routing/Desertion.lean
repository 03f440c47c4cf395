import Behavior.Proofs.Handoff.Visiting
import Behavior.Proofs.Life
import Behavior.Proofs.Touch.Entrances

namespace Behavior

variable {A : Agent} {D : Type}

section Quiet

variable {context : Context D} {node changed : Node A} {before after : Stage A D} {trace : Trace A}
  {panic : Panic}

/-- A quiet sink takes every notice without a panic. -/
theorem Context.ok_of_notify {notice : Notice} {result : Except Panic Unit} (quiet : context.Quiet)
    (notified : (context.notify notice).Leads before trace result after) : result = .ok () := by
  cases result with
  | ok => rfl
  | error panic =>
      obtain ⟨outputs, rfl⟩ := tells_of_notify notified
      cases raised_of_notify notified with
      | called made =>
          rcases List.mem_cons.1 made with same | made
          · cases same
          · obtain ⟨_, _, same⟩ := List.mem_map.1 made
            cases same
      | observed debugger installed _ reacts =>
          cases ((quiet _ installed).1 _ debugger).symm.trans reacts
      | paused debugger installed reacts =>
          cases ((quiet _ installed).2 debugger).symm.trans reacts

namespace Node

/-- No abort is cut short under a quiet sink. -/
theorem ok_of_abortIn {result : Except Panic Unit} (quiet : context.Quiet)
    (aborts : (node.abortIn context).Leads before trace ⟨changed, result⟩ after) :
    result = .ok () := by
  obtain ⟨reported, _, _, _, asked, ended, rfl⟩ := Run.leads_bind.1 aborts
  have calm : reported = .ok () := by
    unfold reportAbort at asked
    split at asked
    case isTrue =>
      obtain ⟨_, _, _, _, _, notified, rfl⟩ := Run.leads_bind.1 asked
      exact Context.ok_of_notify quiet notified
    case isFalse => exact (Run.leads_pure.1 asked).1
  subst calm
  obtain ⟨_, _, same⟩ := Run.leads_bind_pure.1 ended
  exact congrArg Attempt.result same

/-- Under a quiet sink a tick is cut short within the work of its body. The node keeps its status. -/
theorem unwound_of_tick (quiet : context.Quiet)
    (ticks : (node.tick context).Leads before trace ⟨changed, .error panic⟩ after) :
    ∃ first final announcing working, trace = announcing ++ working ∧
      context.Tells (.entered node.info context.clock) announcing ∧
      node.body.Works context node.info first working (.error panic) changed.body final ∧
      changed.last = node.last := by
  obtain ⟨tag, body⟩ := node
  rw [tick_eq, tickStep, Body.kind_map] at ticks
  obtain ⟨announced, _, _, _, entered, worked, rfl⟩ := Run.leads_bind.1 ticks
  obtain rfl := Context.ok_of_enter quiet entered
  obtain ⟨⟨_, returned⟩, _, _, _, works, ended, rfl⟩ := Run.leads_bind.1 worked
  cases returned with
  | error panic =>
      obtain ⟨rfl, same, rfl, rfl⟩ := Run.leads_attempt.1 ended
      cases same
      rw [List.append_nil]
      exact ⟨_, _, _, _, rfl, Context.tells_of_enter entered, Body.works_of_tick works, rfl⟩
  | ok status =>
      obtain ⟨left, notified, _, same⟩ := Run.leads_bind_attempt.1 ended
      obtain rfl := Context.ok_of_notify quiet notified
      cases same

end Node

end Quiet

namespace Trace

variable {place : Place} {past trace : Trace A}

/-- The last tick at a place has been cut short if nothing is signed there after its beginning. -/
def CutShort (place : Place) (trace : Trace A) : Prop :=
  (trace.signsAt place).getLast? = some .entered

instance (place : Place) (trace : Trace A) : Decidable (trace.CutShort place) :=
  inferInstanceAs (Decidable (_ = _))

/-- A tick stays cut short as long as nothing more is signed. -/
theorem cutShort_append_of_unsigned (unsigned : trace.signsAt place = []) :
    (past ++ trace).CutShort place ↔ past.CutShort place := by
  rw [CutShort, signsAt_append, unsigned, List.append_nil, CutShort]

/-- The last sign says whether a tick has been cut short. -/
theorem cutShort_append_of_signed {first : List Sign} {sign : Sign}
    (signed : trace.signsAt place = first ++ [sign]) :
    (past ++ trace).CutShort place ↔ sign = .entered := by
  rw [CutShort, signsAt_append, signed, ← List.append_assoc, List.getLast?_concat,
    Option.some.injEq]

/-- Whether a tick at a place is cut short does not depend on what happens elsewhere. -/
theorem cutShort_append_within :
    (past ++ trace.within place).CutShort place ↔ (past ++ trace).CutShort place := by
  rw [CutShort, signsAt_append, signsAt_within (List.suffix_refl place), CutShort, signsAt_append]

end Trace

namespace Choice

variable {own next : Choice A} {hasNo answer : Bool} {touches : List (Nat × Touch)}
  {result : Except Panic Status} {branch : Branch}

/-- What a play of a choice does with one of its branches. It routes to the branch, aborts it, or leaves
it alone because it is not abandoned. Only the branch that is routed to may become active. -/
inductive Handled (own next : Choice A) (branch : Branch) : List Touch → Prop
  | routed (result : Except Panic Status) (final : next = own.activate branch result) :
      Handled own next branch [.ticked result]
  | aborted (abandons : own.Abandons branch) (inactive : next.active ≠ some branch) :
      Handled own next branch [.aborted (.ok ())]
  | spared (kept : ¬ own.Abandons branch) (inactive : next.active ≠ some branch) :
      Handled own next branch []

/-- A branch is active after it has returned running, and only then. -/
theorem active_activate (own : Choice A) (branch : Branch) (result : Except Panic Status) :
    (own.activate branch result).active = if result = .ok .running then some branch else none := by
  match result with
  | .ok .running | .ok .success | .ok .failure | .error _ => rfl

theorem switch_activate (own : Choice A) (branch : Branch) (result : Except Panic Status) :
    (own.activate branch result).switch = own.switch := by
  match result with
  | .ok .running | .ok .success | .ok .failure | .error _ => rfl

/-- What happens on a switch is never changed. -/
theorem Plays.switch (plays : own.Plays hasNo answer touches result next) :
    next.switch = own.switch := by
  cases plays with
  | unwound | missing => rfl
  | routed => exact switch_activate own _ _

/-- A branch that is given up has been handled. -/
theorem Abandonment.handled (abandons : own.Abandonment hasNo branch touches (.ok ()))
    (present : branch.Present hasNo) (inactive : next.active ≠ some branch) :
    Handled own next branch (touchesOf branch.position touches) := by
  cases abandons with
  | spared kept => exact .spared (fun contrary => kept contrary present) inactive
  | aborted abandons =>
      rw [touchesOf_cons_self, touchesOf_nil]
      exact .aborted abandons inactive

/-- Every play handles each of the branches, as long as no abort is cut short. -/
theorem Plays.handled (plays : own.Plays hasNo answer touches result next)
    (calm : ∀ position panic, (position, Touch.aborted (.error panic)) ∉ touches)
    (branch : Branch) (present : branch.Present hasNo) :
    Handled own next branch (touchesOf branch.position touches) := by
  cases plays with
  | unwound abandons =>
      cases abandons with
      | aborted => exact absurd (List.mem_singleton_self _) (calm _ _)
  | routed result abandons chosen =>
      rw [touchesOf_append]
      by_cases same : branch = Branch.ofBool answer
      · subst same
        rw [abandons.touchesOf_other, touchesOf_cons_self, touchesOf_nil, List.nil_append]
        exact .routed result rfl
      · have apart : (Branch.ofBool answer).position ≠ branch.position :=
          fun contrary => same (Branch.position_inj contrary).symm
        rw [touchesOf_cons_of_ne apart, touchesOf_nil, List.append_nil]
        have inactive : (own.activate (Branch.ofBool answer) result).active ≠ some branch := by
          rw [active_activate]
          split
          · exact fun contrary => same (Option.some.inj contrary).symm
          · exact nofun
        obtain rfl := Branch.eq_other same
        exact abandons.handled present inactive
  | missing abandons absent =>
      have different : branch ≠ Branch.ofBool answer := fun same => absent (same ▸ present)
      obtain rfl := Branch.eq_other different
      exact abandons.handled present nofun

/-- A choice tracks a branch if it is active whenever it is running, unless its last tick has been cut
short. -/
def Tracks (own : Choice A) (branch : Branch) (child : Node A) (place : Place) (past : Trace A) :
    Prop :=
  child.last = some .running → (own.active = some branch ↔ ¬ past.CutShort place)

end Choice

namespace Node

variable {context : Context D} {place : Place} {start node changed child final : Node A}
  {touch : Touch} {touches : List Touch} {before after : Stage A D} {past trace : Trace A}
  {own next : Choice A} {branch : Branch} {position : Nat} {status : Status}
  {result : Except Panic Status} {panic : Panic}

/-- A tick that is cut short leaves its beginning as the last sign. -/
theorem signsAt_of_unwound (quiet : context.Quiet)
    (ticks : (node.tick context).Leads before trace ⟨changed, .error panic⟩ after) :
    trace.signsAt context.place = [.entered] := by
  obtain ⟨_, _, _, _, rfl, announces, works, _⟩ := unwound_of_tick quiet ticks
  rw [Trace.signsAt_append, announces.signsAt, works.signsAt]
  rfl

/-- A choice goes on tracking a branch that it handles. -/
theorem tracks_of_evolves (tracks : own.Tracks branch child context.place past)
    (aborts : own.switch = .abort) (quiet : context.Quiet)
    (evolves : child.Evolves context touches trace final)
    (handled : own.Handled next branch touches) :
    next.Tracks branch final context.place (past ++ trace) := by
  intro running
  cases handled with
  | routed result settles =>
      obtain ⟨_, _, part, ⟨ticks⟩, signs⟩ := evolves.single_signsAt
      rw [settles, Choice.active_activate]
      match result with
      | .ok status =>
          obtain rfl := Option.some.inj ((last_of_tick ticks).symm.trans running)
          rw [if_pos rfl, Trace.cutShort_append_of_signed
            ((signs _).trans (signsAt_of_tick ticks) : _ = [Sign.entered] ++ [.left .running])]
          simp
      | .error panic =>
          rw [if_neg nofun, Trace.cutShort_append_of_signed
            ((signs _).trans (signsAt_of_unwound quiet ticks) : _ = [] ++ [Sign.entered])]
          simp
  | aborted =>
      obtain ⟨_, _, _, undergoes, _⟩ := evolves.single_signsAt
      rw [undergoes.cleared (.inr rfl), last_cleared] at running
      cases running
  | spared kept inactive =>
      obtain ⟨rfl, written⟩ := evolves.nil
      rw [Trace.cutShort_append_of_unsigned written.signsAt, ← tracks running]
      exact iff_of_false inactive fun active => kept ⟨active, aborts⟩

/-- Under a quiet sink a tick is the work of its body, between an announcement and a return that
concern the node alone. -/
theorem works_of_quiet_tick (quiet : context.Quiet)
    (ticks : (node.tick context).Leads before trace ⟨changed, result⟩ after) :
    ∃ first final announcing working leaving, trace = announcing ++ working ++ leaving ∧
      announcing.Local context.place ∧ leaving.Local context.place ∧
      node.body.Works context node.info first working result changed.body final := by
  match result with
  | .ok status =>
      obtain ⟨_, _, _, _, _, rfl, announces, works, leaves, _⟩ := returned_of_tick ticks
      exact ⟨_, _, _, _, _, rfl, Context.local_of_tells announces, Context.local_of_tells leaves, works⟩
  | .error panic =>
      obtain ⟨_, _, _, _, rfl, announces, works, _⟩ := unwound_of_tick quiet ticks
      exact ⟨_, _, _, _, [], (List.append_nil _).symm, Context.local_of_tells announces,
        Trace.local_nil, works⟩

/-- A choice that is ticked has been refused by its predicate, or handles each of its branches. -/
inductive Routes (context : Context D) (own : Choice A) (node changed : Node A) (trace : Trace A) :
    Except Panic Status → Prop
  | refused {panic : Panic} (same : changed.body = node.body) (alone : trace.Local context.place) :
      Routes context own node changed trace (.error panic)
  | played {result : Except Panic Status} {next : Choice A} {changedYes : Node A}
      {changedNo : Option (Node A)} {touches : List (Nat × Touch)}
      (shape : changed.body = .choice next changedYes changedNo) (switch : next.switch = own.switch)
      (entered : trace.entrances context.place = tickedOf touches)
      (handles : ∀ (branch : Branch) (child : Node A), node.children[branch.position]? = some child →
        ∃ final, changed.children[branch.position]? = some final ∧
          own.Handled next branch (touchesOf branch.position touches) ∧
          child.Evolves (context.child branch.position) (touchesOf branch.position touches)
            (trace.within (branch.position :: context.place)) final) :
      Routes context own node changed trace result

/-- Every tick of a choice routes. -/
theorem routes_of_tick {yes : Node A} {no : Option (Node A)} (quiet : context.Quiet)
    (shape : node.body = .choice own yes no)
    (ticks : (node.tick context).Leads before trace ⟨changed, result⟩ after) :
    Routes context own node changed trace result := by
  obtain ⟨_, _, announcing, _, leaving, rfl, outer, last, works⟩ := works_of_quiet_tick quiet ticks
  rw [shape] at works
  generalize final : changed.body = body at works
  cases works with
  | refused asks =>
      exact .refused (final.trans shape.symm) ((outer.append (local_of_asks asks)).append last)
  | @played _ _ _ _ _ earlier later _ touches _ asks handles plays =>
      have calm (position : Nat) (panic : Panic) :
          (position, Touch.aborted (.error panic)) ∉ touches := by
        intro member
        obtain ⟨_, _, _, _, _, _, _, _, _, _, undergoes, _⟩ := handles.exists_of_mem member
        cases undergoes with
        | aborted aborts =>
            have quietly : (context.child position).Quiet := quiet
            cases ok_of_abortIn quietly aborts
      cases plays with
      | choice plays kept =>
      refine @Routes.played _ _ _ _ _ _ _ _ _ _ _ touches final plays.switch ?_
        fun branch child present => ?_
      · rw [Trace.entrances_append, Trace.entrances_append, Trace.entrances_append, outer.entrances,
          last.entrances, (local_of_asks asks).entrances, handles.entrances]
        simp
      · rw [children, shape] at present
        obtain ⟨other, same, there⟩ := Body.branch_of_child present
        obtain rfl := Branch.position_inj same
        obtain ⟨result, taken, evolves⟩ := handles.evolves present
        rw [children, final]
        refine ⟨result, taken, plays.handled calm other there, ?_⟩
        rw [Trace.within_append, Trace.within_append, Trace.within_append, outer.within_below,
          last.within_below, (local_of_asks asks).within_below, List.nil_append, List.nil_append,
          List.append_nil]
        exact evolves

/-- A choice that aborts on a switch tracks all of its branches. -/
def TracksBranches (place : Place) (node : Node A) (past : Trace A) : Prop :=
  ∀ (own : Choice A) (yes : Node A) (no : Option (Node A)), node.body = .choice own yes no →
    own.switch = .abort → ∀ (branch : Branch) (child : Node A),
      node.children[branch.position]? = some child →
        own.Tracks branch child (branch.position :: place) past

/-- Where no branch runs, there is nothing to track. -/
theorem tracksBranches_of_idle (idle : ∀ child ∈ node.children, child.last ≠ some .running) :
    node.TracksBranches place past := by
  intro own yes no _ _ branch child present running
  exact absurd running (idle child (List.mem_of_getElem? present))

/-- A choice goes on tracking its branches through a tick. -/
theorem TracksBranches.of_tick (tracks : node.TracksBranches context.place past)
    (quiet : context.Quiet)
    (ticks : (node.tick context).Leads before trace ⟨changed, result⟩ after) :
    changed.TracksBranches context.place (past ++ trace) := by
  intro own yes no shape aborts branch child present
  obtain ⟨former, formerYes, formerNo, before⟩ := (Undergoes.ticked ticks).choice shape
  cases routes_of_tick quiet before ticks with
  | refused same alone =>
      rw [children, same] at present
      rw [same] at shape
      intro running
      rw [Trace.cutShort_append_of_unsigned]
      · exact tracks own yes no shape aborts branch child present running
      · rw [← Trace.signsAt_within (List.suffix_refl _), alone.within_below]
        rfl
  | @played _ next _ _ touches final switch _ handles =>
      rw [final] at shape
      obtain ⟨rfl, rfl, rfl⟩ := Body.choice.inj shape
      have inside : branch.position < node.children.length := by
        rw [← length_children_of_pristine (Undergoes.ticked ticks).pristine]
        exact (List.getElem?_eq_some_iff.1 present).1
      have listed := List.getElem?_eq_getElem inside
      obtain ⟨_, taken, handled, evolves⟩ := handles branch _ listed
      obtain rfl := Option.some.inj (taken.symm.trans present)
      have earlier := tracks former formerYes formerNo before (switch ▸ aborts) branch _ listed
      have quietly : (context.child branch.position).Quiet := quiet
      have later := tracks_of_evolves earlier (switch ▸ aborts) quietly evolves handled
      rwa [Choice.Tracks, Context.place_child, Trace.cutShort_append_within] at later

/-- Choices that differ in numbers alone remember the same. -/
theorem choice_of_unnumbered {other yes : Node A} {no : Option (Node A)}
    (same : other.unnumbered = node.unnumbered) (shape : other.body = .choice own yes no) :
    ∃ formerYes formerNo, node.body = .choice own formerYes formerNo := by
  have bodies := corresponds_of_unnumbered same
  rw [shape] at bodies
  generalize node.body = body at bodies
  cases bodies with
  | choice => exact ⟨_, _, rfl⟩

/-- Whatever a choice has gone through under quiet sinks, it tracks its branches. -/
theorem Lives.tracksBranches (built : start.Built)
    (lives : start.Lives place Built (fun (context : Context D) _ => context.Quiet) past node) :
    node.TracksBranches place past := by
  induction lives with
  | born => exact tracksBranches_of_idle fun _ member => (built.rests.child member).here.1
  | wrote _ record inductionHypothesis =>
      intro own yes no shape aborts branch child present running
      have written : Trace.Written place [(⟨place, .output (.record record)⟩ : Entry A)] :=
        Trace.written_nil.cons record
      rw [Trace.cutShort_append_of_unsigned written.signsAt]
      exact inductionHypothesis own yes no shape aborts branch child present running
  | touched _ stands undergoes quiet inductionHypothesis =>
      subst stands
      cases undergoes with
      | reset resets =>
          rw [cleared_of_reset resets]
          exact tracksBranches_of_idle fun _ member => ((rests_cleared _).child member).here.1
      | aborted aborts =>
          obtain rfl := ok_of_abortIn quiet aborts
          rw [cleared_of_abortIn aborts]
          exact tracksBranches_of_idle fun _ member => ((rests_cleared _).child member).here.1
      | ticked ticks => exact inductionHypothesis.of_tick quiet ticks
  | extended _ _ accepted =>
      obtain ⟨_, _, _, rfl, rfl⟩ := addChild_spec accepted
      exact fun _ _ _ shape => nomatch shape
  | numbered _ same inductionHypothesis =>
      intro own yes no shape aborts branch child present running
      obtain ⟨former, taken, image⟩ := child_of_unnumbered same present
      obtain ⟨formerYes, formerNo, body⟩ := choice_of_unnumbered same shape
      refine inductionHypothesis own formerYes formerNo body aborts branch former taken ?_
      rw [← last_unnumbered, ← image, last_unnumbered, running]

/-- A choice that aborts on a switch leaves a branch that it does not route to running if and only if
the branch has been running before and its last tick has been cut short. -/
theorem deserted_running_iff {yes : Node A} {no : Option (Node A)} (built : start.Built)
    (lives : start.Lives place Built (fun (context : Context D) _ => context.Quiet) past node)
    (shape : node.body = .choice own yes no) (aborts : own.switch = .abort) (quiet : context.Quiet)
    (stands : context.place = place)
    (ticks : (node.tick context).Leads before trace ⟨changed, .ok status⟩ after)
    (deserted : position ∉ trace.entrances place)
    (present : node.children[position]? = some child) :
    ∃ final, changed.children[position]? = some final ∧
      (final.last = some .running ↔
        child.last = some .running ∧ past.CutShort (position :: place)) := by
  subst stands
  have tracks := lives.tracksBranches built
  generalize returned : (.ok status : Except Panic Status) = result at ticks
  cases routes_of_tick quiet shape ticks with
  | refused => cases returned
  | played final _ entered handles =>
      have listed : node.children = (Body.choice own yes no).children := congrArg Body.children shape
      obtain ⟨branch, rfl, _⟩ := Body.branch_of_child (listed ▸ present)
      obtain ⟨last, taken, handled, evolves⟩ := handles branch child present
      have tracked := tracks own yes no shape aborts branch child present
      refine ⟨last, taken, ?_⟩
      generalize parts : touchesOf branch.position _ = touches at handled evolves
      cases handled with
      | routed result =>
          rw [entered] at deserted
          exact absurd (mem_tickedOf (parts ▸ List.mem_singleton_self _)) deserted
      | aborted abandons =>
          obtain ⟨_, _, _, undergoes, _⟩ := evolves.single_signsAt
          rw [undergoes.cleared (.inr rfl), last_cleared]
          refine iff_of_false nofun fun cut => ?_
          exact (tracked cut.1).1 abandons.1 cut.2
      | spared kept =>
          obtain ⟨rfl, _⟩ := evolves.nil
          refine (and_iff_left_of_imp fun running => ?_).symm
          by_contra whole
          exact kept ⟨(tracked running).2 whole, aborts⟩

end Node

namespace Sample

/-- A wavering agent answers and acts as its state says. -/
def wavering : Agent where
  State := Bool × Except Panic Status
  Predicate := Unit
  Action := Unit
  Starter := Empty
  Operation := Empty
  test _ state := ⟨.ok state.1, state, []⟩
  act _ _ state := ⟨state.2, state, []⟩
  start starter := nomatch starter
  poll operation := nomatch operation
  take operation := nomatch operation
  cancel operation := nomatch operation

/-- The sample fork has an action on either branch. -/
def fork : Node wavering :=
  .ifElse () .abort (.action (A := wavering) ()) (some (.action (A := wavering) ()))

def forked (node : Node wavering) (answer : Bool) (result : Except Panic Status) :
    Outcome wavering Unit (Attempt (Node wavering) Status) :=
  node.tick context ⟨(answer, result), ()⟩

/-- One branch is running. -/
def started : Node wavering := (forked fork true (.ok .running)).value.after

/-- Its next tick panics. -/
def struck : Node wavering := (forked started true (.error (.raised "lost"))).value.after

/-- The other branch takes over. -/
def deserted : Outcome wavering Unit (Attempt (Node wavering) Status) :=
  forked struck false (.ok .success)

def struckPast : Trace wavering :=
  (forked fork true (.ok .running)).trace ++ (forked started true (.error (.raised "lost"))).trace

theorem quiet_context : context.Quiet := by
  intro sink installed
  obtain rfl : Sink.silent = sink := Option.some.inj installed
  exact ⟨fun _ _ => rfl, fun _ => rfl⟩

theorem built_fork : fork.Built := by
  refine .ifElse (A := wavering) () .abort (.action _) fun no member => ?_
  obtain rfl := Option.some.inj member
  exact .action _

theorem lives_struck : fork.Lives Tree.rootPlace Node.Built
    (fun (context : Context Unit) _ => context.Quiet) struckPast struck := by
  have starts : fork.Undergoes context (.ticked (.ok .running)) ⟨(true, .ok .running), ()⟩ _
      started _ := .ticked (Run.leads_self (fork.tick context) _)
  have strikes : started.Undergoes context (.ticked (.error (.raised "lost")))
      ⟨(true, .error (.raised "lost")), ()⟩ _ struck _ :=
    .ticked (Run.leads_self (started.tick context) _)
  have fresh : fork.Lives Tree.rootPlace Node.Built
      (fun (context : Context Unit) _ => context.Quiet) [] fork := .born
  exact (fresh.touched rfl starts quiet_context).touched rfl strikes quiet_context

end Sample

/-- The branch whose tick has been cut short is deserted as the theorem tells. -/
theorem Node.struck_branch_running_iff : 0 ∉ Sample.deserted.trace.entrances Tree.rootPlace ∧
    ∃ branch, Sample.struck.children[0]? = some branch ∧
      ∃ final, Sample.deserted.value.after.children[0]? = some final ∧
        (final.last = some .running ↔
          branch.last = some .running ∧ Sample.struckPast.CutShort [0]) := by
  have unrouted : 0 ∉ Sample.deserted.trace.entrances Tree.rootPlace := by decide
  have ticks : (Sample.struck.tick Sample.context).Leads ⟨(false, .ok .success), ()⟩
      Sample.deserted.trace ⟨Sample.deserted.value.after, .ok .success⟩ Sample.deserted.stage :=
    Run.leads_self (Sample.struck.tick Sample.context) ⟨(false, .ok .success), ()⟩
  exact ⟨unrouted, _, rfl, deserted_running_iff Sample.built_fork Sample.lives_struck rfl rfl
    Sample.quiet_context rfl ticks unrouted rfl⟩

/-- After a tick that has panicked, the fork routes to its other branch and succeeds, and leaves the
branch that it deserts running. -/
theorem Node.struck_branch_stays_running :
    Sample.fork.Built ∧ Sample.fork.Lives Tree.rootPlace Node.Built
        (fun (context : Context Unit) _ => context.Quiet) Sample.struckPast Sample.struck ∧
      Sample.deserted.value.result = .ok .success ∧
      Sample.deserted.trace.entrances Tree.rootPlace = [1] ∧
      ∃ branch, Sample.deserted.value.after.children[0]? = some branch ∧
        branch.last = some .running :=
  ⟨Sample.built_fork, Sample.lives_struck, rfl, by decide, _, rfl, rfl⟩

end Behavior
