import Behavior.Proofs.Operation.Threads
import Behavior.Proofs.Report.Returns

namespace Behavior

variable {A : Agent} {D : Type}

/-- The position of the child of a place that an entry tells to be entered. -/
def Entry.entrance? (place : Place) : Entry A → Option Nat
  | ⟨position :: above, .notice (.entered _ _)⟩ => if above = place then some position else none
  | _ => none

/-- The positions of the children of a place, in the order in which they are entered. -/
def Trace.entrances (place : Place) (trace : Trace A) : List Nat :=
  trace.filterMap (Entry.entrance? place)

/-- The entrances of one child that its signs tell. -/
def Sign.entrances (position : Nat) (signs : List Sign) : List Nat :=
  signs.filterMap fun sign => if sign = .entered then some position else none

namespace Trace

variable {place : Place} {trace first second : Trace A} {position : Nat}

/-- Children are entered trace by trace. -/
@[simp] theorem entrances_append :
    entrances place (first ++ second) = entrances place first ++ entrances place second :=
  List.filterMap_append

/-- What happens at a place itself enters no child of it. -/
theorem Local.entrances (all : trace.Local place) : trace.entrances place = [] := by
  apply List.filterMap_eq_nil_iff.2
  rintro ⟨there, event⟩ member
  obtain rfl : there = place := all _ member
  unfold Entry.entrance?
  split
  case h_1 same =>
    cases same
    simp
  case h_2 => rfl

/-- Within one child, that child is entered where its signs say so. -/
theorem Inside.entrances (inside : trace.Inside (position :: place)) :
    trace.entrances place = Sign.entrances position (trace.signsAt (position :: place)) := by
  rw [Trace.entrances, Sign.entrances, signsAt, eventsAt, List.filterMap_filterMap, List.filterMap_filterMap]
  apply List.filterMap_congr
  rintro ⟨there, event⟩ member
  by_cases here : there = position :: place
  · subst here
    simp only [if_true, Option.bind_some]
    cases event with
    | notice notice => cases notice <;> simp [Entry.entrance?, Event.sign?]
    | call | output => rfl
    | cleared => rfl
  · rw [if_neg here]
    unfold Entry.entrance?
    split
    case h_1 other above _ _ same =>
      cases same
      refine if_neg fun same => here ?_
      subst same
      exact ((inside _ member).eq_of_length rfl).symm
    case h_2 => rfl

end Trace

/-- The only call of a body before it plays is the test of its predicate. -/
theorem Asks.callsAt {context : Context D} {info : NodeInfo} {asked : Option A.Predicate}
    {before after : Stage A D} {trace : Trace A} {answer : Bool}
    (asks : Asks context info asked before trace (.ok answer) after) :
    trace.callsAt context.place =
      (asked.map fun predicate => Call.tested predicate (.ok answer)).toList := by
  cases asks with
  | spared => rfl
  | asked asks =>
      obtain ⟨outcome, _, _, _, called, ended, rfl⟩ := Run.leads_bind.1 asks
      rw [Trace.callsAt_append, called.callsAt]
      match outcome with
      | .error _ =>
          obtain ⟨contrary, _⟩ := Run.leads_pure.1 ended
          cases contrary
      | .ok value =>
          obtain ⟨reported, notified, same⟩ := Run.leads_bind_pure.1 ended
          rw [(Context.tells_of_notify notified).callsAt]
          cases reported with
          | error => cases same
          | ok =>
              cases same
              rfl

namespace Node

variable {context : Context D} {node changed : Node A} {touch : Touch} {before after : Stage A D}
  {trace : Trace A} {position : Nat}

/-- A reset enters no child. -/
theorem Resets.entrances (resets : node.Resets (context.child position) trace) :
    Sign.entrances position (trace.signsAt (position :: context.place)) = [] := by
  have signs := resets.signsAt
  rw [Context.place_child] at signs
  rw [signs]
  cases node.last <;> rfl

/-- A child is entered when it is ticked, and by no other touch. -/
theorem Undergoes.entrances
    (undergoes : node.Undergoes (context.child position) touch before trace changed after) :
    trace.entrances context.place = tickedOf [(position, touch)] := by
  have inside : trace.Inside (position :: context.place) := undergoes.populates.inside
  rw [inside.entrances]
  have told {notice : Notice} {trace : Trace A}
      (tells : (context.child position).Tells notice trace) :
      trace.signsAt (position :: context.place) =
        (Event.sign? (A := A) (.notice notice)).toList := tells.signsAt
  have worked {body next : Body A (Node A)} {info : NodeInfo} {before after : Stage A D}
      {trace : Trace A} {result : Except Panic Status}
      (works : body.Works (context.child position) info before trace result next after) :
      trace.signsAt (position :: context.place) = [] := works.signsAt
  cases undergoes with
  | reset resets => exact (resets_of_reset resets).entrances
  | aborted aborts =>
      cases abortsIn_of_abortIn aborts with
      | silent _ resets => exact (resets_of_reset resets).entrances
      | reported _ tells resets =>
          rw [Trace.signsAt_cons_output, Trace.signsAt_append, told tells]
          exact (resets_of_reset resets).entrances
      | unwound _ tells =>
          rw [Trace.signsAt_cons_output, told tells]
          rfl
  | ticked ticks =>
      cases ticked_of_tick ticks with
      | refused announces =>
          rw [told announces]
          rfl
      | unwound announces works =>
          rw [Trace.signsAt_append, told announces, worked works]
          rfl
      | returned announces works leaves _ =>
          rw [Trace.signsAt_append, Trace.signsAt_append, told announces, worked works, told leaves]
          rfl

end Node

/-- A handling enters the children that it ticks, in the same order. -/
theorem Handles.entrances {context : Context D} {nodes final : List (Node A)}
    {before after : Stage A D} {touches : List (Nat × Touch)} {trace : Trace A}
    (handles : Handles context nodes before touches trace final after) :
    trace.entrances context.place = tickedOf touches := by
  induction handles with
  | done => rfl
  | wrote record _ inductionHypothesis =>
      rw [← inductionHypothesis, ← List.singleton_append, Trace.entrances_append]
      exact congrArg (· ++ _) Trace.local_nil.cons.entrances
  | @touched _ _ _ _ _ touches _ _ position touch _ _ _ undergoes _ inductionHypothesis =>
      rw [Trace.entrances_append, undergoes.entrances, inductionHypothesis, ← tickedOf_append,
        List.singleton_append]

namespace Node

variable {context : Context D} {node changed : Node A} {touch : Touch} {touches : List Touch}
  {before after : Stage A D} {trace : Trace A} {status : Status}

/-- A calm touch lets a node return what a tick returns, and nothing else. -/
theorem Undergoes.returnsAt (undergoes : node.Undergoes context touch before trace changed after)
    (calm : touch.Calm) : trace.returnsAt context.place = touch.returned?.toList := by
  cases undergoes with
  | reset resets => exact (resets_of_reset resets).returnsAt
  | aborted aborts =>
      obtain rfl := calm
      cases abortsIn_of_abortIn aborts with
      | silent _ resets => exact (resets_of_reset resets).returnsAt
      | reported _ tells resets =>
          rw [Trace.returnsAt_cons_output, Trace.returnsAt_append, Trace.returnsAt, tells.signsAt,
            (resets_of_reset resets).returnsAt]
          rfl
  | ticked ticks =>
      obtain ⟨status, rfl⟩ := calm
      rw [Trace.returnsAt, signsAt_of_tick ticks]
      rfl

/-- A node returns what its ticks return. -/
theorem Evolves.returnsAt (evolves : node.Evolves context touches trace changed)
    (calm : ∀ touch ∈ touches, touch.Calm) :
    trace.returnsAt context.place = touches.filterMap Touch.returned? := by
  induction evolves with
  | done => rfl
  | wrote record _ inductionHypothesis =>
      rw [Trace.returnsAt_cons_output]
      exact inductionHypothesis calm
  | @touched _ _ _ touch _ _ _ _ _ undergoes _ inductionHypothesis =>
      obtain ⟨first, rest⟩ := List.forall_mem_cons.1 calm
      rw [Trace.returnsAt_append, undergoes.returnsAt first, inductionHypothesis rest,
        List.filterMap_cons]
      cases touch.returned? <;> rfl

/-- A node that is ticked and no more keeps the status that it has returned. -/
theorem Evolves.last_of_ticked (evolves : node.Evolves context [.ticked (.ok status)] trace changed) :
    changed.last = some status := by
  obtain ⟨_, _, _, _, _, _, _, _, ⟨ticks⟩, ends⟩ := evolves.uncons
  obtain ⟨rfl, _⟩ := ends.nil
  exact last_of_tick ticks

/-- A tick that returns plays with the children by the answer of its predicate. It enters those that it
ticks, in that order, and each of them evolves through its own touches and returns what its own ticks
return. -/
theorem answered_of_tick
    (ticks : (node.tick context).Leads before trace ⟨changed, .ok status⟩ after)
    (inner : ∀ own, node.body ≠ .leaf own) :
    ∃ answer touches, node.body.Plays context.clock answer touches (.ok status) changed.body ∧
      trace.callsAt context.place =
        (node.body.predicate?.map fun predicate => Call.tested predicate (.ok answer)).toList ∧
      trace.entrances context.place = tickedOf touches ∧
      ∀ position (child : Node A), node.children[position]? = some child →
        ∃ final, changed.children[position]? = some final ∧
          child.Evolves (context.child position) (touchesOf position touches)
            (trace.within (position :: context.place)) final ∧
          trace.returnsAt (position :: context.place) =
            (touchesOf position touches).filterMap Touch.returned? := by
  obtain ⟨_, _, announcing, _, leaving, rfl, announces, works, leaves, _⟩ := returned_of_tick ticks
  rw [children, children]
  generalize node.body = body at works inner ⊢
  generalize changed.body = next at works ⊢
  have outer := Context.local_of_tells announces
  have final := Context.local_of_tells leaves
  cases works with
  | leaf => exact absurd rfl (inner _)
  | @played _ _ _ _ _ earlier later _ touches _ asks handles plays =>
      refine ⟨_, touches, plays, ?_, ?_, fun position child present => ?_⟩
      · have silent : later.callsAt context.place = [] := handles.viewAt Event.blind_call?
        rw [Trace.callsAt_append, Trace.callsAt_append, Trace.callsAt_append, announces.callsAt,
          leaves.callsAt, asks.callsAt, silent]
        simp
      · rw [Trace.entrances_append, Trace.entrances_append, Trace.entrances_append, outer.entrances,
          final.entrances, (local_of_asks asks).entrances, handles.entrances]
        simp
      · obtain ⟨last, taken, evolves⟩ := handles.evolves present
        have calm : ∀ touch ∈ touchesOf position touches, touch.Calm :=
          fun touch member => plays.calm _ (mem_touchesOf.1 member)
        have part : Trace.within (position :: context.place) (announcing ++ (earlier ++ later) ++
            leaving) = later.within (position :: context.place) := by
          rw [Trace.within_append, Trace.within_append, Trace.within_append, outer.within_below,
            final.within_below, (local_of_asks asks).within_below, List.nil_append,
            List.nil_append, List.append_nil]
        refine ⟨last, taken, by rwa [part], ?_⟩
        rw [← Trace.returnsAt_within (List.suffix_refl _), part]
        exact evolves.returnsAt calm

/-- A tick that returns plays with the children, whatever its predicate has answered. -/
theorem plays_of_tick
    (ticks : (node.tick context).Leads before trace ⟨changed, .ok status⟩ after)
    (inner : ∀ own, node.body ≠ .leaf own) :
    ∃ answer touches, node.body.Plays context.clock answer touches (.ok status) changed.body ∧
      trace.entrances context.place = tickedOf touches ∧
      ∀ position (child : Node A), node.children[position]? = some child →
        ∃ final, changed.children[position]? = some final ∧
          child.Evolves (context.child position) (touchesOf position touches)
            (trace.within (position :: context.place)) final ∧
          trace.returnsAt (position :: context.place) =
            (touchesOf position touches).filterMap Touch.returned? := by
  obtain ⟨answer, touches, plays, _, entered, evolves⟩ := answered_of_tick ticks inner
  exact ⟨answer, touches, plays, entered, evolves⟩

end Node

end Behavior
