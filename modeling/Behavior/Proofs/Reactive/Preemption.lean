import Behavior.Proofs.Idle.Suspension
import Behavior.Proofs.Life
import Behavior.Proofs.Renewal.Rebuilding
import Behavior.Proofs.Scan.Scanning
import Behavior.Proofs.Touch.Entrances

namespace Behavior

variable {A : Agent} {D : Type}

namespace Composite

variable {skip status : Status} {count position : Nat} {touches : List (Nat × Touch)}
  {running : List Nat} {own next : Composite}

/-- The status that a reactive composite passes over, and the children that it remembers. -/
def reaction? : Composite → Option (Status × List Nat)
  | .reactiveSelector running => some (.failure, running.list)
  | .reactiveSequence running => some (.success, running.toList)
  | _ => none

/-- A reactive composite scans all children and then preempts the remembered ones. -/
theorem Plays.reacts (plays : Plays count own touches (.ok status) next)
    (reactive : own.reaction? = some (skip, running)) :
    ∃ stop scanning preempting, touches = scanning ++ preempting ∧
      Scans skip 0 count scanning (.ok stop) ∧
      Preempts (stop.map Prod.fst) count running preempting (.ok ()) ∧ running.Nodup ∧
      status = statusOf skip stop ∧ next.reaction? = some (skip, (runningOf stop).toList) := by
  cases plays with
  | selector | sequence | parallel => cases reactive
  | @reactiveSelector remembered _ _ _ reacts =>
      cases reactive
      cases reacts with
      | @ended _ _ stop scans preempts =>
          have next := remembered.list_replace (runningOf stop)
          exact ⟨stop, _, _, rfl, scans, preempts, remembered.ascending.imp Nat.ne_of_lt, rfl,
            by rw [reaction?, next]⟩
  | @reactiveSequence remembered _ _ _ reacts =>
      cases reactive
      cases reacts with
      | @ended _ _ stop scans preempts =>
          exact ⟨stop, _, _, rfl, scans, preempts, by cases remembered <;> simp, rfl, rfl⟩

/-- A reactive composite holds the children that it remembers. -/
theorem holds_iff_of_reaction (reactive : own.reaction? = some (skip, running)) :
    own.Holds position ↔ position ∈ running := by
  cases own with
  | selector | sequence | parallel => cases reactive
  | reactiveSelector =>
      cases reactive
      exact Iff.rfl
  | reactiveSequence =>
      cases reactive
      exact Option.mem_toList.symm

end Composite

namespace Node

/-- A watchful composite holds each of its children that is running. -/
def Watchful (node : Node A) : Prop :=
  ∀ own nodes, node.body = .composite own nodes → ∀ (position : Nat) (child : Node A),
    nodes[position]? = some child → child.last = some .running → own.Holds position

variable {context : Context D} {place : Place} {start node changed : Node A} {touch : Touch}
  {touches : List Touch} {before after : Stage A D} {past trace : Trace A} {status : Status}

/-- A node without running children is watchful. -/
theorem watchful_of_idle (idle : ∀ child ∈ node.children, child.last ≠ some .running) :
    node.Watchful := by
  intro own nodes shape position child present running
  refine absurd running (idle child ?_)
  rw [children, shape]
  exact List.mem_of_getElem? present

/-- Nothing is running below a cleared node. -/
theorem watchful_cleared (node : Node A) : node.cleared.Watchful :=
  watchful_of_idle fun _ member => ((rests_cleared node).child member).here.1

/-- A composite stays watchful through each tick that returns. -/
theorem Watchful.of_tick (watchful : node.Watchful)
    (ticks : (node.tick context).Leads before trace ⟨changed, .ok status⟩ after) :
    changed.Watchful := by
  intro own nodes shape position child present running
  have inner (leaf : Leaf A) : node.body ≠ .leaf leaf := by
    intro alone
    have same := length_children_of_pristine (Undergoes.pristine (.ticked ticks))
    rw [children, children, shape, alone] at same
    obtain rfl : nodes = [] := List.eq_nil_of_length_eq_zero same
    cases present
  obtain ⟨_, touches, plays, _, evolves⟩ := plays_of_tick ticks inner
  rw [shape] at plays
  rw [children, children, shape] at evolves
  generalize former : node.body = body at plays evolves
  cases plays with
  | @composite earlier _ others _ _ _ plays kept =>
      have inside : position < others.length := by
        rw [← kept]
        exact (List.getElem?_eq_some_iff.1 present).1
      have listed := List.getElem?_eq_getElem inside
      obtain ⟨_, taken, evolves, _⟩ := evolves position _ listed
      obtain rfl := Option.some.inj (taken.symm.trans present)
      have treats := plays.treats inside (watchful _ _ former position _ listed)
      rcases evolves.treated treats with ⟨rfl, idle⟩ | ⟨middle, rfl⟩ |
        ⟨_, _, returned, _, ticked, busy⟩
      · exact absurd running idle
      · rw [last_cleared] at running
        cases running
      · exact (busy (Option.some.inj ((last_of_tick ticked).symm.trans running))).2

/-- The invariant of calm lives: composites hold their running children. -/
theorem Lives.watchful (built : start.Built)
    (lives : start.Lives place Built (Touch.Calmly D) past node) : node.Watchful := by
  induction lives with
  | born => exact watchful_of_idle fun _ member => (built.rests.child member).here.1
  | wrote _ _ inductionHypothesis => exact inductionHypothesis
  | touched _ _ undergoes calm inductionHypothesis =>
      cases undergoes with
      | reset resets =>
          rw [cleared_of_reset resets]
          exact watchful_cleared _
      | aborted aborts =>
          obtain rfl := calm
          rw [cleared_of_abortIn aborts]
          exact watchful_cleared _
      | ticked ticks =>
          obtain ⟨_, rfl⟩ := calm
          exact inductionHypothesis.of_tick ticks
  | extended _ fresh accepted inductionHypothesis =>
      obtain ⟨tag, own, nodes, rfl, rfl⟩ := addChild_spec accepted
      rintro _ _ ⟨⟩ position child present running
      rcases getElem?_extended present with old | ⟨_, rfl⟩
      · exact inductionHypothesis own nodes rfl position child old running
      · exact absurd running fresh.rests.here.1
  | numbered _ same inductionHypothesis =>
      intro own nodes shape position child present running
      obtain ⟨twins, former, _⟩ := composite_of_unnumbered same shape
      have listed : _ = nodes := congrArg Body.children shape
      rw [← listed] at present
      obtain ⟨twin, taken, image⟩ := child_of_unnumbered same present
      rw [children, former] at taken
      refine inductionHypothesis own twins former position twin taken ?_
      rw [← last_unnumbered, ← image, last_unnumbered, running]

end Node

namespace Trace

/-- A trace tells of a scan of some children if they are entered in order up to the selected one and no
further, those before it have returned what the scan passes over, and it has not. -/
structure Scanned (skip : Status) (place : Place) (count : Nat) (selected : Option Composite.Stop)
    (trace : Trace A) : Prop where
  entered : trace.entrances place = List.range (selected.elim count fun stop => stop.1 + 1)
  passed : ∀ position < selected.elim count Prod.fst,
    trace.returnsAt (position :: place) = [skip]
  stopped : ∀ position status, selected = some (position, status) →
    position < count ∧ status ≠ skip ∧ trace.returnsAt (position :: place) = [status]

end Trace

namespace Node

/-- A tick of a reactive composite selects a child or none. It returns what that child has returned and
remembers it if it is running. No other child is running afterwards, and each child that was running
before is now idle, with all of its subtree. -/
structure Preempts (skip : Status) (place : Place) (nodes : List (Node A)) (trace : Trace A)
    (status : Status) (changed : Node A) (selected : Option Composite.Stop) : Prop where
  scanned : trace.Scanned skip place nodes.length selected
  returned : status = Composite.statusOf skip selected
  remembered : ∃ next later, changed.body = .composite next later ∧
    next.reaction? = some (skip, (Composite.runningOf selected).toList) ∧
    later.length = nodes.length
  alone : ∀ (position : Nat) (child : Node A), changed.children[position]? = some child →
    child.last = some .running → selected = some (position, .running)
  preempted : ∀ (position : Nat) (child : Node A), nodes[position]? = some child →
    child.last = some .running → selected.map Prod.fst ≠ some position →
      ∃ final, changed.children[position]? = some final ∧ final.Everywhere Idle

/-- Whatever a reactive composite has gone through without a panic, each of its ticks selects the first
child that does not return the status to be passed over, and preempts all others. -/
theorem reactive_tick_preempts {context : Context D} {place : Place} {start node changed : Node A}
    {past trace : Trace A} {before after : Stage A D} {own : Composite} {nodes : List (Node A)}
    {skip status : Status} {running : List Nat} (built : start.Built)
    (lives : start.Lives place Built (Touch.Calmly D) past node)
    (shape : node.body = .composite own nodes) (reactive : own.reaction? = some (skip, running))
    (stands : context.place = place)
    (ticks : (node.tick context).Leads before trace ⟨changed, .ok status⟩ after) :
    ∃ selected, Preempts skip place nodes trace status changed selected := by
  subst stands
  have watchful := lives.watchful built
  obtain ⟨_, touches, plays, entered, evolves⟩ := plays_of_tick ticks fun leaf alone => by
    rw [shape] at alone
    cases alone
  have listed : node.children = nodes := congrArg Body.children shape
  rw [listed] at evolves
  rw [shape] at plays
  generalize final : changed.body = body at plays
  cases plays with
  | @composite _ next _ later _ _ plays kept =>
  obtain ⟨selected, scanning, preempting, rfl, scans, preempts, distinct, returned, remembered⟩ :=
    plays.reacts reactive
  have aborting (position : Nat) :
      (touchesOf position (scanning ++ preempting)).filterMap Touch.returned? =
        (touchesOf position scanning).filterMap Touch.returned? := by
    rw [touchesOf_append, List.filterMap_append, returned_of_unticked preempts.unticked,
      List.append_nil]
  have scanned (position : Nat) (status : Status) (inside : position < nodes.length)
      (ticked : touchesOf position scanning = [.ticked (.ok status)]) :
      trace.returnsAt (position :: context.place) = [status] := by
    obtain ⟨_, _, _, returns⟩ := evolves position _ (List.getElem?_eq_getElem inside)
    rw [returns, aborting, ticked]
    rfl
  refine ⟨selected, ⟨?_, ?_, ?_⟩, returned, ⟨next, later, final, remembered, kept⟩, ?_, ?_⟩
  · rw [entered, tickedOf_append, scans.tickedOf, preempts.unticked, List.append_nil,
      List.range_eq_range']
    cases selected <;> rfl
  · intro position before
    have inside : position < nodes.length := by
      cases selected with
      | none => exact before
      | some stop =>
          have stops : stop.1 < 0 + nodes.length := scans.stop_lt rfl
          rw [Nat.zero_add] at stops
          exact Nat.lt_trans before stops
    exact scanned position skip inside
      ((scans.touchesOf_scanned (Nat.zero_le position)).1 (by rwa [Nat.zero_add]))
  · rintro position status rfl
    obtain ⟨ticked, stops⟩ := (scans.touchesOf_scanned (Nat.zero_le position)).2 status rfl
    have inside : position < nodes.length := by
      have stops : position < 0 + nodes.length := scans.stop_lt rfl
      omega
    exact ⟨inside, stops, scanned position status inside ticked⟩
  · intro position child present running
    rw [children, final] at present
    have held := watchful.of_tick ticks next later final position child present running
    exact Composite.runningOf_eq_some.1
      (Option.mem_toList.1 ((Composite.holds_iff_of_reaction remembered).1 held))
  · intro position child present busy passed
    obtain ⟨last, taken, evolves, _⟩ := evolves position child present
    have held := watchful own nodes shape position child present busy
    have remembered := (Composite.holds_iff_of_reaction reactive).1 held
    rw [touchesOf_append, preempts.touchesOf distinct, if_pos ⟨remembered, passed⟩] at evolves
    exact ⟨last, taken, evolves.idle_of_last (.inr rfl)⟩

end Node

namespace Sample

/-- The sample patrol performs its operation as long as the flag is up. -/
def patrol : Node agent :=
  .reactiveSelector [.invert (.condition (A := agent) ()), .asyncAction (A := agent) ()]

def patrolling : Node agent := (ticked patrol true).value.after

def relieved : Outcome agent Unit (Attempt (Node agent) Status) := ticked patrolling false

theorem built_patrol : patrol.Built :=
  .reactiveSelector (by
    simp only [List.forall_mem_cons]
    exact ⟨.invert (.condition _), .asyncAction _, List.forall_mem_nil _⟩)

theorem lives_patrolling : patrol.Lives Tree.rootPlace Node.Built (Touch.Calmly Unit)
    (ticked patrol true).trace patrolling :=
  lives_ticked rfl

end Sample

/-- With the flag down the patrol selects its first child and ends its operation. -/
theorem Node.relieved_patrol_preempts : ∃ operation, Sample.patrolling.children[1]? = some operation ∧
    operation.last = some .running ∧ ∃ selected, Node.Preempts .failure Tree.rootPlace
      Sample.patrolling.children Sample.relieved.trace .success Sample.relieved.value.after
      selected := by
  refine ⟨_, rfl, rfl, ?_⟩
  exact reactive_tick_preempts Sample.built_patrol Sample.lives_patrolling rfl rfl rfl
    (Run.leads_self (Sample.patrolling.tick Sample.context) ⟨false, ()⟩)

end Behavior
