import Behavior.Proofs.Report.Signs
import Behavior.Proofs.Running.Pursuit

namespace Behavior

variable {A : Agent} {D : Type}

/-- A body has worked in a tick that returns running if it has used the agent, or if it has counted
a round of a child that has finished and has been reset for the next one. -/
inductive Body.Worked (childSigns : List Sign) : Body A (Node A) → Body A (Node A) → Prop
  | acted (deed : A.Action) : Worked childSigns (.leaf (.action deed)) (.leaf (.action deed))
  | polled {starter : A.Starter} {pending : Option A.Operation} (operation : A.Operation) :
      Worked childSigns (.leaf (.asyncAction starter pending))
        (.leaf (.asyncAction starter (some operation)))
  | counted {own next : Decorator A} {goal : Status} {child changed : Node A}
      (counts : own.Counts goal next) (finished : childSigns = [.entered, .left goal, .cleared]) :
      Worked childSigns (.decorator own child) (.decorator next changed)

namespace Leaf

variable {own next : Leaf A} {before after : Stage A D} {trace : Trace A}

/-- A poll that finds nothing keeps the operation. -/
theorem pending_of_poll {place : Place} {starter : A.Starter} {operation : A.Operation}
    (polls : (poll place starter operation).Leads before trace ⟨next, .ok .running⟩ after) :
    next = .asyncAction starter (some operation) := by
  obtain ⟨completed, _, _, _, _, ended, rfl⟩ := Run.leads_bind.1 polls
  cases completed with
  | false =>
      obtain ⟨same, _⟩ := Run.leads_attempt.1 ended
      exact same
  | true =>
      obtain ⟨success, _, _, returned⟩ := Run.leads_bind_attempt.1 ended
      cases success <;> cases returned

/-- A leaf that returns running is an action, or waits for an operation. -/
theorem worked_of_tick {context : Context D} {info : NodeInfo} {childSigns : List Sign}
    (ticks : (own.tick info context).Leads before trace ⟨next, .ok .running⟩ after) :
    Body.Worked childSigns (.leaf own) (.leaf next) := by
  match own with
  | .condition predicate =>
      obtain ⟨answer, _, _, returned⟩ := Run.leads_bind_attempt.1 ticks
      match answer with
      | .error _ => cases returned
      | .ok true | .ok false => cases returned
  | .action deed =>
      obtain ⟨_, _, rfl, _⟩ := Run.leads_bind_attempt.1 ticks
      exact .acted deed
  | .asyncAction starter (some operation) =>
      obtain rfl := pending_of_poll ticks
      exact .polled operation
  | .asyncAction starter none =>
      obtain ⟨started, _, _, _, _, ended, rfl⟩ := Run.leads_bind.1 ticks
      match started with
      | .error panic =>
          obtain ⟨_, returned, _⟩ := Run.leads_attempt.1 ended
          cases returned
      | .ok operation =>
          obtain rfl := pending_of_poll ended
          exact .polled operation

end Leaf

namespace Node

variable {context : Context D} {node changed : Node A} {touches : List (Nat × Touch)}
  {before after : Stage A D} {trace : Trace A} {status : Status} {position : Nat} {child : Node A}

/-- A tick that returns works as a leaf, or plays with its children, each of which goes through its
own touches. -/
inductive Played (context : Context D) (node : Node A) (trace : Trace A) (status : Status)
    (changed : Node A) : Prop
  | leaf {own next : Leaf A} {first last : Stage A D} {working : Trace A}
      (before : node.body = .leaf own) (after : changed.body = .leaf next)
      (ticks : (own.tick node.info context).Leads first working ⟨next, .ok status⟩ last)
  | played {answer : Bool} {touches : List (Nat × Touch)}
      (plays : node.body.Plays context.clock answer touches (.ok status) changed.body)
      (inside : ∀ position touch, (position, touch) ∈ touches → position < node.children.length)
      (children : ∀ position (child : Node A), node.children[position]? = some child →
        ∃ final, changed.children[position]? = some final ∧
          child.Evolves (context.child position) (touchesOf position touches)
            (trace.within (position :: context.place)) final)

/-- A tick without a panic has played out. -/
theorem played_of_tick
    (ticks : (node.tick context).Leads before trace ⟨changed, .ok status⟩ after) :
    node.Played context trace status changed := by
  obtain ⟨_, _, _, _, _, rfl, announces, works, leaves, _⟩ := returned_of_tick ticks
  generalize own : node.body = body at works
  generalize made : changed.body = next at works
  cases works with
  | leaf ticks => exact .leaf own made ticks
  | played asks handles plays =>
      subst own made
      refine .played plays (fun _ _ member => handles.lt_of_mem member) ?_
      intro position child present
      obtain ⟨final, taken, evolves⟩ := handles.evolves present
      refine ⟨final, taken, ?_⟩
      rw [Trace.within_append, Trace.within_append, Trace.within_append,
        (Context.local_of_tells announces).within_below,
        (Context.local_of_tells leaves).within_below, (local_of_asks asks).within_below,
        List.nil_append, List.nil_append, List.append_nil]
      exact evolves

/-- A child that has been ticked only has left all signs below its place in that tick. -/
theorem Evolves.ticked_only {returned : Status}
    (evolves : node.Evolves context [.ticked (.ok returned)] trace changed) :
    ∃ before part after, (node.tick context).Leads before part ⟨changed, .ok returned⟩ after ∧
      ∀ place, trace.signsAt place = part.signsAt place := by
  obtain ⟨_, _, _, _, _, _, rfl, wrote, ⟨ticks⟩, rest⟩ := evolves.uncons
  obtain ⟨rfl, written⟩ := rest.nil
  refine ⟨_, _, _, ticks, fun place => ?_⟩
  rw [Trace.signsAt_append, Trace.signsAt_append, wrote.signsAt, written.signsAt, List.nil_append,
    List.append_nil]

/-- A child that has been ticked and then reset bears just these signs. -/
theorem Evolves.signsAt_of_round {goal : Status}
    (evolves : node.Evolves context [.ticked (.ok goal), .reset] trace changed) :
    trace.signsAt context.place = [.entered, .left goal, .cleared] := by
  obtain ⟨_, middle, _, _, _, _, rfl, wrote, ⟨ticks⟩, rest⟩ := evolves.uncons
  obtain ⟨_, _, _, _, _, _, rfl, rewrote, undergoes, ended⟩ := rest.uncons
  have last : middle.last = some goal := last_of_tick ticks
  cases undergoes with
  | reset resets =>
      have clears := (resets_of_reset resets).signsAt
      rw [last, Option.isSome_some, if_pos rfl] at clears
      simp only [Trace.signsAt_append, wrote.signsAt, rewrote.signsAt, ended.nil.2.signsAt,
        signsAt_of_tick ticks, clears]
      rfl

/-- A running path consists of nodes that have been entered once, have returned running since, and
have been left alone afterwards. -/
def RunsAlong (node : Node A) (trace : Trace A) (place path : Place) : Prop :=
  ∀ upper, upper <:+ path → ∃ part, node.descendant? upper = some part ∧ part.last = some .running ∧
    trace.signsAt (upper ++ place) = [.entered, .left .running]

/-- A running path of a child extends to its parent. -/
theorem RunsAlong.extend {part : Trace A} {path : Place}
    (runs : child.RunsAlong part (position :: context.place) path)
    (present : node.children[position]? = some child) (last : node.last = some .running)
    (own : trace.signsAt context.place = [.entered, .left .running])
    (below : ∀ path : Place, trace.signsAt (path ++ position :: context.place) =
      part.signsAt (path ++ position :: context.place)) :
    node.RunsAlong trace context.place (path ++ [position]) := by
  intro upper suffix
  rcases List.suffix_concat_iff.1 suffix with rfl | ⟨lower, rfl, inside⟩
  · exact ⟨node, rfl, last, own⟩
  · obtain ⟨final, leads, busy, signs⟩ := runs lower inside
    refine ⟨final, ?_, busy, ?_⟩
    · rw [descendant?_concat, present, Option.bind_some, leads]
    · rw [List.append_assoc, List.singleton_append, below, signs]

/-- A tick is justified by a running path to a node that has worked. -/
def Justified (node changed : Node A) (trace : Trace A) (place : Place) : Prop :=
  ∃ path original final, node.descendant? path = some original ∧
    changed.descendant? path = some final ∧
      Body.Worked (trace.signsAt (0 :: path ++ place)) original.body final.body ∧
        changed.RunsAlong trace place path

/-- A node that is entered and left running runs along the empty path. -/
theorem runsAlong_nil {place : Place} (last : changed.last = some .running)
    (own : trace.signsAt place = [.entered, .left .running]) : changed.RunsAlong trace place [] := by
  intro upper suffix
  obtain rfl := List.suffix_nil.1 suffix
  exact ⟨changed, rfl, last, own⟩

/-- What justifies the running of a child justifies that of its parent. -/
theorem Justified.extend {final : Node A} {part : Trace A}
    (justified : child.Justified final part (position :: context.place))
    (present : node.children[position]? = some child)
    (taken : changed.children[position]? = some final) (last : changed.last = some .running)
    (own : trace.signsAt context.place = [.entered, .left .running])
    (below : ∀ path : Place, trace.signsAt (path ++ position :: context.place) =
      part.signsAt (path ++ position :: context.place)) :
    node.Justified changed trace context.place := by
  obtain ⟨path, original, worker, leads, led, works, runs⟩ := justified
  refine ⟨path ++ [position], original, worker, ?_, ?_, ?_, runs.extend taken last own below⟩
  · rw [descendant?_concat, present, Option.bind_some, leads]
  · rw [descendant?_concat, taken, Option.bind_some, led]
  · have place : 0 :: (path ++ [position]) ++ context.place =
        (0 :: path) ++ position :: context.place := by simp
    rwa [place, below]

/-- A tick that returns running is justified. -/
theorem justified_of_tick (valid : node.Everywhere Valid)
    (ticks : (node.tick context).Leads before trace ⟨changed, .ok .running⟩ after) :
    node.Justified changed trace context.place := by
  induction node using Node.induction generalizing context before trace changed after with
  | step tag body inductionHypothesis =>
      have last : changed.last = some .running := last_of_tick ticks
      have own := signsAt_of_tick ticks
      have worked (works : Body.Worked (trace.signsAt (0 :: context.place)) body changed.body) :
          Justified ⟨tag, body⟩ changed trace context.place :=
        ⟨[], _, _, rfl, rfl, works, runsAlong_nil last own⟩
      cases played_of_tick ticks with
      | leaf was is ticks =>
          apply worked
          rw [show body = _ from was, is]
          exact Leaf.worked_of_tick ticks
      | played plays inside children =>
          rcases plays.pursues valid.here with
            ⟨position, ticked⟩ | ⟨decorator, goal, next, child, final, rfl, is, counts, rfl⟩
          · -- the work is done below the child that has returned running
            have touched : (position, Touch.ticked (.ok .running)) ∈ _ :=
              mem_touchesOf.1 (by rw [ticked]; exact List.mem_singleton_self _)
            have bound : position < body.children.length := inside _ _ touched
            have present := List.getElem?_eq_getElem bound
            obtain ⟨final, taken, evolves⟩ := children position _ present
            rw [ticked] at evolves
            obtain ⟨_, part, _, ticked, same⟩ := evolves.ticked_only
            have member : body.children[position] ∈ body.children := List.getElem_mem bound
            have justified := inductionHypothesis _ member (valid.child member) ticked
            refine justified.extend present taken last own fun path => ?_
            rw [← same, Trace.signsAt_within ⟨path, rfl⟩]
          · -- the work is the round that the iteration has counted
            apply worked
            obtain ⟨_, _, evolves⟩ := children 0 child rfl
            have signs := evolves.signsAt_of_round
            rw [is]
            refine .counted counts ?_
            rwa [← Trace.signsAt_within (List.suffix_refl _)]

/-- Only the signs of a trace matter for a justification. -/
theorem Justified.congr {part : Trace A} {place : Place} (justified : node.Justified changed part place)
    (same : ∀ place, trace.signsAt place = part.signsAt place) :
    node.Justified changed trace place := by
  obtain ⟨path, original, final, leads, led, worked, runs⟩ := justified
  refine ⟨path, original, final, leads, led, ?_, fun upper suffix => ?_⟩
  · rwa [same]
  · rw [same]
    exact runs upper suffix

end Node

/-- Whatever has been done to a host before, if a root tick returns running, a path leads from the
root down to work that this tick has done: an action, an operation that is waited for, or a round that
an iteration has counted. All nodes on the path have been entered once, have returned running, and
have been left alone since. -/
theorem Host.running_is_justified {root : Node A} {host next : Host A D} {past trace : Trace A}
    {ends : Except Panic (Option Status) → Prop} (built : root.Built)
    (history : (Host.bare (D := D) root).History Node.Built ends past host)
    (ticks : host.Ticks trace (.ok .running) next) :
    host.root.Justified next.root trace Tree.rootPlace := by
  obtain ⟨context, touches, rooted, evolves, shape⟩ := ticks.evolves
  obtain rfl : touches = [.ticked (.ok .running)] := by
    rcases shape with only | ⟨finished, _⟩
    · exact only
    · exact absurd rfl finished
  obtain ⟨_, _, _, ticked, same⟩ := evolves.ticked_only
  have justified := Node.justified_of_tick (history.valid built) ticked
  rw [rooted] at justified
  exact justified.congr same

/-- The first tick of the sample root is justified by the operation that it has started. -/
theorem Host.running_is_justified_by_operation :
    (Sample.ticked Sample.root true).value = ⟨Sample.waiting, .ok .running⟩ ∧
      Sample.root.Justified Sample.waiting (Sample.ticked Sample.root true).trace Tree.rootPlace := by
  have returned : (Sample.ticked Sample.root true).value = ⟨Sample.waiting, .ok .running⟩ := rfl
  have ticks : (Host.bare (D := Unit) Sample.root).Ticks (Sample.ticked Sample.root true).trace
      (.ok .running) (.bare Sample.waiting) :=
    .bare rfl (Run.leads_self (Sample.root.tick Sample.context) ⟨true, ()⟩)
  have fresh : (Host.bare (D := Unit) Sample.root).History Node.Built Calm [] (.bare Sample.root) :=
    .start
  exact ⟨returned, running_is_justified Sample.built fresh ticks⟩

end Behavior
