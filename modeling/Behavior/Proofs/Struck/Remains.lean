import Behavior.Proofs.Report.Exactness
import Behavior.Proofs.Struck.Breaking
import Behavior.Proofs.Struck.Raising

namespace Behavior

variable {A : Agent} {D : Type}

/-- The status with which the node at a place has returned, if it has. -/
def Trace.returned? (place : Place) (trace : Trace A) : Option Status :=
  (trace.signsAt place).findSome? Sign.returned?

namespace Node

/-- A node lies in a branch that a choice above it has abandoned for the branch on the path. -/
def Abandoned (node : Node A) (path other : Place) : Prop :=
  ∃ upper part chosen position, node.descendant? upper = some part ∧
    part.body.Abandons chosen position ∧ chosen :: upper <:+ path ∧ position :: upper <:+ other

/-- What remains of a node after a tick that has been cut short at a path. -/
structure Remains (context : Context D) (trace : Trace A) (path : Place) (node changed : Node A) :
    Prop where
  /-- The node at the path is there and is as it was, with everything below it. -/
  struck : (node.descendant? path).isSome ∧ changed.descendant? path = node.descendant? path
  /-- The nodes above it keep their tags and are suspended. -/
  above : ∀ upper part, upper <:+ path → upper ≠ path → node.descendant? upper = some part →
    ∃ next, changed.descendant? upper = some next ∧ next.tag = part.tag ∧
      next.body.shape = (part.body.suspend context.clock fun position =>
        trace.returned? (position :: upper ++ context.place)).shape
  /-- Neither it nor a node above it has returned. -/
  unreturned : ∀ upper, upper <:+ path → trace.returned? (upper ++ context.place) = none
  /-- Every other node is as it was, unless it has returned, or a node above it has, or it has been
  abandoned. -/
  beside : ∀ other, ¬ other <:+ path →
    (∀ upper, upper <:+ other → trace.returned? (upper ++ context.place) = none) →
      ¬ node.Abandoned path other → changed.descendant? other = node.descendant? other

variable {context : Context D} {node changed child next : Node A} {touch : Touch}
  {touches : List Touch} {before after : Stage A D} {trace more : Trace A} {path place : Place}
  {position : Nat} {panic : Panic} {status : Status}

/-- A touch by which a node has returned tells so at its place. -/
theorem returned_of_return
    (undergoes : node.Undergoes context (.ticked (.ok status)) before trace changed after) :
    trace.returned? context.place = some status := by
  cases undergoes with
  | ticked ticks =>
      rw [Trace.returned?, signsAt_of_tick ticks]
      rfl

/-- A reset returns no status. -/
theorem Resets.returned (resets : node.Resets context trace) :
    trace.returned? context.place = none := by
  rw [Trace.returned?, resets.signsAt]
  split <;> rfl

/-- An abort returns no status. -/
theorem returned_of_abort
    (undergoes : node.Undergoes context (.aborted (.ok ())) before trace changed after) :
    trace.returned? context.place = none := by
  cases undergoes with
  | aborted aborts =>
      cases abortsIn_of_abortIn aborts with
      | silent _ resets => exact (resets_of_reset resets).returned
      | reported _ tells resets =>
          rw [Trace.returned?, Trace.signsAt_cons_output, Trace.signsAt_append, tells.signsAt]
          exact (resets_of_reset resets).returned

/-- An evolution by one touch has the signs and the panics of the touch. -/
theorem Evolves.single_panicsAt (evolves : node.Evolves context [touch] trace changed) :
    ∃ before single after, node.Undergoes context touch before single changed after ∧
      (∀ place, trace.returned? place = single.returned? place) ∧
        ∀ place, trace.panicsAt place = single.panicsAt place := by
  obtain ⟨before, _, after, writing, single, later, rfl, written, undergoes, rest⟩ :=
    evolves.uncons
  obtain ⟨rfl, ending⟩ := rest.nil
  refine ⟨before, single, after, undergoes, fun place => ?_, fun place => ?_⟩
  · rw [Trace.returned?, Trace.signsAt_append, Trace.signsAt_append, written.signsAt,
      ending.signsAt, List.nil_append, List.append_nil, Trace.returned?]
  · rw [Trace.panicsAt_append, Trace.panicsAt_append, written.panicsAt, ending.panicsAt,
      List.nil_append, List.append_nil]

/-- A panic in an evolution has been raised in one of its touches. -/
theorem Evolves.exists_of_panic (evolves : node.Evolves context touches trace changed)
    (raised : panic ∈ trace.panicsAt place) :
    ∃ touch ∈ touches, ∃ (middle last : Node A) (before after : Stage A D) (part : Trace A),
      middle.Undergoes context touch before part last after ∧ panic ∈ part.panicsAt place := by
  induction evolves with
  | done => cases raised
  | wrote record _ inductionHypothesis =>
      rw [Trace.panicsAt_cons_record] at raised
      exact inductionHypothesis raised
  | touched undergoes _ inductionHypothesis =>
      rw [Trace.panicsAt_append, List.mem_append] at raised
      rcases raised with here | later
      · exact ⟨_, List.mem_cons_self, _, _, _, _, _, undergoes, here⟩
      · obtain ⟨touch, member, found⟩ := inductionHypothesis later
        exact ⟨touch, List.mem_cons_of_mem _ member, found⟩

/-- What remains depends on the trace only by the nodes that have returned. -/
theorem Remains.congr (remains : node.Remains context trace path changed)
    (same : ∀ upper, more.returned? (upper ++ context.place) =
      trace.returned? (upper ++ context.place)) :
    node.Remains context more path changed where
  struck := remains.struck
  above upper part := by
    have below (position : Nat) : more.returned? (position :: upper ++ context.place) =
        trace.returned? (position :: upper ++ context.place) := same (position :: upper)
    simp only [below]
    exact remains.above upper part
  unreturned upper suffix := (same upper).trans (remains.unreturned upper suffix)
  beside other outside := by
    simp only [same]
    exact remains.beside other outside

/-- A node that is suspended at one child, whose other children have been left alone unless they
have returned or have been abandoned, remains around what remains of that child. -/
theorem Remains.around {tag : Tag} {body suspended : Body A (Node A)}
    (remains : child.Remains (context.child position) trace path next)
    (present : body.children[position]? = some child)
    (found : suspended.children[position]? = some next)
    (shape : suspended.shape =
      (body.suspend context.clock fun index => trace.returned? (index :: context.place)).shape)
    (unreturned : trace.returned? context.place = none)
    (others : ∀ other ≠ position, suspended.children[other]? = body.children[other]? ∨
      trace.returned? (other :: context.place) ≠ none ∨ body.Abandons position other) :
    Remains context trace (path ++ [position]) ⟨tag, body⟩ ⟨tag, suspended⟩ := by
  have below (upper : Place) : upper ++ [position] ++ context.place =
      upper ++ (context.child position).place := by
    rw [List.append_assoc]
    rfl
  have inside (upper : Place) (node last : Node A) (taken : node.children[position]? = some last) :
      node.descendant? (upper ++ [position]) = last.descendant? upper := by
    rw [descendant?_concat, taken, Option.bind_some]
  have whole (upper : Place) := inside upper ⟨tag, body⟩ child present
  have left (upper : Place) := inside upper ⟨tag, suspended⟩ next found
  constructor
  case struck =>
    rw [whole, left]
    exact remains.struck
  case above =>
    intro upper part suffix proper leads
    rcases List.suffix_concat_iff.1 suffix with rfl | ⟨rest, rfl, shorter⟩
    · obtain rfl := Option.some.inj leads
      exact ⟨_, rfl, rfl, shape⟩
    · rw [whole] at leads
      have strict : rest ≠ path := fun same => proper (by rw [same])
      obtain ⟨last, led, tags, shapes⟩ := remains.above rest part shorter strict leads
      refine ⟨last, by rw [left, led], tags, ?_⟩
      rw [shapes]
      have places (index : Nat) : index :: (rest ++ [position]) ++ context.place =
          index :: rest ++ (context.child position).place := below (index :: rest)
      simp only [places]
      rfl
  case unreturned =>
    intro upper suffix
    rcases List.suffix_concat_iff.1 suffix with rfl | ⟨rest, rfl, shorter⟩
    · exact unreturned
    · rw [below]
      exact remains.unreturned rest shorter
  case beside =>
    intro other outside open' kept
    rcases List.eq_nil_or_concat other with rfl | ⟨rest, index, rfl⟩
    · exact absurd List.nil_suffix outside
    · rw [List.concat_eq_append] at outside open' kept ⊢
      by_cases same : index = position
      · subst same
        rw [whole, left]
        refine remains.beside rest ?_ ?_ ?_
        · intro suffix
          exact outside (List.suffix_append_self_iff.2 suffix)
        · intro upper suffix
          rw [← below]
          exact open' _ (List.suffix_append_self_iff.2 suffix)
        · rintro ⟨upper, part, chosen, lost, leads, abandons, onPath, above⟩
          refine kept ⟨upper ++ [index], part, chosen, lost, by rw [whole, leads], abandons, ?_, ?_⟩
          · exact List.suffix_append_self_iff.2 onPath
          · exact List.suffix_append_self_iff.2 above
      · rcases others index same with alone | returned | abandons
        · rw [descendant?_concat, descendant?_concat, children, children, alone]
        · exact absurd (open' [index] (List.suffix_append rest [index])) returned
        · exact absurd ⟨[], _, position, index, rfl, abandons, List.suffix_append path [position],
            List.suffix_append rest [index]⟩ kept

/-- A node that has been left alone, has returned or has been aborted tells so at its place. -/
theorem Evolves.returned (evolves : node.Evolves context touches trace changed)
    (calm : touches = [] ∨ (∃ status, touches = [.ticked (.ok status)]) ∨
      touches = [.aborted (.ok ())]) :
    trace.returned? context.place = touches.findSome? Touch.returned? := by
  rcases calm with rfl | ⟨status, rfl⟩ | rfl
  · rw [Trace.returned?, evolves.nil.2.signsAt]
    rfl
  · obtain ⟨_, _, _, undergoes, same, _⟩ := evolves.single_panicsAt
    rw [same, returned_of_return undergoes]
    rfl
  · obtain ⟨_, _, _, undergoes, same, _⟩ := evolves.single_panicsAt
    rw [same, returned_of_abort undergoes]
    rfl

/-- A panic at a path strikes a node if any touch in which it is raised there is a tick that it cuts
short, of which the node and the path remain. -/
def Strikes (D : Type) (path : Place) (panic : Panic) : Prop :=
  ∀ {context : Context D} {node changed : Node A} {touch : Touch} {before after : Stage A D}
    {trace : Trace A}, node.Undergoes context touch before trace changed after →
      panic ∈ trace.panicsAt (path ++ context.place) →
        touch = .ticked (.error panic) ∧ node.Remains context trace path changed

theorem ne_below (path : Place) (position : Nat) (place : Place) :
    place ≠ path ++ [position] ++ place := by
  intro same
  have lengths := congrArg List.length same
  simp only [List.length_append, List.length_singleton] at lengths
  omega

/-- A panic below a child of a handling cuts a tick of the child short. -/
theorem ticked_of_handles {nodes final : List (Node A)} {handled : List (Nat × Touch)}
    (strikes : Strikes (A := A) D path panic)
    (handles : Handles context nodes before handled trace final after)
    (present : nodes[position]? = some child)
    (raised : panic ∈ trace.panicsAt (path ++ [position] ++ context.place)) :
    (position, .ticked (.error panic)) ∈ handled := by
  obtain ⟨_, _, evolves⟩ := handles.evolves present
  have place : path ++ [position] ++ context.place = path ++ (position :: context.place) := by simp
  rw [place, ← Trace.panicsAt_within ⟨path, rfl⟩] at raised
  obtain ⟨touch, member, _, _, _, _, _, undergoes, here⟩ := evolves.exists_of_panic raised
  obtain ⟨rfl, _⟩ := strikes undergoes here
  exact mem_touchesOf.1 member

/-- A panic below a child cuts the work of a body short, and the body remains around the child. -/
theorem remains_of_works {tag : Tag} {info : NodeInfo} {body suspended : Body A (Node A)}
    {working : Trace A} {result : Except Panic Status} (strikes : Strikes (A := A) D path panic)
    (works : body.Works context info before working result suspended after)
    (present : body.children[position]? = some child)
    (raised : panic ∈ working.panicsAt (path ++ [position] ++ context.place))
    (inside : ∀ index, trace.within (index :: context.place) =
      working.within (index :: context.place))
    (unreturned : result = .error panic → trace.returned? context.place = none) :
    result = .error panic ∧
      Remains context trace (path ++ [position]) ⟨tag, body⟩ ⟨tag, suspended⟩ := by
  have elsewhere : context.place ≠ path ++ [position] ++ context.place :=
    ne_below path position context.place
  cases works with
  | leaf => simp [Body.children] at present
  | refused asks =>
      rw [(local_of_asks asks).panicsAt_of_ne elsewhere] at raised
      cases raised
  | @played _ _ _ _ _ earlier later _ handled _ asks handles plays =>
      rw [Trace.panicsAt_append, (local_of_asks asks).panicsAt_of_ne elsewhere, List.nil_append]
        at raised
      obtain ⟨rfl, breaks, shape⟩ := plays.breaksOff (ticked_of_handles strikes handles present raised)
      have view (index : Nat) (upper : Place) : trace.returned? (upper ++ (index :: context.place)) =
          (later.within (index :: context.place)).returned? (upper ++ (index :: context.place)) := by
        rw [Trace.returned?, ← Trace.signsAt_within ⟨upper, rfl⟩, inside, Trace.within_append,
          (local_of_asks asks).within_below, List.nil_append, Trace.returned?]
      obtain ⟨next, found, evolves⟩ := handles.evolves present
      rw [breaks.struck] at evolves
      obtain ⟨_, single, _, undergoes, signs, panics⟩ := evolves.single_panicsAt
      have place : path ++ [position] ++ context.place = path ++ (position :: context.place) := by simp
      rw [place, ← Trace.panicsAt_within ⟨path, rfl⟩, panics] at raised
      have remains : child.Remains (context.child position) trace path next :=
        (strikes undergoes raised).2.congr fun upper => (view position upper).trans (signs _)
      have calm (other : Nat) (different : other ≠ position) {node : Node A}
          (listed : body.children[other]? = some node) :
          trace.returned? (other :: context.place) = returnedIn handled other := by
        obtain ⟨_, _, evolves⟩ := handles.evolves listed
        have told := evolves.returned ((breaks.others other different).imp_right (.imp_right And.right))
        exact (view other []).trans told
      refine ⟨rfl, remains.around present found ?_ (unreturned rfl) ?_⟩
      · rw [shape]
        refine congrArg Body.shape (Body.suspend_congr fun index bound => ?_)
        by_cases here : index = position
        · subst here
          have open' : trace.returned? (index :: context.place) = none :=
            remains.unreturned [] List.nil_suffix
          rw [open', returnedIn, breaks.struck]
          rfl
        · exact (calm index here (List.getElem?_eq_getElem bound)).symm
      · intro other different
        cases listed : body.children[other]? with
        | none =>
            rw [List.getElem?_eq_none_iff] at listed ⊢
            exact .inl (handles.length_eq ▸ listed)
        | some node =>
            obtain ⟨last, taken, evolves⟩ := handles.evolves listed
            rcases breaks.others other different with alone | ⟨status, returned⟩ | ⟨abandons, _⟩
            · rw [alone] at evolves
              obtain ⟨rfl, _⟩ := evolves.nil
              exact .inl taken
            · refine .inr (.inl ?_)
              rw [calm other different listed, returnedIn, returned]
              exact Option.some_ne_none status
            · exact .inr (.inr abandons)

/-- No reset of a node calls what could panic. -/
theorem Resets.not_mem_panicsAt (strikes : Strikes (A := A) D path panic)
    (resets : node.Resets context trace) (present : node.children[position]? = some child) :
    panic ∉ trace.panicsAt (path ++ [position] ++ context.place) := by
  intro raised
  obtain ⟨cancels, handles⟩ := resets
  have own := (local_clearing context.place node.tag).append (Body.local_of_cancel cancels)
  rw [Trace.panicsAt_append, own.panicsAt_of_ne (ne_below path position context.place),
    List.nil_append] at raised
  have contrary := eq_reset_of_mem_resetsFrom (ticked_of_handles strikes handles present raised)
  cases contrary

/-- No abort of a node calls what could panic. -/
theorem not_mem_panicsAt_of_abort {result : Except Panic Unit} (strikes : Strikes (A := A) D path panic)
    (aborts : (node.abortIn context).Leads before trace ⟨changed, result⟩ after)
    (present : node.children[position]? = some child) :
    panic ∉ trace.panicsAt (path ++ [position] ++ context.place) := by
  have elsewhere := ne_below path position context.place
  cases abortsIn_of_abortIn aborts with
  | silent _ resets => exact (resets_of_reset resets).not_mem_panicsAt strikes present
  | reported _ tells resets =>
      rw [Trace.panicsAt_cons_record, Trace.panicsAt_append,
        (Context.local_of_tells tells).panicsAt_of_ne elsewhere, List.nil_append]
      exact (resets_of_reset resets).not_mem_panicsAt strikes present
  | unwound _ tells =>
      rw [Trace.panicsAt_cons_record, (Context.local_of_tells tells).panicsAt_of_ne elsewhere]
      exact List.not_mem_nil

/-- A panic below a child cuts the tick of a node short, and the node remains around the child. -/
theorem remains_of_child {result : Except Panic Status} (strikes : Strikes (A := A) D path panic)
    (ticks : (node.tick context).Leads before trace ⟨changed, result⟩ after)
    (present : node.children[position]? = some child)
    (raised : panic ∈ trace.panicsAt (path ++ [position] ++ context.place)) :
    result = .error panic ∧ node.Remains context trace (path ++ [position]) changed := by
  have elsewhere := ne_below path position context.place
  obtain ⟨tag, body⟩ := node
  cases ticked_of_tick ticks with
  | refused announces =>
      rw [(Context.local_of_tells announces).panicsAt_of_ne elsewhere] at raised
      cases raised
  | @unwound _ _ _ announcing working _ announces works =>
      have announced := Context.local_of_tells announces
      rw [Trace.panicsAt_append, announced.panicsAt_of_ne elsewhere, List.nil_append] at raised
      have inside (index : Nat) : (announcing ++ working).within (index :: context.place) =
          working.within (index :: context.place) := by
        rw [Trace.within_append, announced.within_below, List.nil_append]
      have signs : (announcing ++ working).signsAt context.place = [.entered] := by
        rw [Trace.signsAt_append, announces.signsAt, works.signsAt]
        rfl
      have unreturned : (announcing ++ working).returned? context.place = none := by
        rw [Trace.returned?, signs]
        rfl
      exact remains_of_works strikes works present raised inside fun _ => unreturned
  | returned announces works leaves _ =>
      have announced := Context.local_of_tells announces
      have left := Context.local_of_tells leaves
      rw [Trace.panicsAt_append, Trace.panicsAt_append, announced.panicsAt_of_ne elsewhere,
        left.panicsAt_of_ne elsewhere, List.nil_append, List.append_nil] at raised
      have contrary : _ ∧ Remains context _ _ ⟨tag, body⟩ _ :=
        remains_of_works strikes works present raised (fun _ => rfl) nofun
      cases contrary.1

/-- A panic is raised below a child that is there. -/
theorem Undergoes.exists_child_of_panic
    (undergoes : node.Undergoes context touch before trace changed after)
    (raised : panic ∈ trace.panicsAt (path ++ [position] ++ context.place)) :
    ∃ child, node.children[position]? = some child := by
  obtain ⟨_, made, _⟩ := Trace.exists_of_mem_panicsAt raised
  obtain ⟨other, leads, same⟩ := undergoes.populates _ made
  obtain rfl := List.append_cancel_right same
  obtain ⟨_, leads⟩ := Option.isSome_iff_exists.1 leads
  rw [descendant?_concat, Option.bind_eq_some_iff] at leads
  obtain ⟨child, present, _⟩ := leads
  exact ⟨child, present⟩

/-- A call of a node that panics strikes the node itself. -/
theorem strikes_here : Strikes (A := A) D [] panic := by
  intro context node changed touch before after trace undergoes raised
  obtain ⟨rfl, rfl, signs⟩ := undergoes.panics raised
  refine ⟨rfl, ⟨rfl, rfl⟩, ?_, ?_, fun _ _ _ _ => rfl⟩
  · intro upper part suffix proper _
    exact absurd (List.suffix_nil.1 suffix) proper
  · intro upper suffix
    obtain rfl := List.suffix_nil.1 suffix
    rw [List.nil_append, Trace.returned?, signs]
    rfl

/-- Wherever a call panics, the tick of every node above it is cut short, and the panic leaves of the
tree what remains. -/
theorem strikes_everywhere (path : Place) : Strikes (A := A) D path panic := by
  -- The path is taken apart at its end, where it enters the first child.
  induction path using List.reverseRecOn with
  | nil => exact strikes_here
  | append_singleton path position strikes =>
      intro context node changed touch before after trace undergoes raised
      obtain ⟨child, present⟩ := undergoes.exists_child_of_panic raised
      cases undergoes with
      | reset resets =>
          exact absurd raised ((resets_of_reset resets).not_mem_panicsAt strikes present)
      | aborted aborts => exact absurd raised (not_mem_panicsAt_of_abort strikes aborts present)
      | ticked ticks =>
          obtain ⟨ended, remains⟩ := remains_of_child strikes ticks present raised
          exact ⟨congrArg Touch.ticked ended, remains⟩

/-- A tick in which a call panics ends with the panic and leaves what remains. -/
theorem remains_of_tick {stage : Stage A D}
    (raised : panic ∈ (node.tick context stage).trace.panicsAt place) :
    ∃ path, place = path ++ context.place ∧
      (node.tick context stage).value.result = .error panic ∧
      node.Remains context (node.tick context stage).trace path
        (node.tick context stage).value.after := by
  have undergoes : node.Undergoes context _ stage _ _ _ :=
    .ticked (Run.leads_self (node.tick context) stage)
  obtain ⟨_, made, _⟩ := Trace.exists_of_mem_panicsAt raised
  obtain ⟨path, _, same⟩ := undergoes.populates _ made
  obtain rfl : place = path ++ context.place := same
  obtain ⟨ended, remains⟩ := strikes_everywhere path undergoes raised
  exact ⟨path, rfl, Touch.ticked.inj ended, remains⟩

end Node

namespace Tree

variable {tree : Tree A D} {deltaTime : Float32} {stage : Stage A D} {place : Place} {panic : Panic}

/-- A tree whose root tick fails does nothing after it. -/
theorem tick_of_failed
    (failed : (tree.root.tick (tree.context (tree.settings.clamp deltaTime)) stage).value.result =
      .error panic) :
    let ticked := tree.root.tick (tree.context (tree.settings.clamp deltaTime)) stage
    tree.tick deltaTime stage =
      ⟨⟨{ tree with root := ticked.value.after }, .error panic⟩, ticked.stage, ticked.trace⟩ := by
  simp [tick, failed]

/-- No call outside the tick of the root can panic, so the tick of the root fails. -/
theorem failed_of_panic (raised : panic ∈ (tree.tick deltaTime stage).trace.panicsAt place) :
    (tree.root.tick (tree.context (tree.settings.clamp deltaTime)) stage).value.result =
      .error panic := by
  have failed : (tree.tick deltaTime stage).value.result = .error panic := by
    have ticks := Run.leads_self (tree.tick deltaTime) stage
    generalize (tree.tick deltaTime stage).value = attempt at ticks
    obtain ⟨changed, result⟩ := attempt
    obtain ⟨touches, evolves, shape⟩ := Host.evolves_of_tick ticks
    obtain ⟨_, made, _⟩ := Trace.exists_of_mem_panicsAt raised
    obtain ⟨path, _, same⟩ := evolves.populates _ made
    obtain rfl : place = path ++ rootPlace := same
    obtain ⟨_, member, _, _, _, _, _, undergoes, here⟩ := evolves.exists_of_panic raised
    obtain ⟨rfl, _⟩ := Node.strikes_everywhere path undergoes here
    rcases shape with rfl | ⟨_, _, _, rfl⟩ <;> simp_all
  cases ended : (tree.root.tick (tree.context (tree.settings.clamp deltaTime)) stage).value.result with
  | error other => rwa [tick_of_failed ended] at failed
  | ok status =>
      simp only [tick, Run.bind_apply, ended] at failed
      split at failed <;> simp at failed

/-- Whenever a predicate, an action or a starter panics in a tick of a node, in any state of the
nodes, the tick ends with that panic. The node that has called it is as it was, with all below it;
the nodes above it have kept their last status and what they remember, but for the time that a
timeout has spent, the branch of a choice and the outcomes that a parallel node has recorded of the
children that have returned; and every other node is as it was, unless it belongs to a child that
has returned or to a branch that has been abandoned. A tree whose root is ticked so keeps its frame
and everything else, and does not reset the root. -/
theorem struck_tick_remains :
    (∀ (node : Node A) (context : Context D) (stage : Stage A D) (place : Place) (panic : Panic),
      panic ∈ (node.tick context stage).trace.panicsAt place →
        ∃ path, place = path ++ context.place ∧
          (node.tick context stage).value.result = .error panic ∧
          node.Remains context (node.tick context stage).trace path
            (node.tick context stage).value.after) ∧
    ∀ (tree : Tree A D) (deltaTime : Float32) (stage : Stage A D) (place : Place) (panic : Panic),
      panic ∈ (tree.tick deltaTime stage).trace.panicsAt place →
        let context := tree.context (tree.settings.clamp deltaTime)
        let ticked := tree.root.tick context stage
        tree.tick deltaTime stage =
            ⟨⟨{ tree with root := ticked.value.after }, .error panic⟩, ticked.stage, ticked.trace⟩ ∧
          tree.root.Remains context ticked.trace place ticked.value.after := by
  refine ⟨fun node context stage place panic raised => Node.remains_of_tick raised, ?_⟩
  intro tree deltaTime stage place panic raised context ticked
  have failed := failed_of_panic raised
  have alone := tick_of_failed failed
  rw [alone] at raised
  obtain ⟨path, same, _, remains⟩ := Node.remains_of_tick raised
  obtain rfl : place = path := same.trans (List.append_nil path)
  exact ⟨alone, remains⟩

end Tree

namespace Sample

/-- A brittle agent has predicates that hold and predicates that panic. -/
def brittle : Agent where
  State := Unit
  Predicate := Bool
  Action := Empty
  Starter := Empty
  Operation := Empty
  test sound state := ⟨if sound then .ok true else .error (.raised "broken"), state, []⟩
  act action := nomatch action
  start starter := nomatch starter
  poll operation := nomatch operation
  take operation := nomatch operation
  cancel operation := nomatch operation

/-- Both children are asked at once, and the second one panics. -/
def brittleTree : Tree brittle Unit :=
  ⟨"main", .ofBody (.composite (.parallel .all [])
    [.condition (A := brittle) true, .condition (A := brittle) false]), .standard, 7, none⟩

end Sample

/-- The parallel node above the condition that panics has recorded the success of the other one, and
the tree stays in its frame. -/
theorem Tree.struck_tick_remains_in_sample :
    (Sample.brittleTree.tick 0 ⟨(), ()⟩).value.result = .error (.raised "broken") ∧
      (Sample.brittleTree.tick 0 ⟨(), ()⟩).value.after.frame = 7 ∧
      ∃ nodes, (Sample.brittleTree.tick 0 ⟨(), ()⟩).value.after.root.body =
        .composite (.parallel .all [some .success, none]) nodes := by
  have raised : Panic.raised "broken" ∈
      (Sample.brittleTree.tick 0 ⟨(), ()⟩).trace.panicsAt [1] := by decide
  obtain ⟨alone, remains⟩ := struck_tick_remains.2 Sample.brittleTree 0 ⟨(), ()⟩ [1] _ raised
  rw [alone]
  exact ⟨rfl, rfl, _, rfl⟩

end Behavior
