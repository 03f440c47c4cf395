import Behavior.Proofs.History
import Behavior.Proofs.Idle.Treatment

namespace Behavior

variable {A : Agent} {D : Type}

/-- A poll with a final status leaves nothing to wait for. -/
theorem Leaf.settled_of_poll {place : Place} {starter : A.Starter} {operation : A.Operation}
    {before after : Stage A D} {trace : Trace A} {next : Leaf A} {status : Status}
    (polls : (Leaf.poll place starter operation).Leads before trace ⟨next, .ok status⟩ after)
    (finished : status ≠ .running) : next.Settled := by
  obtain ⟨completed, _, _, _, _, ended, rfl⟩ := Run.leads_bind.1 polls
  cases completed with
  | false =>
      obtain ⟨_, same, _⟩ := Run.leads_attempt.1 ended
      cases same
      exact absurd rfl finished
  | true =>
      obtain ⟨_, _, rfl, _⟩ := Run.leads_bind_attempt.1 ended
      rfl

/-- A leaf that finishes waits for nothing. -/
theorem Leaf.settled_of_tick {context : Context D} {info : NodeInfo} {own next : Leaf A}
    {before after : Stage A D} {trace : Trace A} {status : Status}
    (ticks : (own.tick info context).Leads before trace ⟨next, .ok status⟩ after)
    (finished : status ≠ .running) : next.Settled := by
  match own with
  | .condition predicate | .action deed =>
      obtain ⟨_, _, rfl, _⟩ := Run.leads_bind_attempt.1 ticks
      trivial
  | .asyncAction starter (some operation) => exact settled_of_poll ticks finished
  | .asyncAction starter none =>
      obtain ⟨started, _, _, _, _, ended, rfl⟩ := Run.leads_bind.1 ticks
      match started with
      | .error panic =>
          obtain ⟨_, same, _⟩ := Run.leads_attempt.1 ended
          cases same
      | .ok operation => exact settled_of_poll ended finished

namespace Node

variable {context : Context D} {node changed : Node A} {before after : Stage A D} {trace : Trace A}
  {status : Status}

/-- An abort clears a node. -/
theorem cleared_of_abortIn
    (aborts : (node.abortIn context).Leads before trace ⟨changed, .ok ()⟩ after) :
    changed = node.cleared := by
  cases abortsIn_of_abortIn aborts <;> rfl

/-- Only the tick of a child leaves something of a run in it. -/
theorem Undergoes.cleared {touch : Touch}
    (undergoes : node.Undergoes context touch before trace changed after)
    (clears : touch = .reset ∨ touch = .aborted (.ok ())) : changed = node.cleared := by
  cases undergoes with
  | ticked => simp at clears
  | reset resets => exact cleared_of_reset resets
  | aborted aborts =>
      obtain rfl : _ = Except.ok () := by simpa using clears
      exact cleared_of_abortIn aborts

/-- A child that is treated well ends untouched and idle, cleared, or as its only tick leaves it. -/
theorem Evolves.treated {parallel held : Prop} {touches : List Touch}
    (evolves : node.Evolves context touches trace changed)
    (treats : Treats parallel status held node.last touches) :
    (changed = node ∧ node.last ≠ some .running) ∨ (∃ middle : Node A, changed = middle.cleared) ∨
      ∃ before trace returned after,
        (node.tick context).Leads before trace ⟨changed, .ok returned⟩ after ∧
          (returned = .running → status = .running ∧ held) := by
  cases treats with
  | spared idle => exact .inl ⟨evolves.nil.1, idle⟩
  | ticked returned busy =>
      obtain ⟨_, _, _, _, _, _, _, _, ⟨ticks⟩, rest⟩ := evolves.uncons
      obtain rfl := rest.nil.1
      exact .inr (.inr ⟨_, _, returned, _, ticks, busy⟩)
  | renewed =>
      obtain ⟨_, middle, _, _, _, _, _, _, _, rest⟩ := evolves.uncons
      obtain ⟨_, _, _, _, _, _, _, _, resets, last⟩ := rest.uncons
      obtain rfl := last.nil.1
      exact .inr (.inl ⟨middle, resets.cleared (.inl rfl)⟩)
  | aborted =>
      obtain ⟨_, _, _, _, _, _, _, _, aborts, last⟩ := evolves.uncons
      obtain rfl := last.nil.1
      exact .inr (.inl ⟨node, aborts.cleared (.inr rfl)⟩)
  | dropped =>
      obtain ⟨_, middle, _, _, _, _, _, _, _, rest⟩ := evolves.uncons
      obtain ⟨_, _, _, _, _, _, _, _, aborts, last⟩ := rest.uncons
      obtain rfl := last.nil.1
      exact .inr (.inl ⟨middle, aborts.cleared (.inr rfl)⟩)

/-- A tick that returns treats each child of a coherent node well. -/
theorem treats_of_tick {position : Nat} {child : Node A}
    (ticks : (node.tick context).Leads before trace ⟨changed, .ok status⟩ after)
    (supervised : ¬ node.body.Dangles) (coherent : node.Coherent)
    (present : node.children[position]? = some child) :
    ∃ touches final, changed.children[position]? = some final ∧
      child.Evolves (context.child position) touches (trace.within (position :: context.place))
        final ∧
      Treats (node.kind = .parallel) status (changed.body.Holds position) child.last touches := by
  obtain ⟨_, _, _, _, _, rfl, announces, works, leaves, _⟩ := returned_of_tick ticks
  rw [children] at present ⊢
  rw [kind]
  have sound := coherent.sound
  have held := coherent.held
  rw [children] at held
  generalize node.body = body at works present supervised sound held ⊢
  generalize changed.body = next at works ⊢
  cases works with
  | leaf => simp [Body.children] at present
  | played asks handles plays =>
      obtain ⟨final, taken, evolves⟩ := handles.evolves present
      refine ⟨_, final, taken, ?_, plays.treats supervised sound held present⟩
      rw [Trace.within_append, Trace.within_append, Trace.within_append,
        (Context.local_of_tells announces).within_below,
        (Context.local_of_tells leaves).within_below, (local_of_asks asks).within_below,
        List.nil_append, List.nil_append, List.append_nil]
      exact evolves

/-- A tick that finishes leaves a coherent node settled. -/
theorem settled_of_tick
    (ticks : (node.tick context).Leads before trace ⟨changed, .ok status⟩ after)
    (supervised : ¬ node.body.Dangles) (coherent : node.Coherent) :
    (status ≠ .running → changed.body.Settled) ∧ changed.body.Sound := by
  obtain ⟨_, _, _, _, _, _, _, works, _, _⟩ := returned_of_tick ticks
  have sound := coherent.sound
  have held := coherent.held
  rw [children] at held
  generalize node.body = body at works supervised sound held
  generalize changed.body = next at works ⊢
  cases works with
  | leaf ticks => exact ⟨fun finished => Leaf.settled_of_tick ticks finished, trivial⟩
  | played _ _ plays => exact plays.settled supervised sound held

/-- A tick that returns keeps a supervised tree coherent. -/
theorem coherent_of_tick
    (ticks : (node.tick context).Leads before trace ⟨changed, .ok status⟩ after)
    (supervised : node.Supervised) (coherent : node.Everywhere Coherent) :
    changed.Everywhere Coherent := by
  induction node using Node.induction
    generalizing context before trace status changed after with
  | step tag body inductionHypothesis =>
      have last := last_of_tick ticks
      have ends (position : Nat) (final : Node A)
          (taken : changed.children[position]? = some final) :
          final.Everywhere Coherent ∧ (final.last = some .running →
            status = .running ∧ changed.body.Holds position) := by
        have entered : changed.descendant? [position] = some final := taken
        obtain ⟨child, present, _⟩ :=
          descendant?_of_pristine (Undergoes.pristine (.ticked ticks)).symm entered
        have member := List.mem_of_getElem? present
        obtain ⟨_, _, same, evolves, treats⟩ :=
          treats_of_tick ticks supervised.here coherent.here present
        obtain rfl := Option.some.inj (same.symm.trans taken)
        rcases evolves.treated treats with ⟨rfl, idle⟩ | ⟨middle, rfl⟩ |
          ⟨_, _, returned, _, ticked, busy⟩
        · exact ⟨coherent.child member, fun running => absurd running idle⟩
        · have rests := rests_cleared middle
          exact ⟨coherent_of_rests rests, fun running => absurd running rests.here.1⟩
        · refine ⟨inductionHypothesis _ member ticked (supervised.child member)
            (coherent.child member), fun running => busy ?_⟩
          exact Option.some.inj ((last_of_tick ticked).symm.trans running)
      obtain ⟨settled, sound⟩ := settled_of_tick ticks supervised.here coherent.here
      refine (everywhere_iff changed).2 ⟨?_, fun child member => ?_⟩
      · exact {
          settled := fun idle => settled fun busy => idle (by rw [last, busy])
          quiet := fun idle child member running => by
            obtain ⟨position, taken⟩ := List.mem_iff_getElem?.1 member
            obtain ⟨busy, _⟩ := (ends position child taken).2 running
            exact idle (by rw [last, busy])
          held := fun position child taken running => ((ends position child taken).2 running).2
          sound := sound }
      · obtain ⟨position, taken⟩ := List.mem_iff_getElem?.1 member
        exact (ends position child taken).1

/-- A tick that finishes leaves the whole tree at rest. -/
theorem rests_of_tick
    (ticks : (node.tick context).Leads before trace ⟨changed, .ok status⟩ after)
    (supervised : node.Supervised) (coherent : node.Everywhere Coherent)
    (finished : status ≠ .running) : changed.Everywhere Rests := by
  refine rests_everywhere (coherent_of_tick ticks supervised coherent) fun running => finished ?_
  exact Option.some.inj ((last_of_tick ticks).symm.trans running)

/-- What a root undergoes without a panic keeps it supervised and coherent. -/
theorem Evolves.coherent {touches : List Touch}
    (evolves : node.Evolves context touches trace changed) (calm : ∀ touch ∈ touches, touch.Calm)
    (supervised : node.Supervised) (coherent : node.Everywhere Coherent) :
    changed.Supervised ∧ changed.Everywhere Coherent := by
  induction evolves with
  | done => exact ⟨supervised, coherent⟩
  | wrote _ _ inductionHypothesis => exact inductionHypothesis calm supervised coherent
  | touched undergoes _ inductionHypothesis =>
      obtain ⟨first, rest⟩ := List.forall_mem_cons.1 calm
      refine inductionHypothesis rest (supervised.of_pristine undergoes.pristine) ?_
      cases undergoes with
      | ticked ticks =>
          obtain ⟨_, rfl⟩ := first
          exact coherent_of_tick ticks supervised coherent
      | aborted aborts =>
          obtain rfl := first
          rw [cleared_of_abortIn aborts]
          exact coherent_of_rests (rests_cleared _)
      | reset resets =>
          rw [cleared_of_reset resets]
          exact coherent_of_rests (rests_cleared _)

/-- A new child at rest keeps its parent coherent. -/
theorem coherent_of_addChild {child : Node A} (accepted : node.addChild child = .ok changed)
    (coherent : node.Everywhere Coherent) (rests : child.Everywhere Rests) :
    changed.Everywhere Coherent := by
  obtain ⟨tag, own, nodes, rfl, rfl⟩ := addChild_spec accepted
  have here := coherent.here
  refine everywhere_mk ?_ fun other member => ?_
  · exact {
      settled := here.settled
      quiet := fun idle other member => by
        rcases List.mem_append.1 member with old | new
        · exact here.quiet idle other old
        · rw [List.mem_singleton.1 new]
          exact rests.here.1
      held := fun position other present running => by
        rcases getElem?_extended present with old | ⟨_, new⟩
        · exact here.held position other old running
        · exact absurd running (new ▸ rests.here.1)
      sound := trivial }
  · rcases List.mem_append.1 member with old | new
    · exact coherent.child old
    · rw [List.mem_singleton.1 new]
      exact coherent_of_rests rests

/-- A supervised tree gets more children that are supervised. -/
theorem supervised_of_addChild {child : Node A} (accepted : node.addChild child = .ok changed)
    (supervised : node.Supervised) (below : child.Supervised) : changed.Supervised := by
  obtain ⟨tag, own, nodes, rfl, rfl⟩ := addChild_spec accepted
  refine everywhere_mk supervised.here fun other member => ?_
  rcases List.mem_append.1 member with old | new
  · exact supervised.child old
  · rw [List.mem_singleton.1 new]
    exact below

/-- What has been built rests everywhere. -/
theorem Built.rests (built : node.Built) : node.Everywhere Rests := by
  rw [← built.pristine]
  exact rests_pristine node

end Node

namespace Host

/-- Every calm step keeps the root supervised and coherent. -/
theorem RootSteps.coherent {node changed : Node A} {trace : Trace A}
    {result : Except Panic (Option Status)}
    (steps : RootSteps D (fun child => child.Built ∧ child.Supervised) node trace result changed)
    (allowed : Calm result) (supervised : node.Supervised)
    (coherent : node.Everywhere Node.Coherent) :
    changed.Supervised ∧ changed.Everywhere Node.Coherent := by
  cases steps with
  | evolved rooted evolves calm => exact evolves.coherent (calm allowed) supervised coherent
  | extended fresh accepted =>
      exact ⟨Node.supervised_of_addChild accepted supervised fresh.2,
        Node.coherent_of_addChild accepted coherent fresh.1.rests⟩
  | numbered same =>
      exact ⟨supervised.of_unnumbered same, Node.coherent_of_unnumbered same coherent⟩

/-- The invariant of calm histories: the root is supervised and coherent. -/
theorem History.coherent {root : Node A} {host : Host A D} {trace : Trace A}
    (built : root.Built) (supervised : root.Supervised)
    (history : (Host.bare (D := D) root).History (fun child => child.Built ∧ child.Supervised) Calm
      trace host) :
    host.root.Supervised ∧ host.root.Everywhere Node.Coherent := by
  induction history with
  | start => exact ⟨supervised, Node.coherent_of_rests built.rests⟩
  | step _ steps allowed inductionHypothesis =>
      exact steps.root.coherent allowed inductionHypothesis.1 inductionHypothesis.2

/-- Whatever is done to a tree without dangling nodes, as long as nothing panics, the whole subtree
of a node that is not running is at rest. -/
theorem rests_below_idle {root : Node A} {host : Host A D} {trace : Trace A}
    (built : root.Built) (supervised : root.Supervised)
    (history : (Host.bare (D := D) root).History (fun child => child.Built ∧ child.Supervised) Calm
      trace host) :
    ∀ node ∈ host.root.preorder, node.last ≠ some .running → node.Everywhere Node.Rests := by
  intro node member idle
  obtain ⟨path, leads⟩ := (Node.mem_preorder_iff host.root node).1 member
  exact Node.rests_everywhere ((history.coherent built supervised).2.below leads) idle

end Host

/-- The sample watches its operation, so it never leaves it behind. -/
theorem Sample.supervised : Sample.root.Supervised := by
  refine Node.everywhere_mk (fun dangles => nomatch dangles) fun node member => ?_
  rw [List.mem_singleton.1 member]
  exact Node.everywhere_mk (fun dangles => nomatch dangles) fun _ member => nomatch member

/-- Once the sample root has failed, all of it is at rest. -/
theorem Host.rests_below_stopped :
    Sample.stopped.last = some .failure ∧ Sample.stopped.Everywhere Node.Rests := by
  have rests := rests_below_idle Sample.built Sample.supervised
    (Sample.history_stopped fun status => ⟨status, rfl⟩)
  have here : Sample.stopped ∈ Sample.stopped.preorder :=
    (Node.mem_preorder_iff _ _).2 ⟨[], rfl⟩
  exact ⟨rfl, rests Sample.stopped here (by decide)⟩

end Behavior
