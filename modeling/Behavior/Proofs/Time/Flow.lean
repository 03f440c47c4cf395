import Behavior.Proofs.Time.Ageing
import Behavior.Proofs.Time.Frames

namespace Behavior

open Binary (le_refl_of_number le_trans le_of_lt le_of_not_lt number_of_le number_of_finite)

variable {A : Agent} {D : Type}

namespace Settings

variable {settings : Settings}

/-- Settings admit a delta time that is not negative and within their bound. -/
def Admits (settings : Settings) (deltaTime : Float32) : Prop :=
  0 ≤ deltaTime ∧ ∀ most, settings.maxDeltaTime = some most → deltaTime ≤ most

/-- The bound of valid settings is finite and positive. -/
theorem bounded_of_validate (valid : settings.validate = .ok ()) {most : Float32}
    (bound : settings.maxDeltaTime = some most) : most.isFinite ∧ 0 < most := by
  rw [validate, bound] at valid
  dsimp only at valid
  split at valid
  case isTrue bounded => exact bounded
  case isFalse => cases valid

/-- Valid settings admit a tick that takes no time. -/
theorem admits_zero (valid : settings.validate = .ok ()) : settings.Admits 0 :=
  ⟨Decorator.zero_le_zero, fun _ bound => le_of_lt (bounded_of_validate valid bound).2⟩

/-- Whatever is given for a delta time is clamped to an admitted one. -/
theorem admits_clamp (valid : settings.validate = .ok ()) (given : Float32) :
    settings.Admits (settings.clamp given) := by
  have least : 0 ≤ if 0 < given then given else 0 := by
    split
    case isTrue positive => exact le_of_lt positive
    case isFalse => exact Decorator.zero_le_zero
  rw [clamp]
  generalize (if 0 < given then given else 0) = elapsed at least
  cases bound : settings.maxDeltaTime with
  | none => exact ⟨least, fun _ contrary => nomatch bound.symm.trans contrary⟩
  | some most =>
      obtain ⟨finite, positive⟩ := bounded_of_validate valid bound
      have known := number_of_finite finite
      dsimp only
      split
      case isTrue =>
        refine ⟨le_of_lt positive, fun other same => ?_⟩
        obtain rfl := Option.some.inj (bound.symm.trans same)
        exact le_refl_of_number known
      case isFalse within =>
        refine ⟨least, fun other same => ?_⟩
        obtain rfl := Option.some.inj (bound.symm.trans same)
        exact le_of_not_lt (number_of_le least).2 known within

end Settings

namespace Node

/-- Whatever has been built only has measured nothing. -/
theorem timely_pristine (node : Node A) (valid : node.pristine.Valid) : node.pristine.Timely := by
  rw [Valid, body_pristine] at valid
  rw [Timely, body_pristine]
  generalize node.body.map pristine = body at valid
  cases body with
  | leaf | choice | composite => trivial
  | decorator own child =>
      cases own with
      | timeout limit => exact ⟨valid, Decorator.zero_le_zero, .inl rfl⟩
      | cooldown period => exact ⟨valid, valid.2⟩
      | _ => trivial

/-- What has been built is timely. -/
theorem Built.timely {root : Node A} (built : root.Built) : root.Everywhere Timely := by
  have timely : root.pristine.Everywhere fun node => node.Valid → node.Timely :=
    descends_pristine.everywhere timely_pristine root
  rw [built.pristine] at timely
  exact fun part member => timely part member (built.valid part member)

/-- Numbers have nothing to do with time. -/
theorem timely_unnumbered (node : Node A) : node.unnumbered.Timely ↔ node.Timely := by
  rw [Timely, Timely, body_unnumbered, Body.timely_map]

end Node

/-- A quiet order installs no sink that panics. -/
def Order.Quiet : Order D → Prop
  | setSink sink => sink.Quiet
  | _ => True

theorem Order.quiet_tick (deltaTime : Float32) : (Order.tick (D := D) deltaTime).Quiet := trivial

theorem Sink.quiet_recording : (Sink.recording (D := D)).Quiet := ⟨fun _ _ => rfl, fun _ => rfl⟩

namespace Tree

variable {tree changed final : Tree A D} {order : Order D} {before after : Stage A D}
  {trace : Trace A} {result : Except Panic (Option Status)} {path : Place}

/-- An order keeps the settings. The sink is the one before it, unless the order installs it. -/
theorem kept_of_obey (obeys : (tree.obey order).Leads before trace ⟨changed, result⟩ after) :
    changed.settings = tree.settings ∧
      ∀ sink ∈ changed.sink, sink ∈ tree.sink ∨ order = .setSink sink := by
  cases order with
  | tick deltaTime =>
      obtain ⟨⟨_, _⟩, ticks, rfl, _⟩ := Run.leads_bind_attempt.1 obeys
      obtain ⟨⟨root, returned⟩, _, _, _, _, ended, _⟩ := Run.leads_bind.1 ticks
      match returned with
      | .error panic =>
          obtain ⟨rfl, _⟩ := Run.leads_attempt.1 ended
          exact ⟨rfl, fun _ => .inl⟩
      | .ok status =>
          obtain ⟨_, _, _, _, _, followed, _⟩ := Run.leads_bind.1 ended
          dsimp only at followed
          split at followed
          · obtain ⟨_, _, rfl, _⟩ := Run.leads_bind_attempt.1 followed
            exact ⟨rfl, fun _ => .inl⟩
          · obtain ⟨rfl, _⟩ := Run.leads_attempt.1 followed
            exact ⟨rfl, fun _ => .inl⟩
  | reset =>
      obtain ⟨_, renewed, rfl, _⟩ := Run.leads_bind_attempt.1 obeys
      obtain ⟨_, _, rfl⟩ := Run.leads_bind_pure.1 renewed
      exact ⟨rfl, fun _ => .inl⟩
  | abort =>
      obtain ⟨⟨_, _⟩, stopped, rfl, _⟩ := Run.leads_bind_attempt.1 obeys
      obtain ⟨⟨_, _⟩, _, rfl, _⟩ := Run.leads_bind_attempt.1 stopped
      exact ⟨rfl, fun _ => .inl⟩
  | setSink sink =>
      obtain ⟨rfl, _⟩ := Run.leads_attempt.1 obeys
      exact ⟨rfl, fun _ installed => .inr (congrArg Order.setSink (Option.some.inj installed))⟩
  | clearSink =>
      obtain ⟨rfl, _⟩ := Run.leads_attempt.1 obeys
      exact ⟨rfl, fun _ installed => nomatch installed⟩

/-- Time flows in a tree with valid settings, a quiet sink if any, and timely nodes. -/
structure Flows (tree : Tree A D) : Prop where
  valid : tree.settings.validate = .ok ()
  quiet : ∀ sink ∈ tree.sink, sink.Quiet
  timely : tree.root.Everywhere Node.Timely

/-- Time flows in a tree from its building on. -/
theorem flows_of_build {root : Node A} {settings : Settings} {building : Trace A}
    (built : root.Built) (builds : (build root settings).Leads before building (.ok tree) after) :
    tree.Flows := by
  have valid : settings.validate = .ok () := by
    unfold build at builds
    split at builds
    case h_1 =>
      obtain ⟨contrary, _⟩ := Run.leads_pure.1 builds
      cases contrary
    case h_2 accepted => exact accepted
  obtain rfl := eq_of_build builds
  refine ⟨valid, fun sink installed => ?_, ?_⟩
  · dsimp only at installed
    split at installed
    · obtain rfl := Option.some.inj installed
      exact Sink.quiet_recording
    · cases installed
  · rw [← Node.descends_unnumbered.everywhere_iff Node.timely_unnumbered, Node.unnumbered_number,
      Node.descends_unnumbered.everywhere_iff Node.timely_unnumbered]
    exact built.timely

/-- The root of a tree in which time flows evolves at an admitted time, under a quiet sink, and is
ticked at most once. -/
theorem Flows.passes (flows : tree.Flows)
    (obeys : (tree.obey order).Leads before trace ⟨changed, result⟩ after) :
    ∃ (deltaTime : Float32) (touches : List Touch),
      tree.root.Evolves (tree.context deltaTime) touches trace changed.root ∧
        (tree.context (A := A) deltaTime).Onward ∧ tree.settings.Admits deltaTime ∧
          touches.countP Touch.isTicked ≤ if order.isTick then 1 else 0 := by
  obtain ⟨deltaTime, touches, evolves, passed, once, _⟩ := Host.passes_of_obey obeys
  have admitted : tree.settings.Admits deltaTime := by
    obtain rfl | ⟨given, rfl⟩ := passed
    · exact Settings.admits_zero flows.valid
    · exact Settings.admits_clamp flows.valid given
  exact ⟨deltaTime, touches, evolves, ⟨admitted.1, flows.quiet⟩, admitted, once⟩

/-- Time goes on flowing, however an order ends. -/
theorem Flows.obey (flows : tree.Flows) (quiet : order.Quiet)
    (obeys : (tree.obey order).Leads before trace ⟨changed, result⟩ after) : changed.Flows := by
  obtain ⟨settings, sinks⟩ := kept_of_obey obeys
  obtain ⟨deltaTime, touches, evolves, onward, _, _⟩ := flows.passes obeys
  refine ⟨by rw [settings]; exact flows.valid, fun sink installed => ?_, ?_⟩
  · rcases sinks sink installed with old | rfl
    · exact flows.quiet sink old
    · exact quiet
  · exact evolves.everywhere_of_admits Context.Onward (fun onward => onward.child _)
      (fun onward undergoes => undergoes.timely onward) onward flows.timely

/-- A tree becomes what quiet orders make of it, however these end. -/
inductive Becomes (start : Tree A D) : Tree A D → Prop
  | start : Becomes start start
  | obeyed {tree changed : Tree A D} {order : Order D} {before after : Stage A D} {trace : Trace A}
      {result : Except Panic (Option Status)} (becomes : Becomes start tree) (quiet : order.Quiet)
      (obeys : (tree.obey order).Leads before trace ⟨changed, result⟩ after) :
      Becomes start changed

/-- Time goes on to flow through quiet orders. -/
theorem Becomes.flows (becomes : tree.Becomes final) (flows : tree.Flows) : final.Flows := by
  induction becomes with
  | start => exact flows
  | obeyed _ quiet obeys inductionHypothesis => exact inductionHypothesis.obey quiet obeys

/-- No order changes the settings. -/
theorem Becomes.settings (becomes : tree.Becomes final) : final.settings = tree.settings := by
  induction becomes with
  | start => rfl
  | obeyed _ _ obeys inductionHypothesis => exact (kept_of_obey obeys).1.trans inductionHypothesis

/-- The node at a path is running. -/
def RunningAt (tree : Tree A D) (path : Place) : Prop :=
  ∃ part, tree.root.descendant? path = some part ∧ part.last = some .running

/-- A node stays running if it is running after each order, and none of these resets or aborts it. -/
inductive StaysRunning (path : Place) (start : Tree A D) : Tree A D → Prop
  | start (running : start.RunningAt path) : StaysRunning path start start
  | obeyed {tree changed : Tree A D} {order : Order D} {before after : Stage A D} {trace : Trace A}
      {result : Except Panic (Option Status)} (stays : StaysRunning path start tree)
      (quiet : order.Quiet) (obeys : (tree.obey order).Leads before trace ⟨changed, result⟩ after)
      (kept : .cleared ∉ trace.signsAt path) (running : changed.RunningAt path) :
      StaysRunning path start changed

/-- Every clock that is told of has an admitted delta time. -/
theorem Flows.told (flows : tree.Flows)
    (obeys : (tree.obey order).Leads before trace ⟨changed, result⟩ after) :
    ∀ entry ∈ trace, ∀ clock ∈ entry.event.clock?, tree.settings.Admits clock.deltaTime := by
  obtain ⟨deltaTime, touches, evolves, _, admitted, _⟩ := flows.passes obeys
  intro entry member clock told
  rw [evolves.keepsTo entry member clock told]
  exact admitted

/-- An order lets a timeout that stays running measure no less than before. -/
theorem Flows.ages (flows : tree.Flows)
    (obeys : (tree.obey order).Leads before trace ⟨changed, result⟩ after) {part : Node A}
    {elapsed : Float32} (leads : tree.root.descendant? path = some part)
    (measured : part.elapsed? = some elapsed) :
    ∃ next later, changed.root.descendant? path = some next ∧ next.elapsed? = some later ∧
      (part.last = some .running → next.last = some .running → .cleared ∉ trace.signsAt path →
        elapsed ≤ later) := by
  obtain ⟨deltaTime, touches, evolves, onward, _, once⟩ := flows.passes obeys
  obtain ⟨next, led, ages⟩ := Node.composes_ages.evolves Context.Onward
    (fun onward => onward.child _) (fun onward undergoes => undergoes.ages onward) onward evolves leads
  obtain ⟨_, found, told⟩ := Node.accumulates_status.evolves evolves leads
  obtain rfl := Option.some.inj (led.symm.trans found)
  have returns := evolves.length_returnsAt leads
  have stands : path ++ (tree.context (A := A) deltaTime).place = path := List.append_nil path
  rw [stands] at ages told returns
  obtain ⟨_, measures⟩ := ages (flows.timely.descendant leads)
  obtain ⟨later, kept, grows⟩ := measures elapsed measured
  refine ⟨next, later, led, kept, fun running still uncleared => ?_⟩
  have most : (trace.returnsAt path).length ≤ 1 := by
    split at once <;> omega
  exact (grows running (runsOn_of_statusAfter most uncleared (told.symm.trans still))).2

/-- An order leaves a cooldown no more time than before, unless it is a tick in which its child returns
success. -/
theorem Flows.cools (flows : tree.Flows)
    (obeys : (tree.obey order).Leads before trace ⟨changed, result⟩ after) {part : Node A}
    {remaining : Float32} (leads : tree.root.descendant? path = some part)
    (left : part.remaining? = some remaining) :
    ∃ next later, changed.root.descendant? path = some next ∧ next.remaining? = some later ∧
      (later ≤ remaining ∨ order.isTick = true ∧ .success ∈ trace.returnsAt (0 :: path)) := by
  obtain ⟨deltaTime, touches, evolves, onward, _, once⟩ := flows.passes obeys
  obtain ⟨next, led, cools⟩ := Node.spans_cools.evolves Context.Onward
    (fun onward => onward.child _) (fun onward undergoes => undergoes.cools onward) onward evolves leads
  have stands (path : Place) : path ++ (tree.context (A := A) deltaTime).place = path :=
    List.append_nil path
  rw [stands] at cools
  obtain ⟨_, waits⟩ := cools (flows.timely.descendant leads)
  obtain ⟨later, kept, less | succeeds⟩ := waits remaining left
  · exact ⟨next, later, led, kept, .inl less⟩
  · rw [Trace.returnsAt_within (List.suffix_cons 0 path)] at succeeds
    obtain ⟨_, child, own⟩ := Node.body_of_remaining? left
    have below : tree.root.descendant? (0 :: path) = some child := by
      rw [Node.descendant?_cons, leads, Option.bind_some, Node.children, own]
      rfl
    have returns := evolves.length_returnsAt below
    rw [stands] at returns
    have some := List.length_pos_of_mem succeeds
    have ticks : order.isTick = true := by
      split at once
      case isTrue ticks => exact ticks
      case isFalse => omega
    exact ⟨next, later, led, kept, .inr ⟨ticks, succeeds⟩⟩

/-- What a timeout has measured does not shrink while it stays running. -/
theorem StaysRunning.ages (stays : tree.StaysRunning path final) (flows : tree.Flows)
    {part : Node A} {elapsed : Float32} (leads : tree.root.descendant? path = some part)
    (measured : part.elapsed? = some elapsed) :
    final.RunningAt path ∧ final.Flows ∧ ∃ next later, final.root.descendant? path = some next ∧
      next.elapsed? = some later ∧ elapsed ≤ later := by
  induction stays with
  | start running =>
      have same := (Node.le_self_of_elapsed? (flows.timely.descendant leads) measured).2
      exact ⟨running, flows, part, elapsed, leads, measured, same⟩
  | obeyed _ quiet obeys kept running inductionHypothesis =>
      obtain ⟨⟨middle, found, before⟩, flowing, next, later, led, measured, below⟩ :=
        inductionHypothesis
      obtain rfl := Option.some.inj (led.symm.trans found)
      obtain ⟨last, most, led, measured, grows⟩ := flowing.ages obeys led measured
      obtain ⟨final, found, still⟩ := running
      obtain rfl := Option.some.inj (led.symm.trans found)
      exact ⟨⟨last, led, still⟩, flowing.obey quiet obeys, last, most, led, measured,
        le_trans below (grows before still kept)⟩

/-- A tree is built from a root that has never been ticked, and becomes something by ticks with any delta
times, resets and aborts, each of which a panic of the agent may cut short. Then its timeouts have
measured nothing or something below their limits, and its cooldowns have at most their periods left.
Whatever it does next, its nodes are told of an admitted delta time, and a cooldown has no more time left
than before unless a tick lets its child return success. And what a timeout has measured does not
shrink as long as it stays running. -/
theorem time_never_rewinds {root : Node A} {settings : Settings} {tree final : Tree A D}
    {before after : Stage A D} {building : Trace A} (built : root.Built)
    (builds : (build root settings).Leads before building (.ok tree) after)
    (becomes : tree.Becomes final) :
    (∀ part ∈ final.root.preorder, ∀ limit elapsed child,
      part.body = .decorator (.timeout limit elapsed) child →
        elapsed.isNaN = false ∧ 0 ≤ elapsed ∧ (elapsed = 0 ∨ elapsed < limit)) ∧
    (∀ part ∈ final.root.preorder, ∀ period remaining child,
      part.body = .decorator (.cooldown period remaining) child →
        remaining.isNaN = false ∧ remaining ≤ period) ∧
    (∀ (order : Order D) (before after : Stage A D) (trace : Trace A) (changed : Tree A D)
      (result : Except Panic (Option Status)),
        (final.obey order).Leads before trace ⟨changed, result⟩ after →
          (∀ entry ∈ trace, ∀ clock ∈ entry.event.clock?,
            clock.deltaTime.isNaN = false ∧ 0 ≤ clock.deltaTime ∧
              ∀ most, settings.maxDeltaTime = some most → clock.deltaTime ≤ most) ∧
          ∀ path part remaining, final.root.descendant? path = some part →
            part.remaining? = some remaining →
              ∃ next later, changed.root.descendant? path = some next ∧
                next.remaining? = some later ∧
                  (later ≤ remaining ∨
                    order.isTick = true ∧ .success ∈ trace.returnsAt (0 :: path))) ∧
    ∀ path last part elapsed, final.StaysRunning path last →
      final.root.descendant? path = some part → part.elapsed? = some elapsed →
        ∃ next later, last.root.descendant? path = some next ∧ next.elapsed? = some later ∧
          elapsed ≤ later := by
  have settled : final.settings = settings := by
    rw [becomes.settings, eq_of_build builds]
  have flows := becomes.flows (flows_of_build built builds)
  refine ⟨?timeouts, ?cooldowns, ?orders, ?running⟩
  case timeouts =>
    intro part member limit elapsed child own
    have timely := flows.timely part member
    rw [Node.Timely, own] at timely
    exact ⟨(number_of_le timely.2.1).2, timely.2⟩
  case cooldowns =>
    intro part member period remaining child own
    have timely := flows.timely part member
    rw [Node.Timely, own] at timely
    exact ⟨(number_of_le timely.2).1, timely.2⟩
  case orders =>
    intro order before after trace changed result obeys
    refine ⟨fun entry member clock told => ?_, ?_⟩
    · have admitted := flows.told obeys entry member clock told
      rw [settled] at admitted
      exact ⟨(number_of_le admitted.1).2, admitted⟩
    · exact fun path part remaining leads left => flows.cools obeys leads left
  case running =>
    intro path last part elapsed stays leads measured
    exact (stays.ages flows leads measured).2.2

end Tree

namespace Sample

/-- The chore is given up after two seconds, and rests for one after each success. -/
def vigil : Node crew :=
  .ofBody (.decorator (.timeout 2 0) (.ofBody (.decorator (.cooldown 1 0) chore)))

theorem built_vigil : vigil.Built := by
  have rested : Node.cooldown 1 chore = .ok (.ofBody (.decorator (.cooldown 1 0) chore)) :=
    if_pos ⟨rfl, by decide +kernel⟩
  have limited : Node.timeout 2 (.ofBody (.decorator (.cooldown 1 0) chore)) = .ok vigil :=
    if_pos ⟨rfl, by decide +kernel⟩
  exact .timeout limited (.cooldown rested (.invert (.action _)))

/-- At most one second of each tick counts. -/
def patience : Settings := { Settings.standard with maxDeltaTime := some 1 }

def outpost : Tree crew Unit := ⟨"main", (vigil.number.run 0).1, patience, 0, none⟩

/-- The crew is busy during a tick of five seconds, and during one that would go back in time. -/
def outpostAtNoon : Tree crew Unit := (outpost.obey (.tick 5) ⟨true, ()⟩).value.after

def outpostAtDusk : Tree crew Unit := (outpostAtNoon.obey (.tick (-1)) ⟨true, ()⟩).value.after

theorem stays_outpost : outpostAtNoon.StaysRunning [] outpostAtDusk := by
  have obeys := Run.leads_self (outpostAtNoon.obey (.tick (-1))) ⟨true, ()⟩
  have kept : .cleared ∉ (outpostAtNoon.obey (.tick (-1)) ⟨true, ()⟩).trace.signsAt [] := by
    decide +kernel
  exact .obeyed (.start ⟨_, rfl, rfl⟩) (Order.quiet_tick _) obeys kept ⟨_, rfl, rfl⟩

end Sample

/-- One second has passed at noon, and no less at dusk. -/
theorem Tree.outpost_never_rewinds :
    Sample.outpostAtNoon.root.elapsed? = some 1 ∧
      (∃ next later, Sample.outpostAtDusk.root.descendant? [] = some next ∧
        next.elapsed? = some later ∧ 1 ≤ later) ∧
      (∀ entry ∈ (Sample.outpostAtNoon.obey (.tick (-1)) ⟨true, ()⟩).trace,
        ∀ clock ∈ entry.event.clock?, 0 ≤ clock.deltaTime ∧ clock.deltaTime ≤ 1) ∧
      ∀ part ∈ Sample.outpostAtNoon.root.preorder, ∀ limit elapsed child,
        part.body = .decorator (.timeout limit elapsed) child →
          elapsed.isNaN = false ∧ 0 ≤ elapsed ∧ (elapsed = 0 ∨ elapsed < limit) := by
  have builds : (build (D := Unit) Sample.vigil Sample.patience).Leads ⟨true, ()⟩ _
      (.ok Sample.outpost) _ := Run.leads_self _ _
  have becomes : Sample.outpost.Becomes Sample.outpostAtNoon :=
    .obeyed .start (Order.quiet_tick _) (Run.leads_self (Sample.outpost.obey (.tick 5)) ⟨true, ()⟩)
  obtain ⟨timeouts, _, orders, running⟩ := time_never_rewinds Sample.built_vigil builds becomes
  obtain ⟨told, _⟩ := orders (.tick (-1)) _ _ _ _ _ (Run.leads_self _ ⟨true, ()⟩)
  refine ⟨rfl, running [] _ _ 1 Sample.stays_outpost rfl rfl, fun entry member clock given => ?_,
    timeouts⟩
  obtain ⟨_, least, most⟩ := told entry member clock given
  exact ⟨least, most 1 rfl⟩

end Behavior
