import Behavior.Proofs.Node.Built
import Behavior.Proofs.Node.Numbering
import Behavior.Proofs.Touch.Evolution
import Behavior.Tree.Basic

namespace Behavior

variable {A : Agent} {D : Type}

/-- A host is a node on its own or a tree with a root. -/
inductive Host (A : Agent) (D : Type) where
  | bare (node : Node A)
  | planted (tree : Tree A D)

def Host.root : Host A D → Node A
  | bare node => node
  | planted tree => tree.root

/-- An order is what the owner of a tree may ask of it. -/
inductive Order (D : Type) where
  | tick (deltaTime : Float32)
  | reset
  | abort
  | setSink (sink : Sink D)
  | clearSink

def Order.isTick : Order D → Bool
  | tick _ => true
  | _ => false

/-- A tree obeys an order. Only a tick gives a status. -/
def Tree.obey (tree : Tree A D) : Order D → Run A D (Attempt (Tree A D) (Option Status))
  | .tick deltaTime => do
      let ticked ← tree.tick deltaTime
      pure ⟨ticked.after, ticked.result.map some⟩
  | .reset => do
      let tree ← tree.reset
      pure ⟨tree, .ok none⟩
  | .abort => do
      let aborted ← tree.abort
      pure ⟨aborted.after, aborted.result.map fun _ => none⟩
  | .setSink sink => pure ⟨tree.setSink sink, .ok none⟩
  | .clearSink => pure ⟨tree.clearSink, .ok none⟩

/-- A tree that has been built is numbered and has neither ticked nor got a sink of its own. -/
theorem Tree.eq_of_build {root : Node A} {tree : Tree A D} {settings : Settings} {before after : Stage A D}
    {trace : Trace A} (builds : (Tree.build root settings).Leads before trace (.ok tree) after) :
    tree = ⟨settings.name, (root.number.run 0).1, settings, 0,
      if settings.traceTicks then some .recording else none⟩ := by
  unfold Tree.build at builds
  split at builds
  · obtain ⟨contrary, _⟩ := Run.leads_pure.1 builds
    cases contrary
  · obtain ⟨_, _, _, _, _, ended, rfl⟩ := Run.leads_bind.1 builds
    exact Except.ok.inj (Run.leads_pure.1 ended).1

namespace Host

/-- A root tick evaluates a node on its own with any clock and sink, or a whole tree. -/
inductive Ticks : Host A D → Trace A → Except Panic Status → Host A D → Prop
  | bare {context : Context D} {node changed : Node A} {before after : Stage A D}
      {trace : Trace A} {result : Except Panic Status} (rooted : context.place = Tree.rootPlace)
      (ticks : (node.tick context).Leads before trace ⟨changed, result⟩ after) :
      Ticks (.bare node) trace result (.bare changed)
  | planted {tree changed : Tree A D} {deltaTime : Float32} {before after : Stage A D}
      {trace : Trace A} {result : Except Panic Status}
      (ticks : (tree.tick deltaTime).Leads before trace ⟨changed, result⟩ after) :
      Ticks (.planted tree) trace result (.planted changed)

/-- A step is one use of a host. Only a node on its own gets more children. -/
inductive Steps (adds : Node A → Prop) :
    Host A D → Trace A → Except Panic (Option Status) → Host A D → Prop
  | ticked {context : Context D} {node changed : Node A} {before after : Stage A D}
      {trace : Trace A} {result : Except Panic Status} (rooted : context.place = Tree.rootPlace)
      (ticks : (node.tick context).Leads before trace ⟨changed, result⟩ after) :
      Steps adds (.bare node) trace (result.map some) (.bare changed)
  | reset {node changed : Node A} {before after : Stage A D} {trace : Trace A}
      (resets : (node.reset Tree.rootPlace).Leads before trace changed after) :
      Steps adds (.bare node) trace (.ok none) (.bare changed)
  | aborted {node changed : Node A} {before after : Stage A D} {trace : Trace A}
      (aborts : (node.abort Tree.rootPlace).Leads before trace changed after) :
      Steps adds (.bare node) trace (.ok none) (.bare changed)
  | extended {node child changed : Node A} (fresh : adds child)
      (accepted : node.addChild child = .ok changed) :
      Steps adds (.bare node) [] (.ok none) (.bare changed)
  | planted {node : Node A} {settings : Settings} {tree : Tree A D} {before after : Stage A D}
      {trace : Trace A} (builds : (Tree.build node settings).Leads before trace (.ok tree) after) :
      Steps adds (.bare node) trace (.ok none) (.planted tree)
  | obeyed {tree changed : Tree A D} {order : Order D} {before after : Stage A D}
      {trace : Trace A} {result : Except Panic (Option Status)}
      (obeys : (tree.obey order).Leads before trace ⟨changed, result⟩ after) :
      Steps adds (.planted tree) trace result (.planted changed)

/-- A calm step has not been cut short by a panic. -/
def Calm (result : Except Panic (Option Status)) : Prop := ∃ status, result = .ok status

theorem calm_ok (status : Option Status) : Calm (.ok status) := ⟨status, rfl⟩

/-- A history leads from a host through steps that end as they may. -/
inductive History (adds : Node A → Prop) (ends : Except Panic (Option Status) → Prop)
    (start : Host A D) : Trace A → Host A D → Prop
  | start : History adds ends start [] start
  | step {middle final : Host A D} {earlier later : Trace A} {result : Except Panic (Option Status)}
      (history : History adds ends start earlier middle)
      (steps : middle.Steps adds later result final) (allowed : ends result) :
      History adds ends start (earlier ++ later) final

/-- A step of a host lets its root evolve, gives it another child, or numbers it. -/
inductive RootSteps (D : Type) (adds : Node A → Prop) :
    Node A → Trace A → Except Panic (Option Status) → Node A → Prop
  | evolved {context : Context D} {node changed : Node A} {touches : List Touch} {trace : Trace A}
      {result : Except Panic (Option Status)} (rooted : context.place = Tree.rootPlace)
      (evolves : node.Evolves context touches trace changed)
      (calm : Calm result → ∀ touch ∈ touches, touch.Calm) :
      RootSteps D adds node trace result changed
  | extended {node child changed : Node A} (fresh : adds child)
      (accepted : node.addChild child = .ok changed) :
      RootSteps D adds node [] (.ok none) changed
  | numbered {node changed : Node A} {trace : Trace A}
      (same : changed.unnumbered = node.unnumbered) (written : trace.Written Tree.rootPlace) :
      RootSteps D adds node trace (.ok none) changed

/-- A calm result is one without a panic. -/
theorem ok_of_calm {Value : Type} {result : Except Panic Value} {change : Value → Option Status}
    (calm : Calm (result.map change)) : ∃ value, result = .ok value := by
  cases result with
  | ok value => exact ⟨value, rfl⟩
  | error =>
      obtain ⟨_, contrary⟩ := calm
      cases contrary

variable {adds : Node A → Prop} {before after : Stage A D} {trace : Trace A}

/-- A tree that ticks lets its root evolve by the tick, and by a reset if the root has finished. -/
theorem evolves_of_tick {tree changed : Tree A D} {deltaTime : Float32}
    {result : Except Panic Status}
    (ticks : (tree.tick deltaTime).Leads before trace ⟨changed, result⟩ after) :
    ∃ touches, tree.root.Evolves (tree.context (tree.settings.clamp deltaTime)) touches trace
        changed.root ∧
      (touches = [.ticked result] ∨
        ∃ status, result = .ok status ∧ status ≠ .running ∧ touches = [.ticked result, .reset]) := by
  obtain ⟨⟨root, returned⟩, _, _, _, ticked, ended, rfl⟩ := Run.leads_bind.1 ticks
  match returned with
  | .error panic =>
      obtain ⟨rfl, rfl, rfl, rfl⟩ := Run.leads_attempt.1 ended
      rw [List.append_nil]
      exact ⟨_, .single (.ticked ticked), .inl rfl⟩
  | .ok status =>
      obtain ⟨_, _, _, _, wrote, followed, rfl⟩ := Run.leads_bind.1 ended
      obtain ⟨rfl, rfl⟩ := Run.leads_write.1 wrote
      dsimp only at followed
      split at followed
      case isTrue completed =>
        obtain ⟨cleared, resets, rfl, rfl⟩ := Run.leads_bind_attempt.1 followed
        have resetting : root.Evolves (tree.context (tree.settings.clamp deltaTime)) [.reset] _
          cleared := .single (.reset resets)
        exact ⟨_, .touched (.ticked ticked) (.wrote _ resetting),
          .inr ⟨status, rfl, completed.1, rfl⟩⟩
      case isFalse =>
        obtain ⟨rfl, rfl, rfl, rfl⟩ := Run.leads_attempt.1 followed
        exact ⟨_, .touched (.ticked ticked) (.wrote _ .done), .inl rfl⟩

/-- A reset of the root is one of its steps. -/
theorem rootSteps_of_reset {node changed : Node A}
    (resets : (node.reset Tree.rootPlace).Leads before trace changed after) :
    RootSteps D adds node trace (.ok none) changed := by
  have renewing : node.Evolves ⟨.zero, none, Tree.rootPlace⟩ [.reset] trace changed :=
    .single (.reset resets)
  exact .evolved rfl renewing fun _ => by simp [Touch.Calm]

/-- A tree that obeys lets its root evolve. The time that passes is the clamped delta time of a tick,
or none. -/
theorem passes_of_obey {tree changed : Tree A D} {order : Order D}
    {result : Except Panic (Option Status)}
    (obeys : (tree.obey order).Leads before trace ⟨changed, result⟩ after) :
    ∃ (deltaTime : Float32) (touches : List Touch),
      tree.root.Evolves (tree.context deltaTime) touches trace changed.root ∧
        (deltaTime = 0 ∨ ∃ given, deltaTime = tree.settings.clamp given) ∧
          touches.countP Touch.isTicked ≤ (if order.isTick then 1 else 0) ∧
            (Calm result → ∀ touch ∈ touches, touch.Calm) := by
  cases order with
  | tick given =>
      obtain ⟨⟨_, _⟩, ticks, rfl, rfl⟩ := Run.leads_bind_attempt.1 obeys
      obtain ⟨touches, evolves, shape⟩ := evolves_of_tick ticks
      refine ⟨_, touches, evolves, .inr ⟨given, rfl⟩, ?_, fun calm => ?_⟩
      · rcases shape with rfl | ⟨_, _, _, rfl⟩ <;> exact Nat.le_refl 1
      · have returned := ok_of_calm calm
        rcases shape with rfl | ⟨_, _, _, rfl⟩ <;> simpa [Touch.Calm] using returned
  | reset =>
      obtain ⟨_, renewed, rfl, rfl⟩ := Run.leads_bind_attempt.1 obeys
      obtain ⟨_, resets, rfl⟩ := Run.leads_bind_pure.1 renewed
      have renewing : tree.root.Evolves (tree.context 0) [.reset] trace _ := .single (.reset resets)
      exact ⟨0, _, renewing, .inl rfl, Nat.le_refl 0, fun _ => by simp [Touch.Calm]⟩
  | abort =>
      obtain ⟨⟨_, _⟩, stopped, rfl, rfl⟩ := Run.leads_bind_attempt.1 obeys
      obtain ⟨⟨_, _⟩, aborts, rfl, rfl⟩ := Run.leads_bind_attempt.1 stopped
      refine ⟨0, _, .single (.aborted aborts), .inl rfl, Nat.le_refl 0, fun calm => ?_⟩
      obtain ⟨_, returned⟩ := ok_of_calm calm
      simpa [Touch.Calm] using returned
  | setSink | clearSink =>
      obtain ⟨rfl, rfl, rfl, rfl⟩ := Run.leads_attempt.1 obeys
      have resting : tree.root.Evolves (tree.context 0) [] [] tree.root := .done
      exact ⟨0, _, resting, .inl rfl, Nat.le_refl 0, fun _ => by simp⟩

/-- A tree that obeys lets its root evolve. -/
theorem evolves_of_obey {tree changed : Tree A D} {order : Order D}
    {result : Except Panic (Option Status)}
    (obeys : (tree.obey order).Leads before trace ⟨changed, result⟩ after) :
    ∃ (context : Context D) (touches : List Touch), context.place = Tree.rootPlace ∧
      context.sink = tree.sink ∧ tree.root.Evolves context touches trace changed.root ∧
        (Calm result → ∀ touch ∈ touches, touch.Calm) := by
  obtain ⟨_, _, evolves, _, _, calm⟩ := passes_of_obey obeys
  exact ⟨_, _, rfl, rfl, evolves, calm⟩

/-- Whatever a tree obeys, its root takes one step. -/
theorem rootSteps_of_obey {tree changed : Tree A D} {order : Order D}
    {result : Except Panic (Option Status)}
    (obeys : (tree.obey order).Leads before trace ⟨changed, result⟩ after) :
    RootSteps D adds tree.root trace result changed.root := by
  obtain ⟨_, _, rooted, _, evolves, calm⟩ := evolves_of_obey obeys
  exact .evolved rooted evolves calm

/-- A root tick that returns lets the root evolve by the tick, and by a reset if it has finished. -/
theorem Ticks.evolves {host next : Host A D} {status : Status}
    (ticks : host.Ticks trace (.ok status) next) :
    ∃ (context : Context D) (touches : List Touch), context.place = Tree.rootPlace ∧
      host.root.Evolves context touches trace next.root ∧
        (touches = [.ticked (.ok status)] ∨
          status ≠ .running ∧ touches = [.ticked (.ok status), .reset]) := by
  cases ticks with
  | bare rooted ticks => exact ⟨_, _, rooted, .single (.ticked ticks), .inl rfl⟩
  | planted ticks =>
      obtain ⟨touches, evolves, shape⟩ := evolves_of_tick ticks
      refine ⟨_, touches, rfl, evolves, shape.imp_right ?_⟩
      rintro ⟨_, same, finished, rfl⟩
      cases same
      exact ⟨finished, rfl⟩

/-- Every step of a host is one of these steps of its root. -/
theorem Steps.root {host next : Host A D} {result : Except Panic (Option Status)}
    (steps : host.Steps adds trace result next) :
    RootSteps D adds host.root trace result next.root := by
  cases steps with
  | ticked rooted ticks =>
      refine .evolved rooted (.single (.ticked ticks)) fun calm => ?_
      simpa [Touch.Calm] using ok_of_calm calm
  | reset resets =>
      exact rootSteps_of_reset resets
  | aborted aborts =>
      rw [Node.abort_eq_reset] at aborts
      exact rootSteps_of_reset aborts
  | extended fresh accepted => exact .extended fresh accepted
  | @planted node settings _ _ _ _ builds =>
      unfold Tree.build at builds
      split at builds
      · obtain ⟨contrary, _⟩ := Run.leads_pure.1 builds
        cases contrary
      · obtain ⟨_, _, _, _, wrote, ended, rfl⟩ := Run.leads_bind.1 builds
        obtain ⟨rfl, rfl⟩ := Run.leads_write.1 wrote
        obtain ⟨same, rfl, rfl⟩ := Run.leads_pure.1 ended
        obtain rfl := Except.ok.inj same
        exact .numbered (node.unnumbered_number 0) (Trace.written_nil.cons _)
  | obeyed obeys => exact rootSteps_of_obey obeys

/-- A root tick on a stage is a step of its host. -/
theorem steps_of_tick {adds : Node A → Prop} (node : Node A) (context : Context D)
    (rooted : context.place = Tree.rootPlace) (stage : Stage A D) :
    (Host.bare (D := D) node).Steps adds (node.tick context stage).trace
      ((node.tick context stage).value.result.map some)
      (.bare (node.tick context stage).value.after) :=
  .ticked rooted (Run.leads_self (node.tick context) stage)

end Host

namespace Sample

/-- A sample agent senses one flag. Its operations are completed when the flag is down. -/
def agent : Agent where
  State := Bool
  Predicate := Unit
  Action := Empty
  Starter := Unit
  Operation := Unit
  test _ flag := ⟨.ok flag, flag, []⟩
  act action := nomatch action
  start _ flag := ⟨.ok (), flag, []⟩
  poll _ flag := ⟨.not flag, flag, []⟩
  take _ flag := ⟨true, flag, []⟩
  cancel _ flag := ⟨(), flag, []⟩

/-- The sample root watches the flag during an operation. -/
def root : Node agent := .reactiveGuard (A := agent) () (.asyncAction (A := agent) ())

def context : Context Unit := ⟨.zero, some .silent, Tree.rootPlace⟩

def ticked (node : Node agent) (flag : Bool) : Outcome agent Unit (Attempt (Node agent) Status) :=
  node.tick context ⟨flag, ()⟩

/-- With the flag up the operation is started and waited for. -/
def waiting : Node agent := (ticked root true).value.after

/-- With the flag down it is aborted. -/
def stopped : Node agent := (ticked waiting false).value.after

theorem built : root.Built := .reactiveGuard _ (.asyncAction _)

variable {adds : Node agent → Prop} {ends : Except Panic (Option Status) → Prop}

/-- The sample gets to wait in one tick. -/
theorem history_waiting (calm : ∀ status, ends (.ok status)) :
    (Host.bare (D := Unit) root).History adds ends (ticked root true).trace (.bare waiting) := by
  have ticks : (Host.bare (D := Unit) root).Steps adds _ _ _ :=
    Host.steps_of_tick root context rfl ⟨true, ()⟩
  have history := Host.History.step .start ticks (calm (some .running))
  rwa [List.nil_append] at history

/-- One more tick stops the sample. -/
theorem history_stopped (calm : ∀ status, ends (.ok status)) :
    (Host.bare (D := Unit) root).History adds ends
      ((ticked root true).trace ++ (ticked waiting false).trace) (.bare stopped) :=
  .step (history_waiting calm) (Host.steps_of_tick waiting context rfl ⟨false, ()⟩)
    (calm (some .failure))

end Sample

end Behavior
