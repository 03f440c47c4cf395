import Behavior.Proofs.Reactive.Watching
import Mathlib.Data.List.DropRight

namespace Behavior

variable {A : Agent} {D : Type}

/-- A use is a tick of a node, or a reset or an abort of it, with the delta time that it is given and the
trace that it leaves. -/
structure Use (A : Agent) where
  deltaTime : Float32
  touch : Touch
  trace : Trace A

namespace Use

/-- The statuses that the first child of the node returns in the use. -/
def returns (place : Place) (use : Use A) : List Status := use.trace.returnsAt (0 :: place)

/-- A run goes on with a use in which the node returns running. Any other use ends it. -/
def runsOn (use : Use A) : Bool := use.touch.returned? == some .running

end Use

/-- The uses since a run has last ended. -/
def ongoing (uses : List (Use A)) : List (Use A) := uses.rtakeWhile Use.runsOn

section Runs

variable {uses : List (Use A)} {use : Use A}

@[simp] theorem ongoing_nil : ongoing ([] : List (Use A)) = [] := List.rtakeWhile_nil _

/-- A running tick continues the run. -/
theorem ongoing_of_running (running : use.touch = .ticked (.ok .running)) :
    ongoing (uses ++ [use]) = ongoing uses ++ [use] := by
  apply List.rtakeWhile_concat_pos
  rw [Use.runsOn, running]
  rfl

/-- A tick that finishes ends the run. -/
theorem ongoing_of_finished {status : Status} (ticked : use.touch = .ticked (.ok status))
    (finished : status ≠ .running) : ongoing (uses ++ [use]) = [] := by
  apply List.rtakeWhile_concat_neg
  rw [Use.runsOn, ticked]
  simpa [Touch.returned?] using finished

/-- A reset and an abort end the run. -/
theorem ongoing_of_cleared (clears : use.touch = .reset ∨ use.touch = .aborted (.ok ())) :
    ongoing (uses ++ [use]) = [] := by
  apply List.rtakeWhile_concat_neg
  rw [Use.runsOn]
  rcases clears with clears | clears <;> rw [clears] <;> exact Bool.false_ne_true

end Runs

namespace Node

/-- A diary of a node lists its uses, of which none has been cut short by a panic. In between, its owner
may number it. -/
inductive Diary (D : Type) (place : Place) (start : Node A) : List (Use A) → Node A → Prop
  | blank : Diary D place start [] start
  | used {context : Context D} {node changed : Node A} {touch : Touch} {uses : List (Use A)}
      {before after : Stage A D} {trace : Trace A} (diary : Diary D place start uses node)
      (stands : context.place = place)
      (undergoes : node.Undergoes context touch before trace changed after) (calm : touch.Calm) :
      Diary D place start (uses ++ [⟨context.clock.deltaTime, touch, trace⟩]) changed
  | numbered {node changed : Node A} {uses : List (Use A)} (diary : Diary D place start uses node)
      (same : changed.unnumbered = node.unnumbered) : Diary D place start uses changed

variable {place : Place} {start node changed child final : Node A} {uses : List (Use A)}
  {context : Context D} {own next : Decorator A} {touch : Touch} {before after : Stage A D}
  {trace : Trace A} {status : Status}

/-- What is a decorator before a touch is one after it. -/
theorem Undergoes.decorated
    (undergoes : node.Undergoes context touch before trace changed after)
    (shape : node.body = .decorator own child) :
    ∃ next final, changed.body = .decorator next final := by
  have shapes := shape_of_pristine undergoes.pristine
  rw [shape] at shapes
  generalize changed.body = body at shapes ⊢
  cases body with
  | leaf | choice | composite => cases shapes
  | decorator next final => exact ⟨next, final, rfl⟩

/-- The calm lives of a decorator are those of which there is a diary. -/
theorem lives_iff_diary {adds : Node A → Prop} (shape : start.body = .decorator own child) :
    (∃ past, start.Lives place adds (Touch.Calmly D) past node) ↔
      ∃ uses, start.Diary D place uses node := by
  constructor
  · rintro ⟨past, lives⟩
    suffices kept : (∃ uses, start.Diary D place uses node) ∧
        ∃ next final, node.body = .decorator next final from kept.1
    induction lives with
    | born => exact ⟨⟨[], .blank⟩, own, child, shape⟩
    | touched _ stands undergoes calm inductionHypothesis =>
        obtain ⟨⟨_, diary⟩, _, _, body⟩ := inductionHypothesis
        exact ⟨⟨_, diary.used stands undergoes calm⟩, undergoes.decorated body⟩
    | wrote _ _ inductionHypothesis => exact inductionHypothesis
    | extended _ _ accepted inductionHypothesis =>
        -- Only composites take more children.
        obtain ⟨_, _, _, body⟩ := inductionHypothesis
        obtain ⟨tag, composite, nodes, rfl, _⟩ := addChild_spec accepted
        cases body
    | numbered _ same inductionHypothesis =>
        obtain ⟨⟨_, diary⟩, _, _, body⟩ := inductionHypothesis
        obtain ⟨final, twin, _⟩ := decorator_of_unnumbered same.symm body
        exact ⟨⟨_, diary.numbered same⟩, _, final, twin⟩
  · rintro ⟨uses, diary⟩
    induction diary with
    | blank => exact ⟨[], .born⟩
    | used _ stands undergoes calm inductionHypothesis =>
        obtain ⟨_, lives⟩ := inductionHypothesis
        exact ⟨_, lives.touched stands undergoes calm⟩
    | numbered _ same inductionHypothesis =>
        obtain ⟨_, lives⟩ := inductionHypothesis
        exact ⟨_, lives.numbered same⟩

/-- A tick of a decorator that returns spares the child, aborts it, or ticks it once. In the last case the
decorator settles on what the child has returned, and may reset the child. -/
inductive Deals (context : Context D) (own : Decorator A) (child : Node A) (trace : Trace A) :
    Status → Decorator A → Node A → Prop
  | spared {answer : Bool} {next : Decorator A} {status : Status}
      (decided : own.decide context.clock answer child.isRunning = (next, .skip status))
      (entered : trace.entrances context.place = [])
      (returned : trace.returnsAt (0 :: context.place) = [])
      (written : (trace.within (0 :: context.place)).Written (0 :: context.place)) :
      Deals context own child trace status next child
  | aborted {answer : Bool} {next : Decorator A} {status : Status} {final : Node A}
      (decided : own.decide context.clock answer child.isRunning = (next, .abort status))
      (entered : trace.entrances context.place = [])
      (evolves : child.Evolves (context.child 0) [.aborted (.ok ())]
        (trace.within (0 :: context.place)) final) :
      Deals context own child trace status next final
  | ticked {answer : Bool} {next : Decorator A} {final : Node A} (inner : Status)
      (decided : own.decide context.clock answer child.isRunning = (next, .tick))
      (entered : trace.entrances context.place = [0])
      (returned : trace.returnsAt (0 :: context.place) = [inner])
      (keeps : (next.settle inner).resets = false) (last : final.last = some inner) :
      Deals context own child trace (next.settle inner).status (next.settle inner).own final
  | renewed {answer : Bool} {next : Decorator A} {final : Node A} (inner : Status)
      (decided : own.decide context.clock answer child.isRunning = (next, .tick))
      (entered : trace.entrances context.place = [0])
      (returned : trace.returnsAt (0 :: context.place) = [inner])
      (resets : (next.settle inner).resets = true) (idle : final.Everywhere Idle) :
      Deals context own child trace (next.settle inner).status (next.settle inner).own final

/-- Every tick of a decorator that returns deals with the child in one of these ways. -/
theorem deals_of_tick (shape : node.body = .decorator own child)
    (ticks : (node.tick context).Leads before trace ⟨changed, .ok status⟩ after) :
    ∃ next final, changed.body = .decorator next final ∧
      Deals context own child trace status next final := by
  obtain ⟨_, _, plays, entered, below⟩ := plays_of_tick ticks fun leaf alone => by
    rw [shape] at alone
    cases alone
  have first : node.children[0]? = some child := by
    rw [children, shape]
    rfl
  obtain ⟨final, taken, evolves, returned⟩ := below 0 child first
  rw [shape] at plays
  generalize former : changed.body = body at plays
  cases plays with
  | @decorator _ next _ kept _ _ plays =>
  rw [children, former] at taken
  obtain rfl : kept = final := Option.some.inj taken
  refine ⟨next, kept, rfl, ?_⟩
  generalize returns : (.ok status : Except Panic Status) = result at plays
  cases plays with
  | skipped decided =>
      cases returns
      obtain ⟨rfl, written⟩ := evolves.nil
      exact .spared decided entered returned written
  | aborted aborted decided =>
      cases aborted with
      | error => cases returns
      | ok =>
          cases returns
          exact .aborted decided entered evolves
  | unwound => cases returns
  | ticked inner decided keeps =>
      cases returns
      exact .ticked inner decided entered returned keeps evolves.last_of_ticked
  | renewed inner decided resets =>
      cases returns
      replace evolves :
        child.Evolves (context.child 0) ([.ticked (.ok inner)] ++ [.reset]) _ kept := evolves
      exact .renewed inner decided entered returned resets (evolves.idle_of_last (.inl rfl))

section Decided

variable {later : Decorator A} {reply : Status}

/-- A decorator that skips its child whatever the answer is spares it. -/
theorem Deals.of_skip (deals : Deals context own child trace status next final)
    (decides : ∀ answer running, own.decide context.clock answer running = (later, .skip reply)) :
    status = reply ∧ next = later ∧ final = child ∧ trace.entrances context.place = [] ∧
      trace.returnsAt (0 :: context.place) = [] ∧
        (trace.within (0 :: context.place)).Written (0 :: context.place) := by
  cases deals with
  | spared decided entered returned written =>
      rw [decides] at decided
      cases decided
      exact ⟨rfl, rfl, rfl, entered, returned, written⟩
  | aborted decided | ticked _ decided | renewed _ decided =>
      rw [decides] at decided
      cases decided

/-- A decorator that aborts its child whatever the answer is leaves it idle. -/
theorem Deals.of_abort (deals : Deals context own child trace status next final)
    (decides : ∀ answer running, own.decide context.clock answer running = (later, .abort reply)) :
    status = reply ∧ next = later ∧ trace.entrances context.place = [] ∧
      child.Evolves (context.child 0) [.aborted (.ok ())] (trace.within (0 :: context.place)) final := by
  cases deals with
  | aborted decided entered evolves =>
      rw [decides] at decided
      cases decided
      exact ⟨rfl, rfl, entered, evolves⟩
  | spared decided | ticked _ decided | renewed _ decided =>
      rw [decides] at decided
      cases decided

/-- A decorator that ticks its child whatever the answer is settles on what the child returns. -/
theorem Deals.of_tick (deals : Deals context own child trace status next final)
    (decides : ∀ answer running, own.decide context.clock answer running = (later, .tick)) :
    ∃ inner, status = (later.settle inner).status ∧ next = (later.settle inner).own ∧
      trace.entrances context.place = [0] ∧ trace.returnsAt (0 :: context.place) = [inner] ∧
        if (later.settle inner).resets then final.Everywhere Idle else final.last = some inner := by
  cases deals with
  | ticked inner decided entered returned keeps last =>
      rw [decides] at decided
      cases decided
      refine ⟨inner, rfl, rfl, entered, returned, ?_⟩
      rwa [keeps]
  | renewed inner decided entered returned resets idle =>
      rw [decides] at decided
      cases decided
      refine ⟨inner, rfl, rfl, entered, returned, ?_⟩
      rwa [resets]
  | spared decided | aborted decided =>
      rw [decides] at decided
      cases decided

end Decided

/-- A relation between the diary of a decorator, its own state and the last status of its child is kept up
if every clearing and every tick that returns keeps it. -/
structure KeepsUp (D : Type) (place : Place)
    (Holds : List (Use A) → Decorator A → Option Status → Prop) : Prop where
  clears {uses : List (Use A)} {use : Use A} {own : Decorator A} {last : Option Status}
    (holds : Holds uses own last) (clears : use.touch = .reset ∨ use.touch = .aborted (.ok ())) :
    Holds (uses ++ [use]) own.forget none
  ticks {uses : List (Use A)} {context : Context D} {own next : Decorator A} {child final : Node A}
    {trace : Trace A} {status : Status} (stands : context.place = place)
    (holds : Holds uses own child.last) (deals : Deals context own child trace status next final) :
    Holds (uses ++ [⟨context.clock.deltaTime, .ticked (.ok status), trace⟩]) next final.last

/-- What is kept up holds after every diary of a built decorator if it holds of the blank one. -/
theorem Diary.holds {Holds : List (Use A) → Decorator A → Option Status → Prop}
    (keepsUp : KeepsUp D place Holds) (built : start.Built) (shape : start.body = .decorator own child)
    (blank : Holds [] own none) (diary : start.Diary D place uses node) :
    ∃ own child, node.body = .decorator own child ∧ Holds uses own child.last := by
  induction diary with
  | blank =>
      have idle : child.last = none := by
        refine (built.idle.child ?_).here.1
        rw [children, shape]
        exact List.mem_singleton_self child
      exact ⟨own, child, shape, by rwa [idle]⟩
  | @used context node changed touch earlier _ _ trace _ stands undergoes calm
      inductionHypothesis =>
      obtain ⟨own, child, body, holds⟩ := inductionHypothesis
      have clearing (clears : touch = .reset ∨ touch = .aborted (.ok ())) :
          ∃ own child, changed.body = .decorator own child ∧
            Holds (earlier ++ [⟨context.clock.deltaTime, touch, trace⟩]) own child.last := by
        refine ⟨own.forget, child.cleared, ?_, ?_⟩
        · rw [undergoes.cleared clears, body_cleared, body]
          rfl
        · rw [last_cleared]
          exact keepsUp.clears holds clears
      cases touch with
      | reset => exact clearing (.inl rfl)
      | aborted result =>
          obtain rfl := calm
          exact clearing (.inr rfl)
      | ticked result =>
          obtain ⟨status, rfl⟩ := calm
          obtain ⟨ticks⟩ := undergoes
          obtain ⟨next, final, shaped, deals⟩ := deals_of_tick body ticks
          exact ⟨next, final, shaped, keepsUp.ticks stands holds deals⟩
  | numbered _ same inductionHypothesis =>
      -- Numbers change neither what the decorator holds nor the last status of its child.
      obtain ⟨own, child, body, holds⟩ := inductionHypothesis
      obtain ⟨twin, shaped, image⟩ := decorator_of_unnumbered same.symm body
      refine ⟨own, twin, shaped, ?_⟩
      rwa [← last_unnumbered, ← image, last_unnumbered]

/-- A decorator that has been built only has neither counted nor timed anything. -/
theorem Built.decorator (built : start.Built) (shape : start.body = .decorator own child) :
    own.pristine = own := by
  have same := congrArg Node.body built.pristine
  rw [body_pristine, shape] at same
  exact (Body.decorator.inj same).1

end Node

namespace Sample

/-- A sample node is ticked some time after its last tick. -/
def spent (node : Node agent) (deltaTime : Float32) (flag : Bool) :
    Outcome agent Unit (Attempt (Node agent) Status) :=
  node.tick ⟨⟨deltaTime, 0⟩, some .silent, Tree.rootPlace⟩ ⟨flag, ()⟩

/-- A tick that returns is one more use. -/
theorem diary_spent {start node : Node agent} {uses : List (Use agent)} {deltaTime : Float32}
    {flag : Bool} {status : Status} (diary : start.Diary Unit Tree.rootPlace uses node)
    (returns : (spent node deltaTime flag).value.result = .ok status) :
    start.Diary Unit Tree.rootPlace
      (uses ++ [⟨deltaTime, .ticked (.ok status), (spent node deltaTime flag).trace⟩])
      (spent node deltaTime flag).value.after := by
  have ticks := Run.leads_self (node.tick ⟨⟨deltaTime, 0⟩, some .silent, Tree.rootPlace⟩)
    (⟨flag, ()⟩ : Stage agent Unit)
  rw [← returns]
  exact diary.used rfl (.ticked ticks) ⟨status, returns⟩

end Sample

end Behavior
