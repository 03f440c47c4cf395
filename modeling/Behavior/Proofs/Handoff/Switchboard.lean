import Behavior.Channel
import Behavior.Proofs.History
import Behavior.Proofs.Lockstep.Ticking
import Behavior.Proofs.Operation.Threads

namespace Behavior

variable {A : Agent} {D : Type}

namespace Channel

/-- A completion is held until it is used up. -/
def Held (channel : Channel) : Prop := channel.delivery = .owed

/-- Whoever holds the completion of a channel may leave it alone or use it up. -/
inductive Handled : Channel → Channel → Prop
  | kept (channel : Channel) : Handled channel channel
  | completed {channel : Channel} (held : channel.Held) (success : Bool) :
      Handled channel (channel.complete success).2
  | dropped {channel : Channel} (held : channel.Held) : Handled channel channel.drop

variable {before middle after : Channel}

/-- A completion uses the sender up. -/
theorem not_held_complete (channel : Channel) (success : Bool) :
    ¬ (channel.complete success).2.Held := by
  unfold complete Held
  split <;> nofun

/-- A drop uses the sender up. -/
theorem not_held_drop (channel : Channel) : ¬ channel.drop.Held := nofun

/-- A completion that is not held stays used up. -/
theorem Handled.eq_of_spent (handled : before.Handled after) (spent : ¬ before.Held) :
    after = before := by
  cases handled with
  | kept => rfl
  | completed held | dropped held => exact absurd held spent

/-- A completion that is still held has been left alone. -/
theorem Handled.eq_of_held (handled : before.Handled after) (held : after.Held) : after = before := by
  cases handled with
  | kept => rfl
  | completed => exact absurd held (not_held_complete _ _)
  | dropped => exact absurd held (not_held_drop _)

/-- One channel is handled in steps. -/
theorem Handled.trans (first : before.Handled middle) (second : middle.Handled after) :
    before.Handled after := by
  cases first with
  | kept => exact second
  | completed held success =>
      rw [second.eq_of_spent (not_held_complete _ _)]
      exact .completed held success
  | dropped held =>
      rw [second.eq_of_spent (not_held_drop _)]
      exact .dropped held

/-- The operation's end of a channel is out of reach for the holder of the completion. -/
theorem Handled.receiver (handled : before.Handled after) :
    after.closed = before.closed ∧ after.received = before.received := by
  cases handled with
  | kept => exact ⟨rfl, rfl⟩
  | completed =>
      unfold complete
      split <;> exact ⟨rfl, rfl⟩
  | dropped => exact ⟨rfl, rfl⟩

end Channel

/-- Channels are handled if each of them is. -/
def Handled : List Channel → List Channel → Prop := List.Forall₂ Channel.Handled

theorem Handled.refl (channels : List Channel) : Handled channels channels :=
  List.forall₂_same.2 fun channel _ => .kept channel

/-- All channels together are handled in steps. -/
theorem Handled.trans {before middle after : List Channel} (first : Handled before middle)
    (second : Handled middle after) : Handled before after := by
  induction first generalizing after with
  | nil => exact second
  | cons here _ inductionHypothesis =>
      obtain _ | ⟨there, rest⟩ := second
      exact .cons (here.trans there) (inductionHypothesis rest)

/-- Every channel that was there is still there. -/
theorem Handled.present {before after : List Channel} {number : Nat} {channel : Channel}
    (handled : Handled before after) (present : before[number]? = some channel) :
    ∃ next, after[number]? = some next ∧ channel.Handled next := by
  have related := Lockstep.getElem? handled number
  rw [present] at related
  generalize after[number]? = found at related
  cases related with
  | some here => exact ⟨_, rfl, here⟩

/-- One completion may be used up while the others are left alone. -/
theorem Handled.set {channels : List Channel} {channel changed : Channel} {number : Nat}
    (present : channels[number]? = some channel) (handled : channel.Handled changed) :
    Handled channels (channels.set number changed) := by
  induction channels generalizing number with
  | nil => cases present
  | cons first rest inductionHypothesis =>
      cases number with
      | zero =>
          obtain rfl := Option.some.inj present
          exact .cons handled (Handled.refl rest)
      | succ number => exact .cons (.kept first) (inductionHypothesis present)

/-- The operation that a call starts or uses. -/
def Call.operation? : Call A → Option A.Operation
  | .started _ (.ok operation) => some operation
  | .polled operation _ => some operation
  | .taken operation _ => some operation
  | .cancelled operation => some operation
  | _ => none

/-- What a call makes of the channels of an agent. The start of an operation that waits for a channel
opens it; a poll, a result and a cancellation use its own end, which is gone after the latter two.
All calls may handle completions otherwise. -/
inductive Call.Answers (line? : A.Operation → Option Nat) : List Channel → Call A → List Channel → Prop
  | apart {call : Call A} {before after : List Channel} (apart : call.operation?.bind line? = none)
      (handled : Handled before after) : Answers line? before call after
  | opened {starter : A.Starter} {operation : A.Operation} {before middle : List Channel}
      {channel : Channel} (handled : Handled before middle)
      (line : line? operation = some middle.length) (fresh : Channel.fresh.Handled channel) :
      Answers line? before (.started starter (.ok operation)) (middle ++ [channel])
  | polled {operation : A.Operation} {number : Nat} {completed : Bool} {next : Channel}
      {channels : List Channel} (line : line? operation = some number)
      (polls : (channels.getD number .fresh).poll = (completed, next)) :
      Answers line? channels (.polled operation completed) (channels.set number next)
  | taken {operation : A.Operation} {number : Nat} {success : Bool} {next : Channel}
      {channels : List Channel} (line : line? operation = some number)
      (takes : (channels.getD number .fresh).take = (success, next)) :
      Answers line? channels (.taken operation success) (channels.set number next.close)
  | cancelled {operation : A.Operation} {number : Nat} {channels : List Channel}
      (line : line? operation = some number) :
      Answers line? channels (.cancelled operation)
        (channels.set number (channels.getD number .fresh).close)

/-- An agent with a switchboard keeps all channels that it has opened, in their order. An operation
with a line waits for that channel. The agent's own books are sound in all its states. -/
structure Agent.Switchboard (A : Agent) where
  Sound : A.State → Prop
  channels : A.State → List Channel
  line? : A.Operation → Option Nat
  sound : ∀ {Value : Type} {reply : A.State → Reply A.State Value} {describe : Value → Call A},
    A.Offers reply describe → ∀ state : A.State, Sound state → Sound (reply state).state
  answers : ∀ {Value : Type} {reply : A.State → Reply A.State Value} {describe : Value → Call A},
    A.Offers reply describe → ∀ state : A.State, Sound state →
      Call.Answers line? (channels state) (describe (reply state).value)
        (channels (reply state).state)

/-- A trace replays if its calls make of some channels what they have become, while completions are
handled in between. -/
inductive Trace.Replays (line? : A.Operation → Option Nat) :
    List Channel → Trace A → List Channel → Prop
  | done {before after : List Channel} (handled : Handled before after) : Replays line? before [] after
  | quiet {entry : Entry A} {trace : Trace A} {before after : List Channel}
      (quiet : entry.event.call? = none) (rest : Replays line? before trace after) :
      Replays line? before (entry :: trace) after
  | called {place : Place} {call : Call A} {trace : Trace A} {before ready next after : List Channel}
      (handled : Handled before ready) (answers : Call.Answers line? ready call next)
      (rest : Replays line? next trace after) :
      Replays line? before (⟨place, .call call⟩ :: trace) after

namespace Trace.Replays

variable {line? : A.Operation → Option Nat} {before middle after : List Channel}
  {trace first second : Trace A} {starter : A.Starter} {operation : A.Operation} {number : Nat}
  {place : Place}

/-- Channels may be handled before a replay starts. -/
theorem handled (handled : Handled before middle) (replays : Replays line? middle trace after) :
    Replays line? before trace after := by
  induction replays generalizing before with
  | done rest => exact .done (handled.trans rest)
  | quiet quiet _ inductionHypothesis => exact .quiet quiet (inductionHypothesis handled)
  | called more answers rest => exact .called (handled.trans more) answers rest

/-- Two replays are one of both traces. -/
theorem append (replays : Replays line? before first middle)
    (rest : Replays line? middle second after) : Replays line? before (first ++ second) after := by
  induction replays with
  | done handled => exact rest.handled handled
  | quiet quiet _ inductionHypothesis => exact .quiet quiet (inductionHypothesis rest)
  | called handled answers _ inductionHypothesis =>
      exact .called handled answers (inductionHypothesis rest)

/-- A replay of two traces is one of each. -/
theorem split (replays : Replays line? before (first ++ second) after) :
    ∃ middle, Replays line? before first middle ∧ Replays line? middle second after := by
  induction first generalizing before with
  | nil => exact ⟨before, .done (Handled.refl _), replays⟩
  | cons entry rest inductionHypothesis =>
      cases replays with
      | quiet quiet replays =>
          obtain ⟨middle, early, late⟩ := inductionHypothesis replays
          exact ⟨middle, .quiet quiet early, late⟩
      | called handled answers replays =>
          obtain ⟨middle, early, late⟩ := inductionHypothesis replays
          exact ⟨middle, .called handled answers early, late⟩

/-- Without calls nothing is replayed. -/
theorem of_quiet (quiet : ∀ entry ∈ trace, entry.event.call? = none) (channels : List Channel) :
    Replays line? channels trace channels := by
  induction trace with
  | nil => exact .done (Handled.refl channels)
  | cons entry rest inductionHypothesis =>
      obtain ⟨here, below⟩ := List.forall_mem_cons.1 quiet
      exact .quiet here (inductionHypothesis below)

end Trace.Replays

/-- No channel is lost. -/
theorem Call.Answers.length_le {line? : A.Operation → Option Nat} {call : Call A}
    {before after : List Channel} (answers : Call.Answers line? before call after) :
    before.length ≤ after.length := by
  cases answers with
  | apart _ handled => exact Nat.le_of_eq handled.length_eq
  | opened handled => simp [← handled.length_eq]
  | polled | taken | cancelled => exact Nat.le_of_eq List.length_set.symm

namespace Trace.Replays

variable {line? : A.Operation → Option Nat} {before after : List Channel} {trace : Trace A}
  {starter : A.Starter} {operation : A.Operation} {number : Nat} {place : Place}

/-- A replay takes no channel away. -/
theorem length_le (replays : Replays line? before trace after) : before.length ≤ after.length := by
  induction replays with
  | done handled => exact Nat.le_of_eq handled.length_eq
  | quiet _ _ inductionHypothesis => exact inductionHypothesis
  | called handled answers _ inductionHypothesis =>
      rw [handled.length_eq]
      exact Nat.le_trans answers.length_le inductionHypothesis

/-- The start of an operation with a line opens the next channel. -/
theorem of_started (replays : Replays line? before (⟨place, .call (.started starter (.ok operation))⟩ ::
      trace) after) (line : line? operation = some number) :
    ∃ channels channel, before.length = number ∧ Channel.fresh.Handled channel ∧
      channels[number]? = some channel ∧ channels.length = number + 1 ∧
        Replays line? channels trace after := by
  cases replays with
  | quiet quiet => cases quiet
  | called handled answers rest =>
      cases answers with
      | apart apart => simp [Call.operation?, line] at apart
      | opened more same fresh =>
          obtain rfl := Option.some.inj (line.symm.trans same)
          exact ⟨_, _, (handled.trans more).length_eq, fresh, List.getElem?_concat_length, by simp,
            rest⟩

/-- Channels are opened in order, each once. -/
theorem opens_later (replays : Replays line? before trace after)
    (started : ⟨place, .call (.started starter (.ok operation))⟩ ∈ trace)
    (line : line? operation = some number) : before.length ≤ number ∧ number < after.length := by
  obtain ⟨first, second, rfl⟩ := List.append_of_mem started
  obtain ⟨middle, early, late⟩ := replays.split
  obtain ⟨channels, _, rfl, _, _, length, rest⟩ := late.of_started line
  exact ⟨early.length_le, by have := rest.length_le; omega⟩

/-- A channel that was not there before has been opened by the start of its operation. -/
theorem exists_started (replays : Replays line? before trace after) (new : before.length ≤ number)
    (present : number < after.length) :
    ∃ place starter operation, line? operation = some number ∧
      ⟨place, .call (.started starter (.ok operation))⟩ ∈ trace := by
  induction replays with
  | done handled =>
      rw [handled.length_eq] at new
      omega
  | quiet _ _ inductionHypothesis =>
      obtain ⟨place, starter, operation, line, started⟩ := inductionHypothesis new present
      exact ⟨place, starter, operation, line, List.mem_cons_of_mem _ started⟩
  | @called place call _ before ready next _ handled answers _ inductionHypothesis =>
      by_cases opened : next.length ≤ number
      · obtain ⟨place, starter, operation, line, started⟩ := inductionHypothesis opened present
        exact ⟨place, starter, operation, line, List.mem_cons_of_mem _ started⟩
      · rw [handled.length_eq] at new
        cases answers with
        | apart _ more =>
            rw [← more.length_eq] at opened
            omega
        | @opened starter operation _ middle _ more line _ =>
            have length := more.length_eq
            rw [List.length_append, List.length_singleton] at opened
            obtain rfl : number = middle.length := by omega
            exact ⟨place, starter, operation, line, List.mem_cons_self⟩
        | polled | taken | cancelled =>
            rw [List.length_set] at opened
            omega

end Trace.Replays

end Behavior
