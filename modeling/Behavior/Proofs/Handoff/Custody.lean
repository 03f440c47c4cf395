import Behavior.Proofs.Handoff.Serving

namespace Behavior

variable {A : Agent} {line? : A.Operation → Option Nat} {number : Nat} {starter : Option A.Starter}
  {pending final : Option A.Operation} {operation : A.Operation} {doings : List (Doing A)}
  {channel changed : Channel}

/-- The channel of an operation is in custody if it is open, with no outcome received, while the
operation is pending, and closed when nothing that has to do with it is pending. -/
inductive Custody (line? : A.Operation → Option Nat) (number : Nat) (operation : A.Operation) :
    Option A.Operation → Channel → Prop
  | waiting {channel : Channel} (opened : channel.closed = false) (nothing : channel.received = none) :
      Custody line? number operation (some operation) channel
  | gone {pending : Option A.Operation} {channel : Channel}
      (apart : pending.bind line? ≠ some number) (closed : channel.closed = true) :
      Custody line? number operation pending channel

namespace Custody

/-- The channel of a line is open exactly while its operation is pending. -/
theorem closed_eq_false_iff (custody : Custody line? number operation pending channel)
    (line : line? operation = some number) : channel.closed = false ↔ pending = some operation := by
  cases custody with
  | waiting opened => simp [opened]
  | gone apart closed =>
      rw [closed]
      refine ⟨nofun, ?_⟩
      rintro rfl
      exact absurd line apart

/-- A pending operation has not received anything yet. -/
theorem received_eq_none (custody : Custody line? number operation (some operation) channel)
    (line : line? operation = some number) : channel.received = none := by
  cases custody with
  | waiting _ nothing => exact nothing
  | gone apart => exact absurd line apart

end Custody

/-- Nothing starts an operation that waits for the channel with a number. -/
def Unopened (line? : A.Operation → Option Nat) (number : Nat) (doings : List (Doing A)) : Prop :=
  ∀ source operation, .called (.started source (.ok operation)) ∈ doings →
    line? operation ≠ some number

/-- Fewer doings open no more lines. -/
theorem Unopened.of_subset {more : List (Doing A)} (unopened : Unopened line? number more)
    (inside : doings ⊆ more) : Unopened line? number doings :=
  fun source operation started => unopened source operation (inside started)

/-- Forgetful doings have nothing to do with a channel, and report no status without a new start. -/
structure Forgetful (line? : A.Operation → Option Nat) (number : Nat) (doings : List (Doing A)) :
    Prop where
  apart : ∀ doing ∈ doings, doing.operation?.bind line? ≠ some number
  anew : ∀ early status late, doings = early ++ .left status :: late →
    ∃ source operation, .called (.started source (.ok operation)) ∈ early

namespace Attends

/-- What has not been pending from the beginning is not used without a start. -/
theorem apart (attends : Attends starter pending doings final)
    (other : pending.bind line? ≠ some number) (unopened : Unopened line? number doings) :
    ∀ doing ∈ doings, doing.operation?.bind line? ≠ some number := by
  intro doing member used
  obtain ⟨operation, same, line⟩ := Option.bind_eq_some_iff.1 used
  obtain rfl | ⟨source, started⟩ := attends.pending_or_started member same
  · exact other line
  · exact unopened source operation started line

/-- A line that is not opened is not pending in the end unless it was. -/
theorem apart_final (attends : Attends starter pending doings final)
    (other : pending.bind line? ≠ some number) (unopened : Unopened line? number doings) :
    final.bind line? ≠ some number := by
  induction attends with
  | done => exact other
  | idle _ _ inductionHypothesis =>
      exact inductionHypothesis other (unopened.of_subset (List.subset_cons_self _ _))
  | @started source operation _ _ _ _ inductionHypothesis =>
      exact inductionHypothesis (unopened source operation List.mem_cons_self)
        (unopened.of_subset (List.subset_cons_self _ _))
  | waited _ inductionHypothesis =>
      exact inductionHypothesis other (unopened.of_subset (List.subset_append_right [_, _] _))
  | taken _ _ inductionHypothesis =>
      exact inductionHypothesis nofun (unopened.of_subset (List.subset_append_right [_, _, _] _))
  | cancelled _ inductionHypothesis =>
      exact inductionHypothesis nofun (unopened.of_subset (List.subset_append_right [_, _] _))

/-- An asynchronous action without an operation starts one before it reports. -/
theorem anew (attends : Attends starter none doings final) (active : starter.isSome)
    {early late : List (Doing A)} {status : Status} (split : doings = early ++ .left status :: late) :
    ∃ source operation, .called (.started source (.ok operation)) ∈ early := by
  generalize waiting : (none : Option A.Operation) = pending at attends
  induction attends generalizing early with
  | done => cases early <;> cases split
  | idle idle _ inductionHypothesis =>
      obtain _ | ⟨_, early⟩ := early
      · exact absurd (List.cons.inj split).1 (idle.2 active status)
      · obtain ⟨source, operation, started⟩ := inductionHypothesis (List.cons.inj split).2 rfl
        exact ⟨source, operation, List.mem_cons_of_mem _ started⟩
  | @started source operation _ _ _ _ _ =>
      obtain _ | ⟨_, early⟩ := early
      · cases (List.cons.inj split).1
      · rw [← (List.cons.inj split).1]
        exact ⟨source, operation, List.mem_cons_self⟩
  | waited | taken | cancelled => cases waiting

/-- Doings that start with nothing pending and do not open a line have nothing to do with it. -/
theorem forgetful (attends : Attends starter none doings final) (active : starter.isSome)
    (unopened : Unopened line? number doings) : Forgetful line? number doings where
  apart := attends.apart nofun unopened
  anew _ _ _ split := attends.anew active split

end Attends

namespace Channel

/-- A completion is heard as long as the channel is open. -/
theorem complete_heard (channel : Channel) (success : Bool) :
    (channel.complete success).1 = !channel.closed := by
  unfold complete
  split <;> simp_all

/-- A settled completion has delivered an outcome, or is gone without one, which counts as a failure. -/
def Settled (channel : Channel) (success : Bool) : Prop :=
  channel.delivery = .delivered success ∨ channel.delivery = .dropped ∧ success = false

/-- What is settled is not held any more. -/
theorem Settled.not_held {success : Bool} (settled : channel.Settled success) : ¬ channel.Held := by
  intro held
  rcases settled with delivered | ⟨dropped, _⟩
  · cases delivered.symm.trans held
  · cases dropped.symm.trans held

/-- A channel is settled with one result. -/
theorem Settled.unique {success other : Bool} (settled : channel.Settled success)
    (same : channel.Settled other) : success = other := by
  rcases settled with delivered | ⟨dropped, rfl⟩ <;> rcases same with also | ⟨also, rfl⟩
  · cases delivered.symm.trans also
    rfl
  · cases delivered.symm.trans also
  · cases dropped.symm.trans also
  · rfl

variable {next : Channel}

/-- A poll in vain finds a held completion and changes nothing. -/
theorem held_of_poll_false (polls : channel.poll = (false, next)) : channel.Held ∧ next = channel := by
  unfold poll at polls
  split at polls
  · cases polls
  · split at polls
    · cases polls
    · cases polls
    · split at polls
      · cases polls
      · obtain ⟨_, rfl⟩ := Prod.mk.inj polls
        exact ⟨‹_›, rfl⟩

/-- A poll of an open channel with success finds a settled completion and receives its outcome. -/
theorem settled_of_poll_true (polls : channel.poll = (true, next)) (opened : channel.closed = false)
    (nothing : channel.received = none) :
    ∃ success, channel.Settled success ∧ next.received = some success ∧ ¬ next.Held := by
  unfold poll at polls
  rw [nothing, opened] at polls
  dsimp only at polls
  split at polls
  next success delivered =>
    obtain ⟨_, rfl⟩ := Prod.mk.inj polls
    exact ⟨success, .inl delivered, rfl, nofun⟩
  next dropped =>
    obtain ⟨_, rfl⟩ := Prod.mk.inj polls
    refine ⟨false, .inr ⟨dropped, rfl⟩, rfl, fun held => ?_⟩
    cases dropped.symm.trans held
  next => cases polls

end Channel

/-- What can happen to a channel in custody: it waits, it is given up by the result that its completion
has settled, or it is given up by a cancellation. As long as it waits it stays the same. -/
inductive Watched (line? : A.Operation → Option Nat) (number : Nat) (starter : Option A.Starter)
    (operation : A.Operation) (channel : Channel) :
    List (Doing A) → Option A.Operation → Channel → Prop
  | pending {changed : Channel} (handled : channel.Handled changed) :
      Watched line? number starter operation channel [] (some operation) changed
  | waited {doings : List (Doing A)} {final : Option A.Operation} {changed : Channel}
      (held : channel.Held) (rest : Watched line? number starter operation channel doings final changed) :
      Watched line? number starter operation channel
        (.called (.polled operation false) :: .left .running :: doings) final changed
  | taken {success : Bool} {doings : List (Doing A)} {final : Option A.Operation}
      {ready next changed : Channel} (handled : channel.Handled ready) (settled : ready.Settled success)
      (closed : next.closed = true) (spent : ¬ next.Held) (attends : Attends starter none doings final)
      (serves : next.Serves line? number doings changed) :
      Watched line? number starter operation channel (.called (.polled operation true) ::
        .called (.taken operation success) :: .left (.ofBool success) :: doings) final changed
  | cancelled {doings : List (Doing A)} {final : Option A.Operation} {next changed : Channel}
      (closed : next.closed = true) (attends : Attends starter none doings final)
      (serves : next.Serves line? number doings changed) :
      Watched line? number starter operation channel
        (.cleared :: .called (.cancelled operation) :: doings) final changed

namespace Watched

/-- An operation that is attended to has its channel watched. -/
theorem of_attends (attends : Attends starter (some operation) doings final)
    (serves : channel.Serves line? number doings changed) (line : line? operation = some number)
    (opened : channel.closed = false) (nothing : channel.received = none) :
    Watched line? number starter operation channel doings final changed := by
  have own {call : Call A} (uses : call.operation? = some operation) :
      ¬ call.operation?.bind line? ≠ some number := by
    rw [uses]
    exact not_not_intro line
  generalize waiting : some operation = pending at attends
  induction attends generalizing channel with
  | done =>
      cases waiting
      cases serves with
      | done handled => exact .pending handled
  | idle | started => cases waiting
  | waited _ inductionHypothesis =>
      cases waiting
      cases serves with
      | silent silent => exact absurd rfl (silent _)
      | called handled used serves =>
          cases used with
          | apart apart => exact absurd apart (own rfl)
          | polled _ polls =>
              obtain ⟨held, rfl⟩ := Channel.held_of_poll_false polls
              obtain rfl := handled.eq_of_held held
              cases serves with
              | silent _ serves => exact .waited held (inductionHypothesis serves opened nothing rfl)
  | taken success attends =>
      cases waiting
      cases serves with
      | silent silent => exact absurd rfl (silent _)
      | called handled used serves =>
          cases used with
          | apart apart => exact absurd apart (own rfl)
          | polled _ polls =>
              obtain ⟨kept, same⟩ := handled.receiver
              obtain ⟨outcome, settled, received, spent⟩ := Channel.settled_of_poll_true polls
                (kept.trans opened) (same.trans nothing)
              cases serves with
              | silent silent => exact absurd rfl (silent _)
              | called more used serves =>
                  obtain rfl := more.eq_of_spent spent
                  cases used with
                  | apart apart => exact absurd apart (own rfl)
                  | taken _ takes =>
                      obtain ⟨rfl, rfl⟩ := Prod.mk.inj takes
                      rw [received, Option.getD_some] at *
                      cases serves with
                      | silent _ serves =>
                          refine .taken handled settled rfl (fun held => spent ?_) attends serves
                          exact held
  | cancelled attends =>
      cases waiting
      cases serves with
      | silent _ serves =>
          cases serves with
          | silent silent => exact absurd rfl (silent _)
          | called handled used serves =>
              cases used with
              | apart apart => exact absurd apart (own rfl)
              | cancelled => exact .cancelled rfl attends serves

end Watched

/-- Doings conclude an operation with an outcome if the node has not been visited yet, or has reported
the outcome, or has been cleared before. There is no second time. -/
inductive Concludes (line? : A.Operation → Option Nat) (number : Nat) (operation : A.Operation)
    (success : Bool) : List (Doing A) → Prop
  | unvisited : Concludes line? number operation success []
  | reported {later : List (Doing A)} (forgetful : Forgetful line? number later) :
      Concludes line? number operation success (.called (.polled operation true) ::
        .called (.taken operation success) :: .left (.ofBool success) :: later)
  | cleared {later : List (Doing A)} (forgetful : Forgetful line? number later) :
      Concludes line? number operation success
        (.cleared :: .called (.cancelled operation) :: later)

/-- Doings await an operation if each visit of the node finds it uncompleted and reports running, as
long as the node has not been cleared. -/
inductive Awaits (line? : A.Operation → Option Nat) (number : Nat) (operation : A.Operation) :
    List (Doing A) → Prop
  | unvisited : Awaits line? number operation []
  | reported {later : List (Doing A)} (rest : Awaits line? number operation later) :
      Awaits line? number operation (.called (.polled operation false) :: .left .running :: later)
  | cleared {later : List (Doing A)} (forgetful : Forgetful line? number later) :
      Awaits line? number operation (.cleared :: .called (.cancelled operation) :: later)

namespace Watched

/-- A channel that is watched and not opened again is in custody. -/
theorem custody (watched : Watched line? number starter operation channel doings final changed)
    (opened : channel.closed = false) (nothing : channel.received = none)
    (unopened : Unopened line? number doings) :
    Custody line? number operation final changed := by
  induction watched with
  | pending handled =>
      obtain ⟨kept, same⟩ := handled.receiver
      exact .waiting (kept.trans opened) (same.trans nothing)
  | waited _ _ inductionHypothesis =>
      exact inductionHypothesis (unopened.of_subset (List.subset_append_right [_, _] _))
  | taken _ _ closed _ attends serves =>
      have later := unopened.of_subset (List.subset_append_right [_, _, _] _)
      exact .gone (attends.apart_final nofun later) (serves.closed closed)
  | cancelled closed attends serves =>
      have later := unopened.of_subset (List.subset_append_right [_, _] _)
      exact .gone (attends.apart_final nofun later) (serves.closed closed)

/-- A settled completion concludes the operation with its outcome. -/
theorem concludes {success : Bool}
    (watched : Watched line? number starter operation channel doings final changed)
    (settled : channel.Settled success) (active : starter.isSome)
    (unopened : Unopened line? number doings) :
    Concludes line? number operation success doings := by
  cases watched with
  | pending => exact .unvisited
  | waited held => exact absurd held settled.not_held
  | taken handled same _ _ attends =>
      obtain rfl := handled.eq_of_spent settled.not_held
      obtain rfl := settled.unique same
      have later := unopened.of_subset (List.subset_append_right [_, _, _] _)
      exact .reported (attends.forgetful active later)
  | cancelled _ attends =>
      have later := unopened.of_subset (List.subset_append_right [_, _] _)
      exact .cleared (attends.forgetful active later)

/-- An operation is awaited as long as its completion is held. -/
theorem awaits (watched : Watched line? number starter operation channel doings final changed)
    (held : changed.Held) (active : starter.isSome) (unopened : Unopened line? number doings) :
    Awaits line? number operation doings := by
  induction watched with
  | pending => exact .unvisited
  | waited _ _ inductionHypothesis =>
      have later := unopened.of_subset (List.subset_append_right [_, _] _)
      exact .reported (inductionHypothesis held later)
  | taken _ _ _ spent _ serves => exact absurd (serves.held held) spent
  | cancelled _ attends =>
      have later := unopened.of_subset (List.subset_append_right [_, _] _)
      exact .cleared (attends.forgetful active later)

/-- The channel of a held completion is closed exactly by a clearing. -/
theorem closed_iff (watched : Watched line? number starter operation channel doings final changed)
    (opened : channel.closed = false) (held : changed.Held) :
    changed.closed = true ↔ .cleared ∈ doings := by
  induction watched with
  | pending handled => simp [handled.receiver.1, opened]
  | waited _ _ inductionHypothesis => simp [inductionHypothesis held]
  | taken _ _ _ spent _ serves => exact absurd (serves.held held) spent
  | cancelled closed _ serves => simp [serves.closed closed]

end Watched

end Behavior
