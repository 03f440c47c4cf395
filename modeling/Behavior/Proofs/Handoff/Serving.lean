import Behavior.Proofs.Handoff.Attending

namespace Behavior

variable {A : Agent} {D : Type}

namespace Channel

/-- What a call makes of the channel with a number. A call that has to do with another channel leaves
it to those who handle its completion. -/
inductive Used (line? : A.Operation → Option Nat) (number : Nat) : Channel → Call A → Channel → Prop
  | apart {call : Call A} {channel next : Channel} (apart : call.operation?.bind line? ≠ some number)
      (handled : channel.Handled next) : Used line? number channel call next
  | polled {operation : A.Operation} {completed : Bool} {channel next : Channel}
      (line : line? operation = some number) (polls : channel.poll = (completed, next)) :
      Used line? number channel (.polled operation completed) next
  | taken {operation : A.Operation} {success : Bool} {channel next : Channel}
      (line : line? operation = some number) (takes : channel.take = (success, next)) :
      Used line? number channel (.taken operation success) next.close
  | cancelled {operation : A.Operation} {channel : Channel} (line : line? operation = some number) :
      Used line? number channel (.cancelled operation) channel.close

/-- A call that has to do with another channel leaves this one to others. -/
theorem Used.handled {line? : A.Operation → Option Nat} {number : Nat} {channel next : Channel}
    {call : Call A} (used : channel.Used line? number call next)
    (apart : call.operation?.bind line? ≠ some number) : channel.Handled next := by
  cases used with
  | apart _ handled => exact handled
  | polled line | taken line | cancelled line => exact absurd line apart

/-- A channel serves the doings of a node, while its completion may be handled in between. -/
inductive Serves (line? : A.Operation → Option Nat) (number : Nat) :
    Channel → List (Doing A) → Channel → Prop
  | done {before after : Channel} (handled : before.Handled after) : Serves line? number before [] after
  | silent {doing : Doing A} {doings : List (Doing A)} {before after : Channel}
      (silent : ∀ call, doing ≠ .called call) (rest : Serves line? number before doings after) :
      Serves line? number before (doing :: doings) after
  | called {call : Call A} {doings : List (Doing A)} {before ready next after : Channel}
      (handled : before.Handled ready) (used : Used line? number ready call next)
      (rest : Serves line? number next doings after) :
      Serves line? number before (.called call :: doings) after

variable {line? : A.Operation → Option Nat} {number : Nat} {before middle after channel next : Channel}
  {call : Call A} {doings : List (Doing A)} {success : Bool}

/-- A channel may be handled before it serves. -/
theorem Serves.handled (handled : before.Handled middle)
    (serves : middle.Serves line? number doings after) : before.Serves line? number doings after := by
  induction serves generalizing before with
  | done rest => exact .done (handled.trans rest)
  | silent silent _ inductionHypothesis => exact .silent silent (inductionHypothesis handled)
  | called more used rest => exact .called (handled.trans more) used rest

/-- A poll closes no channel. -/
theorem closed_poll (channel : Channel) : channel.poll.2.closed = channel.closed := by
  unfold poll
  repeat' split
  all_goals rfl

/-- What is held after a poll was held before it. -/
theorem held_of_poll (held : channel.poll.2.Held) : channel.Held := by
  unfold poll at held
  repeat' split at held
  all_goals first | exact held | cases held

/-- A closed channel stays closed. -/
theorem Used.closed (used : channel.Used line? number call next) (closed : channel.closed = true) :
    next.closed = true := by
  cases used with
  | apart _ handled => rw [handled.receiver.1, closed]
  | polled _ polls =>
      have kept := channel.closed_poll
      rwa [polls, closed] at kept
  | taken | cancelled => rfl

/-- A use does not bring a sender back. -/
theorem Used.held (used : channel.Used line? number call next) (held : next.Held) : channel.Held := by
  cases used with
  | apart _ handled =>
      rw [← handled.eq_of_held held]
      exact held
  | polled _ polls => exact held_of_poll (by rw [polls]; exact held)
  | taken _ takes =>
      obtain ⟨_, rfl⟩ := Prod.mk.inj takes
      exact held
  | cancelled => exact held

/-- A closed channel stays closed. -/
theorem Serves.closed (serves : before.Serves line? number doings after)
    (closed : before.closed = true) : after.closed = true := by
  induction serves with
  | done handled => rw [handled.receiver.1, closed]
  | silent _ _ inductionHypothesis => exact inductionHypothesis closed
  | called handled used _ inductionHypothesis =>
      exact inductionHypothesis (used.closed (by rw [handled.receiver.1, closed]))

/-- A completion that is still held has been held all along. -/
theorem Serves.held (serves : before.Serves line? number doings after) (held : after.Held) :
    before.Held := by
  induction serves with
  | done handled =>
      rw [← handled.eq_of_held held]
      exact held
  | silent _ _ inductionHypothesis => exact inductionHypothesis held
  | called handled used _ inductionHypothesis =>
      have ready := used.held (inductionHypothesis held)
      rw [← handled.eq_of_held ready]
      exact ready

end Channel

/-- The call of another line leaves a channel where it is. -/
theorem Call.Answers.used {line? : A.Operation → Option Nat} {number : Nat} {channel : Channel}
    {call : Call A} {before after : List Channel} (answers : Call.Answers line? before call after)
    (present : before[number]? = some channel) :
    ∃ next, after[number]? = some next ∧ channel.Used line? number call next := by
  have bound := (List.getElem?_eq_some_iff.1 present).1
  have given : before.getD number .fresh = channel := by
    rw [List.getD_eq_getElem?_getD, present, Option.getD_some]
  have elsewhere {other : Nat} (next : Channel) (different : other ≠ number) :
      (before.set other next)[number]? = some channel := by
    rw [List.getElem?_set_ne different, present]
  cases answers with
  | apart apart handled =>
      obtain ⟨next, listed, here⟩ := handled.present present
      exact ⟨next, listed, .apart (by rw [apart]; nofun) here⟩
  | @opened _ operation _ middle opened handled line _ =>
      obtain ⟨next, listed, here⟩ := handled.present present
      have inside := (List.getElem?_eq_some_iff.1 listed).1
      refine ⟨next, by rw [List.getElem?_append_left inside, listed], .apart ?_ here⟩
      rw [operation?, Option.bind_some, line, Ne, Option.some.injEq]
      omega
  | @polled _ other _ next _ line polls =>
      by_cases same : other = number
      · subst same
        rw [given] at polls
        exact ⟨next, List.getElem?_set_self bound, .polled line polls⟩
      · exact ⟨channel, elsewhere next same, .apart (by simpa [operation?, line]) (.kept _)⟩
  | @taken _ other _ next _ line takes =>
      by_cases same : other = number
      · subst same
        rw [given] at takes
        exact ⟨next.close, List.getElem?_set_self bound, .taken line takes⟩
      · exact ⟨channel, elsewhere _ same, .apart (by simpa [operation?, line]) (.kept _)⟩
  | @cancelled _ other _ line =>
      by_cases same : other = number
      · subst same
        rw [given]
        exact ⟨channel.close, List.getElem?_set_self bound, .cancelled line⟩
      · exact ⟨channel, elsewhere _ same, .apart (by simpa [operation?, line]) (.kept _)⟩

/-- A channel serves the node at a place if no other place has to do with its line. -/
theorem Trace.Replays.serves {line? : A.Operation → Option Nat} {number : Nat} {channel : Channel}
    {place : Place} {trace : Trace A} {before after : List Channel}
    (replays : Replays line? before trace after) (present : before[number]? = some channel)
    (apart : ∀ other call, ⟨other, .call call⟩ ∈ trace → other ≠ place →
      call.operation?.bind line? ≠ some number) :
    ∃ changed, after[number]? = some changed ∧
      channel.Serves line? number (trace.doingsAt place) changed := by
  induction replays generalizing channel with
  | done handled =>
      obtain ⟨next, listed, here⟩ := handled.present present
      exact ⟨next, listed, .done here⟩
  | @quiet entry trace _ _ quiet _ inductionHypothesis =>
      obtain ⟨changed, listed, serves⟩ := inductionHypothesis present
        fun other call member => apart other call (List.mem_cons_of_mem _ member)
      refine ⟨changed, listed, ?_⟩
      rw [doingsAt_cons]
      split
      · cases told : entry.event.doing? with
        | none => exact serves
        | some doing =>
            refine .silent (fun call same => ?_) serves
            rw [Event.eq_call (told.trans (congrArg some same))] at quiet
            cases quiet
      · exact serves
  | @called other call trace _ _ _ _ handled answers _ inductionHypothesis =>
      obtain ⟨ready, there, here⟩ := handled.present present
      obtain ⟨next, found, used⟩ := answers.used there
      obtain ⟨changed, listed, serves⟩ := inductionHypothesis found
        fun other call member => apart other call (List.mem_cons_of_mem _ member)
      refine ⟨changed, listed, ?_⟩
      rw [doingsAt_cons]
      by_cases same : other = place
      · rw [if_pos same]
        exact .called here used serves
      · rw [if_neg same, List.nil_append]
        have distinct := apart other call List.mem_cons_self same
        exact (serves.handled (used.handled distinct)).handled here

end Behavior
