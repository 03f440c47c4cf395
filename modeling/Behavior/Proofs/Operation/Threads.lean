import Behavior.Proofs.Trace.View

namespace Behavior

variable {A : Agent} {D : Type}

def Event.call? : Event A → Option (Call A)
  | .call made => some made
  | _ => none

theorem Event.blind_call? : Event.Blind (Event.call? (A := A)) := fun _ => rfl

namespace Trace

variable {place : Place} {trace first second : Trace A}

/-- The calls at a place, in their order. -/
def callsAt (place : Place) (trace : Trace A) : List (Call A) :=
  (trace.eventsAt place).filterMap Event.call?

@[simp] theorem callsAt_nil : callsAt place ([] : Trace A) = [] := rfl

/-- The calls at a place come trace by trace. -/
@[simp] theorem callsAt_append :
    callsAt place (first ++ second) = callsAt place first ++ callsAt place second :=
  viewAt_append

@[simp] theorem callsAt_cons_output (output : Output) :
    callsAt place (⟨place, .output output⟩ :: trace) = callsAt place trace :=
  viewAt_cons_output Event.blind_call? output

@[simp] theorem callsAt_cons_cleared :
    callsAt place (⟨place, .cleared⟩ :: trace) = callsAt place trace := by
  simp [callsAt, List.filterMap_cons, Event.call?]

/-- Records are no calls. -/
theorem Written.callsAt {own : Place} (written : trace.Written own) : trace.callsAt place = [] :=
  written.viewAt Event.blind_call?

end Trace

/-- Notices are no calls. -/
theorem Context.Tells.callsAt {context : Context D} {notice : Notice} {trace : Trace A}
    (tells : context.Tells notice trace) : trace.callsAt context.place = [] :=
  tells.viewAt Event.blind_call?

/-- A call is made once. -/
theorem Run.Leads.callsAt {Value : Type} {place : Place} {reply : A.State → Reply A.State Value}
    {describe : Value → Call A} {before after : Stage A D} {trace : Trace A} {value : Value}
    (called : (Run.call place reply describe).Leads before trace value after) :
    trace.callsAt place = [describe value] :=
  (called.viewAt Event.blind_call?).trans (if_pos rfl)

/-- A thread of calls starts an operation only when none is pending, polls the pending one, and
gives it up when it takes the result or cancels it. -/
inductive Threads (starter : A.Starter) :
    Option A.Operation → List (Call A) → Option A.Operation → Prop
  | done {pending : Option A.Operation} : Threads starter pending [] pending
  | refused {calls : List (Call A)} {final : Option A.Operation} (panic : Panic)
      (rest : Threads starter none calls final) :
      Threads starter none (.started starter (.error panic) :: calls) final
  | started {calls : List (Call A)} {final : Option A.Operation} (operation : A.Operation)
      (rest : Threads starter (some operation) calls final) :
      Threads starter none (.started starter (.ok operation) :: calls) final
  | waited {calls : List (Call A)} {final : Option A.Operation} {operation : A.Operation}
      (rest : Threads starter (some operation) calls final) :
      Threads starter (some operation) (.polled operation false :: calls) final
  | taken {calls : List (Call A)} {final : Option A.Operation} {operation : A.Operation}
      (success : Bool) (rest : Threads starter none calls final) :
      Threads starter (some operation)
        (.polled operation true :: .taken operation success :: calls) final
  | cancelled {calls : List (Call A)} {final : Option A.Operation} {operation : A.Operation}
      (rest : Threads starter none calls final) :
      Threads starter (some operation) (.cancelled operation :: calls) final

/-- Lives go on from one list of calls to the next. -/
theorem Threads.trans {starter : A.Starter} {before middle after : Option A.Operation}
    {calls more : List (Call A)} (first : Threads starter before calls middle)
    (second : Threads starter middle more after) : Threads starter before (calls ++ more) after := by
  induction first with
  | done => exact second
  | refused panic _ inductionHypothesis => exact .refused panic (inductionHypothesis second)
  | started operation _ inductionHypothesis => exact .started operation (inductionHypothesis second)
  | waited _ inductionHypothesis => exact .waited (inductionHypothesis second)
  | taken success _ inductionHypothesis => exact .taken success (inductionHypothesis second)
  | cancelled _ inductionHypothesis => exact .cancelled (inductionHypothesis second)

/-- The beginning of a life: the start of an operation, and polls that find it uncompleted. -/
def beginning (starter : A.Starter) (operation : A.Operation) (polls : Nat) : List (Call A) :=
  .started starter (.ok operation) :: List.replicate polls (.polled operation false)

/-- A life ends when a poll finds the operation completed and its result is taken at once, or when
the operation is cancelled. -/
inductive Life (starter : A.Starter) : List (Call A) → Prop
  | completed (operation : A.Operation) (polls : Nat) (success : Bool) :
      Life starter
        (beginning starter operation polls ++ [.polled operation true, .taken operation success])
  | cancelled (operation : A.Operation) (polls : Nat) :
      Life starter (beginning starter operation polls ++ [.cancelled operation])

/-- An episode is a life, or a start that panics: it gives no operation and begins no life. -/
inductive Episode (starter : A.Starter) : List (Call A) → Prop
  | life {calls : List (Call A)} (life : Life starter calls) : Episode starter calls
  | refused (panic : Panic) : Episode starter [.started starter (.error panic)]

/-- An unfinished life has begun if an operation is pending; otherwise there is none. -/
def Unfinished (starter : A.Starter) (calls : List (Call A)) : Option A.Operation → Prop
  | some operation => ∃ polls, calls = beginning starter operation polls
  | none => calls = []

/-- Calls are orderly if they are complete episodes and at most one unfinished life. -/
def Orderly (starter : A.Starter) (calls : List (Call A)) (pending : Option A.Operation) : Prop :=
  ∃ (episodes : List (List (Call A))) (rest : List (Call A)),
    (∀ episode ∈ episodes, Episode starter episode) ∧ Unfinished starter rest pending ∧
      calls = episodes.flatten ++ rest

/-- A complete episode may come first. -/
theorem Orderly.cons {starter : A.Starter} {episode calls : List (Call A)}
    {pending : Option A.Operation} (first : Episode starter episode)
    (orderly : Orderly starter calls pending) : Orderly starter (episode ++ calls) pending := by
  obtain ⟨episodes, rest, all, unfinished, rfl⟩ := orderly
  refine ⟨episode :: episodes, rest, ?_, unfinished, by simp⟩
  exact List.forall_mem_cons.2 ⟨first, all⟩

/-- Every thread is orderly. A thread that starts with a pending operation continues its life. -/
theorem Threads.orderly {starter : A.Starter} {before after : Option A.Operation}
    {calls : List (Call A)} (threads : Threads starter before calls after) :
    (before = none → Orderly starter calls after) ∧
      ∀ operation polls, before = some operation →
        Orderly starter (beginning starter operation polls ++ calls) after := by
  induction threads with
  | @done pending =>
      cases pending with
      | none => exact ⟨fun _ => ⟨[], [], by simp, rfl, rfl⟩, nofun⟩
      | some pending =>
          refine ⟨nofun, ?_⟩
          rintro operation polls ⟨⟩
          exact ⟨[], beginning starter pending polls, by simp, ⟨polls, rfl⟩, by simp⟩
  | refused panic _ inductionHypothesis =>
      refine ⟨fun _ => ?_, nofun⟩
      exact (inductionHypothesis.1 rfl).cons (.refused panic)
  | started operation _ inductionHypothesis =>
      refine ⟨fun _ => ?_, nofun⟩
      exact inductionHypothesis.2 operation 0 rfl
  | @waited calls _ operation _ inductionHypothesis =>
      refine ⟨nofun, ?_⟩
      rintro _ polls ⟨⟩
      have orderly := inductionHypothesis.2 operation (polls + 1) rfl
      rwa [beginning, List.replicate_succ', ← List.cons_append, List.append_assoc] at orderly
  | @taken calls _ operation success _ inductionHypothesis =>
      refine ⟨nofun, ?_⟩
      rintro _ polls ⟨⟩
      have orderly := (inductionHypothesis.1 rfl).cons (.life (.completed operation polls success))
      rwa [List.append_assoc] at orderly
  | @cancelled calls _ operation _ inductionHypothesis =>
      refine ⟨nofun, ?_⟩
      rintro _ polls ⟨⟩
      have orderly := (inductionHypothesis.1 rfl).cons (.life (.cancelled operation polls))
      rwa [List.append_assoc] at orderly

end Behavior
