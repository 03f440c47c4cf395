import Behavior.Proofs.Diary.Basic

namespace Behavior

variable {A : Agent} {D : Type} {place : Place} {context : Context D} {uses : List (Use A)}
  {limit elapsed : Float32} {status : Status} {trace : Trace A} {next : Decorator A}

/-- The delta times of the ticks in which a run has gone on. -/
def runTimes (uses : List (Use A)) : List Float32 := (ongoing uses).map Use.deltaTime

/-- A running tick adds its delta time to those of the run. -/
theorem runTimes_of_running (uses : List (Use A)) (deltaTime : Float32) (trace : Trace A) :
    runTimes (uses ++ [⟨deltaTime, .ticked (.ok .running), trace⟩]) = runTimes uses ++ [deltaTime] := by
  have kept : ongoing (uses ++ [⟨deltaTime, .ticked (.ok .running), trace⟩]) =
      ongoing uses ++ [⟨deltaTime, .ticked (.ok .running), trace⟩] := ongoing_of_running rfl
  rw [runTimes, kept, List.map_append]
  rfl

/-- A run that has ended leaves no times. -/
theorem runTimes_of_ended {use : Use A} (ended : ongoing (uses ++ [use]) = []) :
    runTimes (uses ++ [use]) = [] := by
  rw [runTimes, ended]
  rfl

/-- Times are added one after the other, and each sum is rounded. -/
def totalTime (times : List Float32) : Float32 := times.foldl (fun total time => total + time) 0

/-- The last delta time is added last. -/
theorem totalTime_concat (times : List Float32) (time : Float32) :
    totalTime (times ++ [time]) = totalTime times + time := List.foldl_concat _ _ _ _

namespace Node

variable {start node origin child final : Node A}

/-- A timeout expires once the time that has elapsed reaches its limit. It fails then without a tick of the
child, and aborts it: the abort is reported if the child is running, and for the child alone, and cancels
each pending operation below once. Until then it passes on what the child returns. In both cases nothing
remains elapsed unless the run goes on. -/
inductive Timed (limit elapsed : Float32) (child : Node A) (place : Place) (trace : Trace A) :
    Status → Float32 → Node A → Prop
  | expired {final : Node A} (late : limit ≤ elapsed)
      (entered : trace.entrances place = [])
      (idle : final.Everywhere Idle) (settled : final.pending = [])
      (told : (trace.within (0 :: place)).notices =
        if child.isRunning then [(0 :: place, .aborted child.info)] else [])
      (called : (trace.within (0 :: place)).calls.map Prod.snd = child.pending.map .cancelled) :
      Timed limit elapsed child place trace .failure 0 final
  | passed {status : Status} {final : Node A} (early : ¬ limit ≤ elapsed)
      (entered : trace.entrances place = [0])
      (returned : trace.returnsAt (0 :: place) = [status]) :
      Timed limit elapsed child place trace status (if status = .running then elapsed else 0) final

/-- A timeout deals with its child after the time that has elapsed with the tick. -/
theorem timed_of_deals (deals : Deals context (.timeout limit elapsed) child trace status next final) :
    ∃ remains, next = .timeout limit remains ∧
      Timed limit (elapsed + context.clock.deltaTime) child context.place trace status remains final := by
  by_cases late : limit ≤ elapsed + context.clock.deltaTime
  · have decides (answer running : Bool) : (Decorator.timeout limit elapsed : Decorator A).decide
        context.clock answer running = (.timeout limit 0, .abort .failure) := if_pos late
    obtain ⟨rfl, rfl, entered, evolves⟩ := deals.of_abort decides
    have idle : final.Everywhere Idle := by
      replace evolves : child.Evolves (context.child 0) ([] ++ [.aborted (.ok ())]) _ final := evolves
      exact evolves.idle_of_last (.inr rfl)
    obtain ⟨told, called⟩ := evolves.told
    exact ⟨0, rfl, .expired late entered idle (pending_of_idle idle) told called⟩
  · have decides (answer running : Bool) : (Decorator.timeout limit elapsed : Decorator A).decide
        context.clock answer running = (.timeout limit (elapsed + context.clock.deltaTime), .tick) :=
      if_neg late
    obtain ⟨_, rfl, rfl, entered, returned, _⟩ := deals.of_tick decides
    exact ⟨_, rfl, .passed late entered returned⟩

/-- A timeout has measured the time of its run. -/
theorem keepsUp_runTimes (limit : Float32) : KeepsUp D place fun (uses : List (Use A)) own _ =>
    own = .timeout limit (totalTime (runTimes uses)) where
  clears {_ _ _ _} holds clears := by
    rw [runTimes_of_ended (ongoing_of_cleared clears), holds]
    rfl
  ticks {uses _ _ _ _ _ _ _} _ holds deals := by
    rw [holds] at deals
    obtain ⟨remains, rfl, timed⟩ := timed_of_deals deals
    congr 1
    cases timed with
    | expired =>
        rw [runTimes_of_ended (ongoing_of_finished rfl (by decide))]
        rfl
    | passed =>
        split
        case isTrue running => rw [running, runTimes_of_running, totalTime_concat]
        case isFalse finished =>
          rw [runTimes_of_ended (ongoing_of_finished rfl finished)]
          rfl

/-- A timeout that expires abandons its child. -/
theorem Timed.abandons {total remains : Float32} {before after : Stage A D} {changed : Node A}
    (shape : node.body = .decorator (.timeout limit elapsed) child) (late : limit ≤ total)
    (timed : Timed limit total child context.place trace status remains final)
    (ticks : (node.tick context).Leads before trace ⟨changed, .ok status⟩ after) :
    node.Abandons child context [] before after := by
  cases timed with
  | passed early => exact absurd late early
  | expired _ _ _ _ told called =>
      obtain ⟨_, _, made, heard⟩ := framed_of_tick shape ticks
      have carries := (node.carried_tick context).of_leads ticks
      have performed := carries.performed
      have cancelled : trace.made = child.pending.map .cancelled := made.trans called
      have reported : (trace.within (0 :: context.place)).told =
          if child.isRunning then [.aborted child.info] else [] := by
        rw [Trace.told, told]
        cases child.isRunning <;> rfl
      rw [cancelled] at performed
      rw [reported] at heard
      refine ⟨performed.eq_cancelAll, ?_⟩
      rw [carries.heard, heard]
      rfl

/-- Whatever a timeout has gone through without a panic, it holds the total time of its run. Each of its
ticks adds its delta time to that, and expires if and only if the sum reaches the limit. On the stage all
that the trace tells is done and heard, and a timeout that expires abandons its child. -/
theorem timeout_expires (built : start.Built)
    (shape : start.body = .decorator (.timeout limit elapsed) origin)
    (diary : start.Diary D place uses node) :
    ∃ child, node.body = .decorator (.timeout limit (totalTime (runTimes uses))) child ∧
      ∀ (context : Context D) (before after : Stage A D) (trace : Trace A) (changed : Node A)
        (status : Status), context.place = place →
          (node.tick context).Leads before trace ⟨changed, .ok status⟩ after →
            trace.Carries context.sink before after ∧
            (limit ≤ totalTime (runTimes uses ++ [context.clock.deltaTime]) →
              node.Abandons child context [] before after) ∧
            ∃ remains final, changed.body = .decorator (.timeout limit remains) final ∧
              Timed limit (totalTime (runTimes uses ++ [context.clock.deltaTime])) child place trace
                status remains final := by
  have blank : (.timeout limit elapsed : Decorator A) =
      .timeout limit (totalTime (runTimes ([] : List (Use A)))) := (built.decorator shape).symm
  obtain ⟨_, child, body, rfl⟩ := diary.holds (keepsUp_runTimes limit) built shape blank
  refine ⟨child, body, ?_⟩
  rintro context before after trace changed status rfl ticks
  obtain ⟨_, final, shaped, deals⟩ := deals_of_tick body ticks
  obtain ⟨remains, rfl, timed⟩ := timed_of_deals deals
  rw [← totalTime_concat] at timed
  exact ⟨(node.carried_tick context).of_leads ticks, fun late => timed.abandons body late ticks,
    remains, final, shaped, timed⟩

end Node

namespace Sample

/-- The sample operation is given up after two seconds. -/
def rush : Node agent := .ofBody (.decorator (.timeout 2 0) (.asyncAction (A := agent) ()))

/-- A second has passed since the last tick, and a collecting sink is in place. -/
def ticking : Context (List Notice) := ⟨⟨1, 0⟩, some .collecting, Tree.rootPlace⟩

def hurried : Outcome agent (List Notice) (Attempt (Node agent) Status) := rush.tick ticking ⟨true, []⟩

def overdue : Outcome agent (List Notice) (Attempt (Node agent) Status) :=
  hurried.value.after.tick ticking ⟨true, []⟩

theorem built_rush : rush.Built := by
  have accepted : Node.timeout 2 (.asyncAction (A := agent) ()) = .ok rush :=
    if_pos ⟨rfl, by decide +kernel⟩
  exact .timeout accepted (.asyncAction _)

theorem diary_hurried : rush.Diary (List Notice) Tree.rootPlace
    [⟨1, .ticked (.ok .running), hurried.trace⟩] hurried.value.after := by
  have unused : rush.Diary (List Notice) Tree.rootPlace [] rush := .blank
  have ticks := Run.leads_self (rush.tick ticking) ⟨true, []⟩
  exact unused.used rfl (.ticked ticks) ⟨.running, rfl⟩

end Sample

/-- The second one of two seconds is too much: the running operation is aborted and cancelled, and the sink
hears of it. -/
theorem Node.rush_expires : ∃ operation final,
    Sample.hurried.value.after.body = .decorator (.timeout 2 1) operation ∧
      operation.isRunning = true ∧ operation.pending = [()] ∧
      Timed 2 2 operation Tree.rootPlace Sample.overdue.trace .failure 0 final ∧
      Sample.overdue.stage.debugger = [.entered Sample.rush.info ⟨1, 0⟩, .aborted operation.info,
        .left Sample.rush.info .failure ⟨1, 0⟩] := by
  obtain ⟨operation, body, timed⟩ :=
    timeout_expires Sample.built_rush rfl Sample.diary_hurried
  have ticks := Run.leads_self (Sample.hurried.value.after.tick Sample.ticking) ⟨true, []⟩
  obtain ⟨_, abandons, remains, final, _, timed⟩ := timed _ _ _ _ _ .failure rfl ticks
  have ran : runTimes [⟨1, .ticked (.ok .running), Sample.hurried.trace⟩] = [1] := rfl
  have before : totalTime [1] = 1 := by decide +kernel
  have after : totalTime ([1] ++ [Sample.ticking.clock.deltaTime]) = 2 := by decide +kernel
  rw [ran] at body abandons timed
  rw [before] at body
  rw [after] at abandons timed
  have only : Sample.hurried.value.after.children = [operation] := congrArg Body.children body
  have running : [operation].map isRunning = [true] := by
    rw [← only]
    rfl
  have pending : [operation].map Node.pending = [[()]] := by
    rw [← only]
    rfl
  have busy : operation.isRunning = true := (List.cons.inj running).1
  have heard := (abandons (by decide +kernel)).debugger
  rw [busy] at heard
  refine ⟨operation, final, body, busy, (List.cons.inj pending).1, ?_,
    heard.trans (Sink.hearAll_collecting _ [])⟩
  cases timed with
  | expired late entered idle settled told called =>
      exact .expired late entered idle settled told called
  | passed early => exact absurd (by decide +kernel) early

end Behavior
