import Behavior.Proofs.Lockstep.Routine
import Behavior.Proofs.Renewal.Cancellation
import Behavior.Proofs.Trace.Made

namespace Behavior

variable {A : Agent} {D : Type}

/-- An agent performs calls one after the other: it goes from state to state and gives the outcomes
that the calls tell of. -/
inductive Agent.Performs (A : Agent) : A.State → List (Call A) → A.State → Prop
  | done (state : A.State) : Performs A state [] state
  | called {Value : Type} {reply : A.State → Reply A.State Value} {describe : Value → Call A}
      {before after : A.State} {calls : List (Call A)} (offers : A.Offers reply describe)
      (rest : Performs A (reply before).state calls after) :
      Performs A before (describe (reply before).value :: calls) after

namespace Agent

variable {before middle after : A.State} {first second : List (Call A)}

/-- Calls are performed one after the other. -/
theorem Performs.append (performs : A.Performs before first middle)
    (rest : A.Performs middle second after) : A.Performs before (first ++ second) after := by
  induction performs with
  | done => exact rest
  | called offers _ inductionHypothesis => exact .called offers (inductionHypothesis rest)

/-- Performed cancellations make of the state what cancelling makes of it. -/
theorem Performs.eq_cancelAll {operations : List A.Operation}
    (performs : A.Performs before (operations.map .cancelled) after) :
    after = A.cancelAll operations before := by
  induction operations generalizing before with
  | nil =>
      cases performs
      rfl
  | cons operation rest inductionHypothesis =>
      generalize listed : (operation :: rest).map Call.cancelled = calls at performs
      cases performs with
      | done => cases listed
      | called offers performs =>
          obtain ⟨same, rfl⟩ := List.cons.inj listed
          cases offers <;> cases same
          exact inductionHypothesis performs

/-- A performed test gives the outcome that it tells of. -/
theorem Performs.of_tested {predicate : A.Predicate} {outcome : Except Panic Bool}
    (performs : A.Performs before (.tested predicate outcome :: first) after) :
    (A.test predicate before).value = outcome ∧
      A.Performs (A.test predicate before).state first after := by
  generalize listed : Call.tested predicate outcome :: first = calls at performs
  cases performs with
  | done => cases listed
  | called offers performs =>
      obtain ⟨same, rfl⟩ := List.cons.inj listed
      cases offers <;> cases same
      exact ⟨rfl, performs⟩

end Agent

namespace Sink

/-- A sink hears a notice when it observes it. Where a node is entered it may also pause, unless it has
panicked. -/
def hear (sink : Sink D) (debugger : D) (notice : Notice) : D :=
  let observed := sink.observe notice debugger
  match notice, observed.panic with
  | .entered node _, none =>
      let (breaks, debugger) := sink.breaksAt node observed.debugger
      if breaks then (sink.pause debugger).debugger else debugger
  | _, _ => observed.debugger

/-- What the notices, one after the other, make of the debugger of a sink. Without a sink nobody hears
them. -/
def hearAll (sink : Option (Sink D)) (notices : List Notice) (debugger : D) : D :=
  match sink with
  | some sink => notices.foldl sink.hear debugger
  | none => debugger

theorem hearAll_nil (sink : Option (Sink D)) (debugger : D) : hearAll sink [] debugger = debugger := by
  cases sink <;> rfl

/-- A sink hears one notice after the other. -/
theorem hearAll_append (sink : Option (Sink D)) (first second : List Notice) (debugger : D) :
    hearAll sink (first ++ second) debugger = hearAll sink second (hearAll sink first debugger) := by
  cases sink with
  | none => rfl
  | some sink => exact List.foldl_append

/-- No pause follows what is no entry. -/
theorem hear_of_not_entry {notice : Notice} (other : notice.isEntry = false) (sink : Sink D)
    (debugger : D) : sink.hear debugger notice = (sink.observe notice debugger).debugger := by
  cases notice with
  | entered => cases other
  | left | evaluated | aborted => rfl

end Sink

/-- A trace carries one stage to another if the agent performs its calls and the sink hears its
notices, in their order and with nothing else. -/
structure Trace.Carries (trace : Trace A) (sink : Option (Sink D)) (before after : Stage A D) :
    Prop where
  performed : A.Performs before.agent trace.made after.agent
  heard : after.debugger = Sink.hearAll sink trace.told before.debugger

/-- An empty trace changes nothing. -/
theorem Trace.carries_nil (sink : Option (Sink D)) (stage : Stage A D) :
    Trace.Carries [] sink stage stage :=
  ⟨.done _, (Sink.hearAll_nil sink _).symm⟩

/-- Two traces carry a stage further than one. -/
theorem Trace.Carries.append {first second : Trace A} {sink : Option (Sink D)}
    {before middle after : Stage A D} (carries : first.Carries sink before middle)
    (rest : second.Carries sink middle after) : (first ++ second).Carries sink before after where
  performed := by
    rw [Trace.made_append]
    exact carries.performed.append rest.performed
  heard := by
    rw [Trace.told_append, Sink.hearAll_append, ← carries.heard]
    exact rest.heard

namespace Run

variable {Value Next : Type} {sink : Option (Sink D)}

/-- A run is carried by its trace from every stage on. -/
def Carried (sink : Option (Sink D)) (run : Run A D Value) : Prop :=
  ∀ stage, (run stage).trace.Carries sink stage (run stage).stage

theorem carried_pure (value : Value) : (pure value : Run A D Value).Carried sink :=
  fun stage => Trace.carries_nil sink stage

/-- Runs that are carried are carried one after the other. -/
theorem Carried.bind {run : Run A D Value} {next : Value → Run A D Next} (first : run.Carried sink)
    (rest : ∀ stage, (next (run stage).value).Carried sink) : (run >>= next).Carried sink := by
  intro stage
  rw [bind_apply]
  exact (first stage).append (rest stage _)

/-- A call is performed by the agent, and no sink hears of it. -/
theorem carried_call {reply : A.State → Reply A.State Value} {describe : Value → Call A} (place : Place)
    (offers : A.Offers reply describe) :
    (call place reply describe : Run A D Value).Carried sink := by
  intro stage
  have called := leads_self (call place reply describe) stage
  constructor
  · rw [called.made]
    exact .called offers (.done _)
  · rw [called.told]
    exact (Sink.hearAll_nil sink _).symm

end Run

namespace Context

variable {context : Context D} {notice : Notice} {before after : Stage A D} {trace : Trace A}
  {sink : Option (Sink D)}

/-- What is told leaves the agent alone. -/
theorem Tells.carries (tells : context.Tells notice trace)
    (heard : after = ⟨before.agent, Sink.hearAll sink [notice] before.debugger⟩) :
    trace.Carries sink before after := by
  subst heard
  constructor
  · rw [tells.made]
    exact .done _
  · rw [tells.told]

/-- A notice that is no entry is observed and nothing else. -/
theorem carried_notify (installed : context.sink = sink) (notice : Notice)
    (other : notice.isEntry = false) :
    (context.notify notice : Run A D (Except Panic Unit)).Carried sink := by
  intro stage
  have tells := tells_of_notify (Run.leads_self (context.notify notice : Run A D _) stage)
  refine tells.carries ?_
  unfold notify
  rw [installed, Run.bind_apply]
  cases sink with
  | none => rfl
  | some sink =>
      have observed := (sink.hear_of_not_entry other stage.debugger).symm
      exact congrArg (Stage.mk stage.agent) observed

/-- A sink hears of an entry when it observes it and when it is asked for a pause. -/
theorem carried_enter (installed : context.sink = sink) (info : NodeInfo) :
    (context.enter info : Run A D (Except Panic Unit)).Carried sink := by
  intro stage
  have tells := tells_of_enter (Run.leads_self (context.enter info : Run A D _) stage)
  refine tells.carries ?_
  unfold enter notify pauseBefore
  rw [installed, Run.bind_apply, Run.bind_apply]
  cases sink with
  | none => rfl
  | some sink =>
      simp only [Sink.hearAll, Sink.hear, react, Run.enter, List.foldl_cons, List.foldl_nil]
      -- The sink is asked for a pause unless it has panicked.
      cases (sink.observe (.entered info context.clock) stage.debugger).panic with
      | some panic => rfl
      | none =>
          dsimp only
          split <;> rfl

end Context

/-- Whatever nodes do is carried by its trace. -/
def Run.carrying (sink : Option (Sink D)) : Routine A D where
  Keeps run := run.Carried sink
  Admits context := context.sink = sink
  child installed _ := installed
  pure := Run.carried_pure
  bind := Run.Carried.bind
  cleared _ _ := ⟨.done _, (Sink.hearAll_nil sink _).symm⟩
  write _ _ _ := ⟨.done _, (Sink.hearAll_nil sink _).symm⟩
  call := Run.carried_call
  notify := Context.carried_notify
  enter := Context.carried_enter

/-- Wherever a carried run leads, its trace carries the stage there. -/
theorem Run.Carried.of_leads {Value : Type} {run : Run A D Value} {sink : Option (Sink D)}
    {before after : Stage A D} {trace : Trace A} {value : Value} (carried : run.Carried sink)
    (leads : run.Leads before trace value after) : trace.Carries sink before after := by
  have carries := carried before
  rwa [leads] at carries

/-- The trace of a tick tells all that the tick does to the agent and to the debugger of its sink. -/
theorem Node.carried_tick (node : Node A) (context : Context D) :
    (node.tick context).Carried context.sink :=
  (Run.carrying context.sink).tick rfl node

/-- A reset is carried by its trace, and no sink hears of it. -/
theorem Node.carried_reset (node : Node A) (place : Place) (sink : Option (Sink D)) :
    (node.reset place : Run A D (Node A)).Carried sink := by
  have installed : (⟨.zero, sink, place⟩ : Context D).sink = sink := rfl
  exact (Run.carrying sink).reset installed node

/-- The trace of whatever a tree is told to do tells all that it does to the agent and to the debugger
of the sink of the tree. -/
theorem Tree.carried_obey (tree : Tree A D) (order : Order D) : (tree.obey order).Carried tree.sink :=
  (Run.carrying tree.sink).obey (fun _ => rfl) order

/-- A tick of a tree is carried with the sink of the tree. -/
theorem Tree.carried_tick (tree : Tree A D) (deltaTime : Float32) :
    (tree.tick deltaTime).Carried tree.sink :=
  (Run.carrying tree.sink).treeTick (fun _ => rfl) deltaTime

/-- Nobody is called or told anything when a tree is built. -/
theorem Tree.carried_build (root : Node A) (settings : Settings) (sink : Option (Sink D)) :
    (build root settings : Run A D (Except SettingsError (Tree A D))).Carried sink := by
  unfold build
  split
  · exact Run.carried_pure _
  · exact ((Run.carrying sink).write _ _).bind fun _ => Run.carried_pure _

namespace Host

/-- A host acts on a stage, from the one that it finds to the one that it leaves, while a sink is in place.
A node on its own is ticked with any sink, and nothing else that is done to it is heard. -/
inductive Acts : Host A D → Option (Sink D) → Stage A D → Trace A → Except Panic (Option Status) →
    Host A D → Stage A D → Prop
  | ticked {context : Context D} {node changed : Node A} {before after : Stage A D}
      {trace : Trace A} {result : Except Panic Status} (rooted : context.place = Tree.rootPlace)
      (ticks : (node.tick context).Leads before trace ⟨changed, result⟩ after) :
      Acts (.bare node) context.sink before trace (result.map some) (.bare changed) after
  | reset {sink : Option (Sink D)} {node changed : Node A} {before after : Stage A D} {trace : Trace A}
      (resets : (node.reset Tree.rootPlace).Leads before trace changed after) :
      Acts (.bare node) sink before trace (.ok none) (.bare changed) after
  | aborted {sink : Option (Sink D)} {node changed : Node A} {before after : Stage A D} {trace : Trace A}
      (aborts : (node.abort Tree.rootPlace).Leads before trace changed after) :
      Acts (.bare node) sink before trace (.ok none) (.bare changed) after
  | planted {sink : Option (Sink D)} {node : Node A} {settings : Settings} {tree : Tree A D}
      {before after : Stage A D} {trace : Trace A}
      (builds : (Tree.build node settings).Leads before trace (.ok tree) after) :
      Acts (.bare node) sink before trace (.ok none) (.planted tree) after
  | obeyed {tree changed : Tree A D} {order : Order D} {before after : Stage A D}
      {trace : Trace A} {result : Except Panic (Option Status)}
      (obeys : (tree.obey order).Leads before trace ⟨changed, result⟩ after) :
      Acts (.planted tree) tree.sink before trace result (.planted changed) after

variable {host next : Host A D} {sink : Option (Sink D)} {before after : Stage A D} {trace : Trace A}
  {result : Except Panic (Option Status)}

/-- A step of a host gives it a child and leaves no trace, or is an act on some stage. -/
theorem Steps.acts {adds : Node A → Prop} (steps : host.Steps adds trace result next) :
    trace = [] ∨ ∃ sink before after, host.Acts sink before trace result next after := by
  cases steps with
  | ticked rooted ticks => exact .inr ⟨_, _, _, .ticked rooted ticks⟩
  | reset resets => exact .inr ⟨none, _, _, .reset resets⟩
  | aborted aborts => exact .inr ⟨none, _, _, .aborted aborts⟩
  | extended => exact .inl rfl
  | planted builds => exact .inr ⟨none, _, _, .planted builds⟩
  | obeyed obeys => exact .inr ⟨_, _, _, .obeyed obeys⟩

/-- Every act is carried by its trace. -/
theorem Acts.carries (acts : host.Acts sink before trace result next after) :
    trace.Carries sink before after := by
  cases acts with
  | ticked _ ticks => exact (Node.carried_tick _ _).of_leads ticks
  | reset resets => exact (Node.carried_reset _ _ _).of_leads resets
  | aborted aborts =>
      rw [Node.abort_eq_reset] at aborts
      exact (Node.carried_reset _ _ _).of_leads aborts
  | planted builds => exact (Tree.carried_build _ _ _).of_leads builds
  | obeyed obeys => exact (Tree.carried_obey _ _).of_leads obeys

/-- Only root ticks return a status. -/
theorem Acts.ticks {status : Status} (acts : host.Acts sink before trace (.ok (some status)) next after) :
    host.Ticks trace (.ok status) next := by
  generalize returned : (.ok (some status) : Except Panic (Option Status)) = result at acts
  cases acts with
  | @ticked _ _ _ _ _ _ result rooted ticks =>
      match result with
      | .ok _ =>
          cases returned
          exact .bare rooted ticks
  | reset | aborted | planted => cases returned
  | @obeyed _ _ order _ _ _ _ obeys =>
      subst returned
      cases order with
      | tick deltaTime =>
          obtain ⟨⟨_, result⟩, ticks, rfl, same⟩ := Run.leads_bind_attempt.1 obeys
          match result with
          | .ok _ =>
              cases same
              exact .planted ticks
      | reset =>
          obtain ⟨_, _, _, same⟩ := Run.leads_bind_attempt.1 obeys
          cases same
      | abort =>
          obtain ⟨⟨_, result⟩, _, _, same⟩ := Run.leads_bind_attempt.1 obeys
          cases result <;> cases same
      | setSink | clearSink =>
          obtain ⟨_, same, _⟩ := Run.leads_attempt.1 obeys
          cases same

end Host

/-- A collecting sink keeps the notices that it observes, and never pauses. -/
def Sink.collecting : Sink (List Notice) where
  observe notice heard := .none (heard ++ [notice])
  breaksAt _ heard := (false, heard)
  pause heard := .none heard

/-- A collecting sink has heard what it has been told. -/
theorem Sink.hearAll_collecting (notices heard : List Notice) :
    hearAll (some collecting) notices heard = heard ++ notices := by
  induction notices generalizing heard with
  | nil => exact (List.append_nil heard).symm
  | cons notice rest inductionHypothesis =>
      have first : collecting.hear heard notice = heard ++ [notice] := by
        cases notice <;> rfl
      have later := inductionHypothesis (heard ++ [notice])
      rw [List.append_assoc] at later
      rw [hearAll, List.foldl_cons, first]
      exact later

namespace Sample

/-- A collecting sink is in place. -/
def attentive : Context (List Notice) := ⟨.zero, some .collecting, Tree.rootPlace⟩

/-- A sample node is ticked while a collecting sink hears it from the beginning on. -/
def heard (node : Node agent) (flag : Bool) :
    Outcome agent (List Notice) (Attempt (Node agent) Status) :=
  node.tick attentive ⟨flag, []⟩

variable {adds : Node agent → Prop} {ends : Except Panic (Option Status) → Prop}

/-- The sample root waits for its operation also if it is heard. -/
theorem history_heard (calm : ∀ status, ends (.ok status)) :
    (Host.bare (D := List Notice) root).History adds ends (heard root true).trace (.bare waiting) := by
  have ticks : (Host.bare (D := List Notice) root).Steps adds _ _ _ :=
    Host.steps_of_tick root attentive rfl ⟨true, []⟩
  have history := Host.History.step .start ticks (calm (some .running))
  rwa [List.nil_append] at history

/-- What a sample node does on its own is an act of it. -/
theorem acts_heard (node : Node agent) (flag : Bool) :
    (Host.bare node).Acts (some .collecting) ⟨flag, []⟩ (heard node flag).trace
      ((heard node flag).value.result.map some) (.bare (heard node flag).value.after)
      (heard node flag).stage :=
  Host.Acts.ticked rfl (Run.leads_self (node.tick attentive) ⟨flag, []⟩)

end Sample

end Behavior
