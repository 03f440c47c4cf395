import Behavior.Breakpoints
import Behavior.Scenario.Blueprint
import Behavior.Scenario.View
import Behavior.Tree.Basic

namespace Behavior.Scenario

abbrev SessionRun := Run scripted Breakpoints

inductive SinkKind where
  | absent
  | silent
  | recording
  | lines
  | breakpoints
  deriving DecidableEq

/-- A sink may panic right after it has written the given line. -/
structure SinkPlan where
  kind : SinkKind
  panicOn : Option String

def noticeLine : Notice → String
  | .entered node clock =>
      "enter " ++ node.text ++ " f=" ++ toString clock.frame.toNat ++ " dt=" ++
        Decimal.bits clock.deltaTime
  | .left node status clock =>
      "leave " ++ node.text ++ " " ++ status.name ++ " f=" ++ toString clock.frame.toNat
  | .evaluated node value => "expr " ++ node.text ++ " " ++ toString value
  | .aborted node => "abort " ++ node.text

namespace SinkPlan

def panicAt (plan : SinkPlan) (line : String) : Option Panic :=
  if plan.panicOn = some line then some (.raised "sink panic") else none

def observeLine (plan : SinkPlan) (notice : Notice) (breakpoints : Breakpoints) :
    Reaction Breakpoints :=
  ⟨breakpoints, [.line (noticeLine notice)], plan.panicAt (noticeLine notice)⟩

def pausedText (breakpoints : Breakpoints) : String :=
  (breakpoints.paused.map NodeId.text).getD "-"

/-- A pause is resumed at once by a second party, unless the sink panics before. -/
def pause (plan : SinkPlan) (breakpoints : Breakpoints) : Reaction Breakpoints :=
  let before := "pause " ++ pausedText breakpoints
  match plan.panicAt before with
  | some panic => ⟨breakpoints, [.line before], some panic⟩
  | none =>
      let resumed := breakpoints.resume
      let after := "resumed " ++ pausedText resumed
      ⟨resumed, [.line before, .line after], plan.panicAt after⟩

def lineSink (plan : SinkPlan) : Sink Breakpoints :=
  { Sink.silent with observe := plan.observeLine }

def sink? (plan : SinkPlan) : Option (Sink Breakpoints) :=
  match plan.kind with
  | .absent => none
  | .silent => some .silent
  | .recording => some .recording
  | .lines => some plan.lineSink
  | .breakpoints =>
      some { plan.lineSink with
        breaksAt := fun node breakpoints => breakpoints.breaksAt node.id
        pause := plan.pause }

end SinkPlan

/-- Settings come from a document, or are given. -/
inductive SettingsPlan where
  | document (text : String)
  | given (settings : Settings)

def SettingsPlan.settings : SettingsPlan → Except SettingsError Settings
  | document text => Settings.ofYaml text
  | given settings => .ok settings

structure TreePlan where
  settings : SettingsPlan
  panics : Bool

def TreePlan.build (plan : TreePlan) (root : Node scripted) :
    SessionRun (Except Refusal (Tree scripted Breakpoints)) :=
  match plan.settings.settings with
  | .error error => pure (.error (.settings false error))
  | .ok settings => do
      let built ← Tree.build root settings
      pure (built.mapError (Refusal.settings plan.panics))

/-- A raw node has its own frame counter and sink; a tree keeps them itself. -/
inductive Subject where
  | raw (root : Node scripted) (frame : UInt64) (sink : Option (Sink Breakpoints))
  | owned (tree : Tree scripted Breakpoints)

namespace Subject

def root : Subject → Node scripted
  | raw root _ _ => root
  | owned tree => tree.root

def frame? : Subject → Option UInt64
  | raw _ _ _ => none
  | owned tree => some tree.frame

def hasSink : Subject → Bool
  | raw _ _ sink => sink.isSome
  | owned tree => tree.sink.isSome

/-- An absent sink replaces the sink of a raw node and leaves the one of a tree. -/
def install (subject : Subject) (sink : Option (Sink Breakpoints)) : Subject :=
  match subject, sink with
  | raw root frame _, sink => raw root frame sink
  | owned tree, some sink => .owned (tree.setSink sink)
  | owned tree, none => .owned tree

def clearSink : Subject → Subject
  | raw root frame _ => raw root frame none
  | owned tree => .owned tree.clearSink

/-- A frame that is given replaces the one of a raw node. -/
def setFrame (subject : Subject) (frame : Option UInt64) : Subject :=
  match subject, frame with
  | raw root _ sink, some frame => raw root frame sink
  | subject, _ => subject

/-- Each tick of a raw node advances its frame, also one that panics. -/
def tick (subject : Subject) (deltaTime : Float32) : SessionRun (Attempt Subject Status) :=
  match subject with
  | raw root frame sink => do
      let ticked ← root.tick ⟨⟨deltaTime, frame⟩, sink, Tree.rootPlace⟩
      pure (ticked.map fun root => raw root (frame + 1) sink)
  | owned tree => do
      let ticked ← tree.tick deltaTime
      pure (ticked.map .owned)

/-- The ticks end at the first panic. -/
def tickTimes (deltaTime : Float32) :
    Nat → Subject → SessionRun (Subject × List (Except Panic Status))
  | 0, subject => pure (subject, [])
  | count + 1, subject => do
      let ticked ← subject.tick deltaTime
      match ticked.result with
      | .error panic => pure (ticked.after, [.error panic])
      | .ok status => do
          let (subject, results) ← tickTimes deltaTime count ticked.after
          pure (subject, .ok status :: results)

def reset : Subject → SessionRun Subject
  | raw root frame sink => do
      let root ← root.reset Tree.rootPlace
      pure (raw root frame sink)
  | owned tree => do
      let tree ← tree.reset
      pure (.owned tree)

def abort : Subject → SessionRun (Attempt Subject Unit)
  | raw root frame sink => do
      let root ← root.abort Tree.rootPlace
      pure ⟨raw root frame sink, .ok ()⟩
  | owned tree => do
      let aborted ← tree.abort
      pure (aborted.map .owned)

end Subject

inductive Step where
  | tick (deltaTime : Float32) (count : Nat) (frame : Option UInt64)
  | reset
  | abort
  | show
  | setFlag (flag : String) (value : Bool)
  | setStatus (key : String) (status : Status)
  | complete (key : String) (success : Bool)
  | drop (key : String)
  | cancelled (key : String)
  | add (child : Blueprint)
  | wrap (plan : TreePlan)
  | setSink (plan : SinkPlan)
  | clearSink
  | renewSink
  | mark (id : NodeId)
  | clear (id : NodeId)
  | clearAll
  | resume
  | paused
  | find (id : NodeId)
  | snapshot
  | inspect (tall : Bool)
  | settings

/-- A result is what a step answers. -/
inductive Result where
  | nothing
  | ticks (results : List (Except Panic Status))
  | panic (panic : Panic)
  | truth (value : Bool)
  | truths (values : List (Option Bool))
  | refused (refusal : Refusal)
  | node (id : NodeId)
  | text (text : String)
  | snapshot (view : SnapshotView)
  | settings (tree : String) (view : SettingsView)

/-- An answer shows the result of a step, its log, and parts of the subject after it. -/
structure Answer where
  result : Result
  log : List String
  state : Option (List String)
  frame : Option UInt64

/-- A session keeps records of the trees only if it traces, and shows less if it is quiet. -/
structure Session where
  subject : Subject
  stage : Stage scripted Breakpoints
  traces : Bool
  quiet : Bool

namespace Session

def outputLine (traces : Bool) : Output → Option String
  | .line text => some text
  | .record record => if traces then some (recordLine record) else none

def logOf (traces : Bool) (trace : Trace scripted) : List String :=
  trace.outputs.filterMap (outputLine traces)

def answer (session : Session) (result : Result) (trace : Trace scripted) (shows : Bool) :
    Answer × Session :=
  let state := if shows then some (stateLines session.subject.root) else none
  (⟨result, logOf session.traces trace, state, session.subject.frame?⟩, session)

/-- A run acts on the stage of the session and gives its next subject. -/
def perform (session : Session) (shows : Bool) (run : SessionRun (Subject × Result)) :
    Answer × Session :=
  let outcome := run session.stage
  let session := { session with subject := outcome.value.1, stage := outcome.stage }
  session.answer outcome.value.2 outcome.trace (shows && !session.quiet)

def reply (session : Session) (result : Result) : Answer × Session := session.answer result [] false

def board (session : Session) : Blackboard := session.stage.agent

def withBoard (session : Session) (board : Blackboard) : Session :=
  { session with stage := { session.stage with agent := board } }

def withBreakpoints (session : Session) (breakpoints : Breakpoints) : Session :=
  { session with stage := { session.stage with debugger := breakpoints } }

def pendingOperations (node : Node scripted) : List Operation :=
  node.preorder.filterMap fun node =>
    match node.body with
    | .leaf (.asyncAction _ pending) => pending
    | _ => none

/-- The operations of a node that is given up are released. -/
def releaseAll (node : Node scripted) (board : Blackboard) : Blackboard :=
  (pendingOperations node).foldl (fun board operation => release operation board) board

/-- A replacement stands where a tree was refused. -/
def replacement : Node scripted :=
  Node.condition (A := scripted) ⟨⟨"", .constant true⟩, 0⟩

/-- The sink of a raw node moves to its tree. A node whose tree is refused is given up. -/
def wrap (session : Session) (plan : TreePlan) : Answer × Session :=
  match session.subject with
  | .raw root frame sink =>
      let outcome := plan.build root session.stage
      let session := { session with stage := outcome.stage }
      match outcome.value with
      | .ok tree =>
          let session := { session with subject := (Subject.owned tree).install sink }
          session.answer .nothing outcome.trace !session.quiet
      | .error refusal =>
          let session := session.withBoard (releaseAll root session.board)
          let session := { session with subject := .raw replacement frame sink }
          session.answer (.refused refusal) outcome.trace !session.quiet
  | .owned _ => session.reply .nothing

/-- A child is built and then appended to a raw node. -/
def add (session : Session) (blueprint : Blueprint) : Answer × Session :=
  match session.subject with
  | .raw root frame sink =>
      match blueprint.build session.board with
      | .error refusal => session.answer (.refused refusal) [] !session.quiet
      | .ok (child, board) =>
          let session := session.withBoard board
          match root.addChild child with
          | .ok root =>
              let session := { session with subject := .raw root frame sink }
              session.answer .nothing [] !session.quiet
          | .error error => session.answer (.refused (.build false error)) [] !session.quiet
  | .owned _ => session.reply .nothing

def step (session : Session) : Step → Answer × Session
  | .tick deltaTime count frame =>
      session.perform true do
        let (subject, results) ← (session.subject.setFrame frame).tickTimes deltaTime count
        pure (subject, .ticks results)
  | .reset =>
      session.perform true do
        let subject ← session.subject.reset
        pure (subject, .nothing)
  | .abort =>
      session.perform true do
        let aborted ← session.subject.abort
        match aborted.result with
        | .ok () => pure (aborted.after, .nothing)
        | .error panic => pure (aborted.after, .panic panic)
  | .show => session.answer .nothing [] true
  | .setFlag flag value => (session.withBoard (session.board.setFlag flag value)).reply .nothing
  | .setStatus key status => (session.withBoard (session.board.setStatus key status)).reply .nothing
  | .complete key success =>
      let (heard, board) := session.board.complete key success
      (session.withBoard board).reply ((heard.map Result.truth).getD .nothing)
  | .drop key =>
      let (dropped, board) := session.board.drop key
      (session.withBoard board).reply (.truth dropped)
  | .cancelled key => session.reply (.truths (session.board.cancelled key))
  | .add child => session.add child
  | .wrap plan => session.wrap plan
  | .setSink plan => { session with subject := session.subject.install plan.sink? }.reply .nothing
  | .clearSink =>
      { session with subject := session.subject.clearSink }.reply (.truth session.subject.hasSink)
  | .renewSink => session.reply (.truth session.subject.hasSink)
  | .mark id => (session.withBreakpoints (session.stage.debugger.mark id)).reply .nothing
  | .clear id =>
      let (marked, breakpoints) := session.stage.debugger.clear id
      (session.withBreakpoints breakpoints).reply (.truth marked)
  | .clearAll => (session.withBreakpoints session.stage.debugger.clearAll).reply .nothing
  | .resume => (session.withBreakpoints session.stage.debugger.resume).reply .nothing
  | .paused => session.reply ((session.stage.debugger.paused.map Result.node).getD .nothing)
  | .find id =>
      let found := session.subject.root.find? id
      session.reply ((found.map fun node => Result.text (nodeText node)).getD .nothing)
  | .snapshot => session.reply (.snapshot (.of (.capture session.subject.root)))
  | .inspect tall =>
      let layout := session.subject.root.layout
      session.reply (.text (if tall then layout.tall 0 else layout.flat))
  | .settings =>
      match session.subject with
      | .owned tree => session.reply (.settings tree.name (.of tree.settings))
      | .raw _ _ _ => session.reply .nothing

def steps (session : Session) : List Step → List Answer
  | [] => []
  | step :: rest =>
      let (answer, session) := session.step step
      answer :: session.steps rest

end Session

/-- An experiment builds its subject and takes its steps in order. -/
structure Experiment where
  root : Blueprint
  tree : Option TreePlan
  sink : Option SinkPlan
  traces : Bool
  quiet : Bool
  steps : List Step

namespace Experiment

/-- The first answer describes the fresh subject. -/
def run (experiment : Experiment) : Except Refusal (List Answer) := do
  let (root, board) ← experiment.root.build .empty
  let stage : Stage scripted Breakpoints := ⟨board, .empty⟩
  let start (subject : Subject) (stage : Stage scripted Breakpoints) (trace : Trace scripted) :
      List Answer :=
    let sink := (experiment.sink.map SinkPlan.sink?).getD none
    let session : Session := ⟨subject.install sink, stage, experiment.traces, experiment.quiet⟩
    (session.answer .nothing trace true).1 :: session.steps experiment.steps
  match experiment.tree with
  | none => pure (start (.raw root 0 none) stage [])
  | some plan =>
      let outcome := plan.build root stage
      let tree ← outcome.value
      pure (start (.owned tree) outcome.stage outcome.trace)

end Experiment

end Behavior.Scenario
