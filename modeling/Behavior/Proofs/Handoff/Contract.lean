import Behavior.Proofs.Handoff.Inbox
import Behavior.Proofs.Handoff.Reserving
import Behavior.Proofs.Handoff.Visiting
import Behavior.Proofs.Handoff.Workplace

namespace Behavior

variable {A : Agent} {D : Type} {board : A.Switchboard} {number : Nat} {path : Place}
  {operation : A.Operation}

namespace Workplace

variable {start here next final : Workplace A D} {move : Move D} {trace later since : Trace A}
  {channel : Channel}

/-- What holds where an operation with a line has been started. -/
structure Keeps (board : A.Switchboard) (workplace : Workplace A D) (path : Place)
    (operation : A.Operation) (number : Nat) (since : Trace A) (node : Node A) (channel : Channel) :
    Prop where
  leads : workplace.tree.root.descendant? path = some node
  attentive : node.Attentive
  active : node.body.starter?.isSome
  present : (board.channels workplace.stage.agent)[number]? = some channel
  custody : Custody board.line? number operation node.body.pending? channel
  told : channel.Held → (channel.closed = true ↔ .cleared ∈ since.doingsAt path)

/-- From its start on, an operation is kept. -/
theorem Runs.keeps (runs : Runs board start trace here) (sound : board.Sound start.stage.agent)
    (vacant : start.tree.root.Vacant) (starts : trace.Starts path operation since)
    (line : board.line? operation = some number) :
    ∃ node channel, here.Keeps board path operation number since node channel := by
  have attends := runs.attendsThrough
  have reserved := (runs.replays sound).2.reserved starts line attends vacant
  obtain ⟨earlier, source, rfl⟩ := starts
  obtain ⟨_, _, late⟩ := (runs.replays sound).2.split
  obtain ⟨_, opened, _, fresh, there, _, replays⟩ := late.of_started line
  obtain ⟨channel, present, serves⟩ := replays.serves there reserved.apart
  have started : .called (.started source (.ok operation)) ∈
      (earlier ++ ⟨path, .call (.started source (.ok operation))⟩ :: since).doingsAt path := by
    simp [Trace.doingsAt_cons_call]
  obtain ⟨node, leads, attentive, attended⟩ := attends.of_vacant vacant started
  rw [Trace.doingsAt_append, Trace.doingsAt_cons_call] at attended
  obtain ⟨own, attended⟩ := attended.of_started
  obtain ⟨unclosed, nothing⟩ := fresh.receiver
  have watched := Watched.of_attends attended serves line unclosed nothing
  exact ⟨node, channel, {
    leads
    attentive
    active := by rw [own]; rfl
    present
    custody := watched.custody unclosed nothing reserved.doingsAt
    told := watched.closed_iff unclosed }⟩

/-- The line of a started operation stays reserved for its place. -/
theorem Runs.reserved (runs : Runs board start trace here) (sound : board.Sound start.stage.agent)
    (vacant : start.tree.root.Vacant) (starts : trace.Starts path operation since)
    (line : board.line? operation = some number) (more : Runs board here later final) :
    later.Reserved board.line? number path := by
  have whole := runs.trans more
  exact ((whole.replays sound).2.reserved starts.append line whole.attendsThrough vacant).right

/-- The channel of a pending operation is watched from then on. -/
theorem Runs.watched {node : Node A} (runs : Runs board here later final)
    (sound : board.Sound here.stage.agent) (leads : here.tree.root.descendant? path = some node)
    (attentive : node.Attentive) (waits : node.body.pending? = some operation)
    (line : board.line? operation = some number)
    (present : (board.channels here.stage.agent)[number]? = some channel)
    (unclosed : channel.closed = false) (nothing : channel.received = none)
    (reserved : later.Reserved board.line? number path) :
    ∃ left changed, (board.channels final.stage.agent)[number]? = some changed ∧
      Watched board.line? number node.body.starter? operation channel (later.doingsAt path) left
        changed := by
  obtain ⟨changed, listed, serves⟩ := (runs.replays sound).2.serves present reserved.apart
  obtain ⟨_, _, _, _, attends⟩ := runs.attendsThrough.inside path node leads attentive
  rw [waits] at attends
  exact ⟨_, changed, listed, .of_attends attends serves line unclosed nothing⟩

/-- In an order to the tree, an asynchronous action that is entered is visited, unless the sink panics. -/
theorem Steps.visited {node : Node A} {order : Order D} {result : Except Panic (Option Status)}
    (steps : here.Steps board (.ordered order result) trace next)
    (quiet : ∀ sink, here.tree.sink = some sink → sink.Quiet)
    (leads : here.tree.root.descendant? path = some node) (active : node.body.starter?.isSome)
    (entered : .entered ∈ trace.signsAt path) : trace.doingsAt path ≠ [] := by
  cases steps with
  | ordered obeys =>
      obtain ⟨context, _, rooted, same, evolves, _⟩ := Host.evolves_of_obey obeys
      have unheard : context.Quiet := fun sink installed => quiet sink (same.symm.trans installed)
      have place : path ++ context.place = path := by rw [rooted, Tree.rootPlace, List.append_nil]
      rw [← place] at entered ⊢
      exact evolves.visited unheard leads active entered

/-- What holders of completions and the node of an operation can rely on. A completion is heard if and
only if the operation is pending, and then its outcome is what the node reports at its next visit, once.
A dropped completion is reported as a failure in the same way. Until either, the node reports running at
each visit. A tick that enters the node visits it. The completion is cancelled if and only if the node
has been cleared since the start of the operation. -/
structure HandsOff (board : A.Switchboard) (here : Workplace A D) (path : Place)
    (operation : A.Operation) (number : Nat) (since : Trace A) : Prop where
  heard : ∀ {success heard : Bool} {next : Workplace A D},
    here.Steps board (.completed number success heard) [] next →
      (heard = true ↔ here.Pending path operation)
  delivers : ∀ {success : Bool} {next final : Workplace A D} {later : Trace A},
    here.Steps board (.completed number success true) [] next → Runs board next later final →
      Concludes board.line? number operation success (later.doingsAt path)
  fails : ∀ {next final : Workplace A D} {later : Trace A},
    here.Steps board (.dropped number) [] next → here.Pending path operation →
      Runs board next later final →
        Concludes board.line? number operation false (later.doingsAt path)
  awaits : ∀ {final : Workplace A D} {later : Trace A} {channel : Channel},
    here.Pending path operation → Runs board here later final → final.Owes board number channel →
      Awaits board.line? number operation (later.doingsAt path)
  visited : ∀ {order : Order D} {result : Except Panic (Option Status)} {next : Workplace A D}
    {trace : Trace A}, here.Steps board (.ordered order result) trace next →
      (∀ sink, here.tree.sink = some sink → sink.Quiet) → .entered ∈ trace.signsAt path →
        trace.doingsAt path ≠ []
  cancelled : ∀ {cancelled : Bool} {next : Workplace A D},
    here.Steps board (.asked number cancelled) [] next →
      (cancelled = true ↔ .cleared ∈ since.doingsAt path)

/-- An operation is pending at a path if it is pending on the node that is kept there. -/
theorem Keeps.pending_iff {node : Node A}
    (keeps : here.Keeps board path operation number since node channel) :
    here.Pending path operation ↔ node.body.pending? = some operation := by
  unfold Pending
  rw [keeps.leads]
  simp

/-- If its completion is settled while it is pending, an operation is concluded. -/
theorem Keeps.concludes {node : Node A} {success : Bool} {given : Channel}
    (keeps : here.Keeps board path operation number since node channel)
    (runs : Runs board next later final) (same : next.tree = here.tree)
    (sound : board.Sound next.stage.agent)
    (sets : board.channels next.stage.agent = (board.channels here.stage.agent).set number given)
    (handled : channel.Handled given) (settled : given.Settled success)
    (pending : here.Pending path operation) (line : board.line? operation = some number)
    (reserved : later.Reserved board.line? number path) :
    Concludes board.line? number operation success (later.doingsAt path) := by
  have waits := keeps.pending_iff.1 pending
  have custody := keeps.custody
  obtain ⟨unclosed, nothing⟩ := handled.receiver
  rw [(custody.closed_eq_false_iff line).2 waits] at unclosed
  rw [waits] at custody
  rw [custody.received_eq_none line] at nothing
  have present : (board.channels next.stage.agent)[number]? = some given := by
    rw [sets]
    exact List.getElem?_set_self (List.getElem?_eq_some_iff.1 keeps.present).1
  have leads := keeps.leads
  rw [← same] at leads
  obtain ⟨_, _, _, watched⟩ := runs.watched sound leads keeps.attentive waits line present unclosed
    nothing reserved
  exact watched.concludes settled keeps.active reserved.doingsAt

/-- Where an operation is kept, its hand-off goes as it should. -/
theorem Keeps.handsOff {node : Node A}
    (keeps : here.Keeps board path operation number since node channel)
    (line : board.line? operation = some number) (sound : board.Sound here.stage.agent)
    (reserves : ∀ {later : Trace A} {final : Workplace A D}, Runs board here later final →
      later.Reserved board.line? number path) :
    here.HandsOff board path operation number since where
  heard steps := by
    cases steps with
    | completed success owes =>
        obtain rfl := Option.some.inj (keeps.present.symm.trans owes.present)
        rw [Channel.complete_heard, keeps.pending_iff, ← keeps.custody.closed_eq_false_iff line,
          Bool.not_eq_true']
  delivers {success next final later} steps runs := by
    have reserved := reserves ((Runs.start.step steps).trans runs)
    generalize heard : true = answer at steps
    cases steps with
    | completed success owes kept sets =>
        obtain rfl := Option.some.inj (keeps.present.symm.trans owes.present)
        rw [Channel.complete_heard, eq_comm, Bool.not_eq_true'] at heard
        have waits := (keeps.custody.closed_eq_false_iff line).1 heard
        have settled : (channel.complete success).2.Settled success := by
          rw [Channel.complete, heard]
          exact .inl rfl
        exact keeps.concludes runs rfl kept sets (.completed owes.held success) settled
          (keeps.pending_iff.2 waits) line reserved
  fails steps pending runs := by
    have reserved := reserves ((Runs.start.step steps).trans runs)
    cases steps with
    | dropped owes kept sets =>
        obtain rfl := Option.some.inj (keeps.present.symm.trans owes.present)
        exact keeps.concludes runs rfl kept sets (.dropped owes.held) (.inr ⟨rfl, rfl⟩) pending line
          reserved
  awaits pending runs owes := by
    have waits := keeps.pending_iff.1 pending
    have custody := keeps.custody
    have unclosed := (custody.closed_eq_false_iff line).2 waits
    rw [waits] at custody
    obtain ⟨_, _, present, watched⟩ := runs.watched sound keeps.leads keeps.attentive waits line
      keeps.present unclosed (custody.received_eq_none line) (reserves runs)
    obtain rfl := Option.some.inj (present.symm.trans owes.present)
    exact watched.awaits owes.held keeps.active (reserves runs).doingsAt
  visited steps quiet entered := steps.visited quiet keeps.leads keeps.active entered
  cancelled steps := by
    cases steps with
    | asked owes =>
        obtain rfl := Option.some.inj (keeps.present.symm.trans owes.present)
        exact keeps.told owes.held

/-- Nothing is lost and nothing is invented between a tree that has been built and those who complete
the operations of its nodes, whatever the tree is told to do and whenever the completions are used:
every channel that is opened belongs to an operation that a node has started, and the hand-off of every
such operation goes as it should. Ticks that a panic cuts short are no exception. -/
theorem hands_off {root : Node A} {settings : Settings} {tree : Tree A D} {before stage : Stage A D}
    {building : Trace A} (built : root.Built)
    (builds : (Tree.build root settings).Leads before building (.ok tree) stage)
    (sound : board.Sound stage.agent) (runs : Runs board ⟨tree, stage⟩ trace here) :
    (∀ number, (board.channels stage.agent).length ≤ number →
      number < (board.channels here.stage.agent).length →
        ∃ path operation since, trace.Starts path operation since ∧
          board.line? operation = some number) ∧
    ∀ path operation number since, trace.Starts path operation since →
      board.line? operation = some number → here.HandsOff board path operation number since := by
  have vacant : tree.root.Vacant := by
    obtain rfl := Tree.eq_of_build builds
    exact Node.vacant_of_unnumbered (root.unnumbered_number 0) built.vacant
  obtain ⟨kept, replays⟩ := runs.replays sound
  refine ⟨fun number new present => ?_, fun path operation number since starts line => ?_⟩
  · obtain ⟨path, source, operation, line, started⟩ := replays.exists_started new present
    obtain ⟨earlier, since, rfl⟩ := List.append_of_mem started
    exact ⟨path, operation, since, ⟨earlier, source, rfl⟩, line⟩
  · obtain ⟨_, _, keeps⟩ := runs.keeps sound vacant starts line
    exact keeps.handsOff line kept (runs.reserved sound vacant starts line)

end Workplace

namespace Scenario

/-- A job is an operation that waits for a channel. -/
def job : Node scripted := .asyncAction (A := scripted) ⟨⟨"job", .channel⟩, 0⟩

def jobTree : Tree scripted Unit := ⟨"main", (job.number.run 0).1, .standard, 0, none⟩

/-- The first tick starts the job. -/
def jobStarted : Outcome scripted Unit (Attempt (Tree scripted Unit) (Option Status)) :=
  jobTree.obey (.tick 0) ⟨.empty, ()⟩

/-- The completion of the job that the first tick has started is heard. It may also be dropped, and is not
cancelled. -/
theorem hands_off_job : ∃ (here : Workplace scripted Unit) (since : Trace scripted),
    here.HandsOff switchboard [] (Operation.channel 0) 0 since ∧
      here.Pending [] (Operation.channel 0) ∧
        (∃ next, here.Steps switchboard (.completed 0 true true) [] next) ∧
        (∃ next, here.Steps switchboard (.dropped 0) [] next) ∧
          here.Steps switchboard (.asked 0 false) [] here := by
  obtain ⟨_, builds⟩ : ∃ trace, (Tree.build (D := Unit) job .standard).Leads ⟨.empty, ()⟩ trace
      (.ok jobTree) ⟨.empty, ()⟩ := ⟨_, rfl⟩
  have sound : Blackboard.Sound .empty :=
    ⟨fun _ => Nat.zero_le 1, fun _ owes => absurd owes (Nat.lt_irrefl 0)⟩
  have obeys : (jobTree.obey (.tick 0)).Leads ⟨.empty, ()⟩ jobStarted.trace jobStarted.value
      jobStarted.stage := rfl
  have runs : Workplace.Runs switchboard ⟨jobTree, ⟨.empty, ()⟩⟩ _ _ := .step .start (.ordered obeys)
  have starts : Trace.Starts ([] ++ jobStarted.trace) [] (Operation.channel 0) _ :=
    ⟨jobStarted.trace.take 1, ⟨⟨"job", .channel⟩, 0⟩, rfl⟩
  have handsOff := (Workplace.hands_off (.asyncAction _) builds sound runs).2 _ _ _ _ starts rfl
  have pending : Workplace.Pending ⟨jobStarted.value.after, jobStarted.stage⟩ []
      (Operation.channel 0) := ⟨_, rfl, rfl⟩
  have kept : Blackboard.Sound jobStarted.stage.agent := (runs.replays sound).1
  have taken : Blackboard.takeLatest (Blackboard.slots jobStarted.stage.agent "job") =
      some (0, [none]) := rfl
  have member : some 0 ∈ Blackboard.slots jobStarted.stage.agent "job" := by decide
  have completes : Workplace.Steps switchboard ⟨jobStarted.value.after, jobStarted.stage⟩ _ _ _ :=
    steps_complete kept taken true
  have drops : Workplace.Steps switchboard ⟨jobStarted.value.after, jobStarted.stage⟩ _ _ _ :=
    steps_drop kept taken
  have asked : Workplace.Steps switchboard ⟨jobStarted.value.after, jobStarted.stage⟩ _ _ _ :=
    steps_cancelled kept member
  exact ⟨_, _, handsOff, pending, ⟨_, completes⟩, ⟨_, drops⟩, asked⟩

end Scenario

end Behavior
