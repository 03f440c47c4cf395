import Behavior.Proofs.Handoff.Attending
import Behavior.Proofs.Handoff.Replaying

namespace Behavior

variable {A : Agent} {D : Type} {board : A.Switchboard}

/-- A workplace is a tree on a stage. -/
structure Workplace (A : Agent) (D : Type) where
  tree : Tree A D
  stage : Stage A D

/-- A move is an order to the tree, a use of a completion, or a change of something else. -/
inductive Move (D : Type) where
  | ordered (order : Order D) (result : Except Panic (Option Status))
  | completed (number : Nat) (success heard : Bool)
  | dropped (number : Nat)
  | asked (number : Nat) (cancelled : Bool)
  | changed

namespace Workplace

/-- The completion of a channel is still held by someone. -/
structure Owes (board : A.Switchboard) (workplace : Workplace A D) (number : Nat)
    (channel : Channel) : Prop where
  present : (board.channels workplace.stage.agent)[number]? = some channel
  held : channel.Held

/-- The node at a place waits for an operation. -/
def Pending (workplace : Workplace A D) (path : Place) (operation : A.Operation) : Prop :=
  ∃ node, workplace.tree.root.descendant? path = some node ∧ node.body.pending? = some operation

/-- Moves of a workplace. Whoever holds a completion may complete it or drop it once, and may ask
whether it is cancelled as long as it is held. All else may change, except for the channels. -/
inductive Steps (board : A.Switchboard) :
    Workplace A D → Move D → Trace A → Workplace A D → Prop
  | ordered {tree changed : Tree A D} {order : Order D} {before after : Stage A D} {trace : Trace A}
      {result : Except Panic (Option Status)}
      (obeys : (tree.obey order).Leads before trace ⟨changed, result⟩ after) :
      Steps board ⟨tree, before⟩ (.ordered order result) trace ⟨changed, after⟩
  | completed {tree : Tree A D} {before after : Stage A D} {number : Nat} {channel : Channel}
      (success : Bool) (owes : Owes board ⟨tree, before⟩ number channel)
      (sound : board.Sound after.agent)
      (sets : board.channels after.agent =
        (board.channels before.agent).set number (channel.complete success).2) :
      Steps board ⟨tree, before⟩ (.completed number success (channel.complete success).1) []
        ⟨tree, after⟩
  | dropped {tree : Tree A D} {before after : Stage A D} {number : Nat} {channel : Channel}
      (owes : Owes board ⟨tree, before⟩ number channel) (sound : board.Sound after.agent)
      (sets : board.channels after.agent = (board.channels before.agent).set number channel.drop) :
      Steps board ⟨tree, before⟩ (.dropped number) [] ⟨tree, after⟩
  | asked {workplace : Workplace A D} {number : Nat} {channel : Channel}
      (owes : workplace.Owes board number channel) :
      Steps board workplace (.asked number channel.isCancelled) [] workplace
  | changed {tree : Tree A D} {before after : Stage A D} (sound : board.Sound after.agent)
      (same : board.channels after.agent = board.channels before.agent) :
      Steps board ⟨tree, before⟩ .changed [] ⟨tree, after⟩

/-- A run is any number of moves, with the trace that the tree leaves. -/
inductive Runs (board : A.Switchboard) (start : Workplace A D) : Trace A → Workplace A D → Prop
  | start : Runs board start [] start
  | step {middle final : Workplace A D} {move : Move D} {earlier later : Trace A}
      (runs : Runs board start earlier middle) (steps : middle.Steps board move later final) :
      Runs board start (earlier ++ later) final

variable {start here next final : Workplace A D} {move : Move D} {trace later : Trace A}

/-- A workplace runs from one situation to the next. -/
theorem Runs.trans (first : Runs board start trace here) (second : Runs board here later final) :
    Runs board start (trace ++ later) final := by
  induction second with
  | start =>
      rw [List.append_nil]
      exact first
  | step _ steps inductionHypothesis =>
      rw [← List.append_assoc]
      exact .step inductionHypothesis steps

/-- Every move replays on the channels. -/
theorem Steps.replays (steps : here.Steps board move trace next)
    (sound : board.Sound here.stage.agent) : board.Sound next.stage.agent ∧
      Trace.Replays board.line? (board.channels here.stage.agent) trace
        (board.channels next.stage.agent) := by
  cases steps with
  | @ordered tree _ order _ _ _ _ obeys =>
      have replays : (tree.obey order).Replays board := tree.replays_obey order
      have kept := replays _ sound
      rwa [obeys] at kept
  | completed success owes kept sets =>
      refine ⟨kept, .done ?_⟩
      rw [sets]
      exact Handled.set owes.present (.completed owes.held success)
  | dropped owes kept sets =>
      refine ⟨kept, .done ?_⟩
      rw [sets]
      exact Handled.set owes.present (.dropped owes.held)
  | asked => exact ⟨sound, .done (Handled.refl _)⟩
  | changed kept same =>
      refine ⟨kept, .done ?_⟩
      rw [same]
      exact Handled.refl _

/-- Every run replays on the channels. -/
theorem Runs.replays (runs : Runs board start trace here) (sound : board.Sound start.stage.agent) :
    board.Sound here.stage.agent ∧
      Trace.Replays board.line? (board.channels start.stage.agent) trace
        (board.channels here.stage.agent) := by
  induction runs with
  | start => exact ⟨sound, .done (Handled.refl _)⟩
  | step _ steps inductionHypothesis =>
      obtain ⟨kept, replays⟩ := inductionHypothesis
      obtain ⟨sound, more⟩ := steps.replays kept
      exact ⟨sound, replays.append more⟩

/-- In every move the tree attends to its operations. -/
theorem Steps.attendsThrough (steps : here.Steps board move trace next) :
    here.tree.root.AttendsThrough trace next.tree.root := by
  cases steps with
  | ordered obeys =>
      obtain ⟨_, _, rooted, _, evolves, _⟩ := Host.evolves_of_obey obeys
      exact evolves.attendsThrough rooted
  | completed | dropped | asked | changed => exact Node.attendsThrough_nil _

/-- The root attends to its operations through the whole run. -/
theorem Runs.attendsThrough (runs : Runs board start trace here) :
    start.tree.root.AttendsThrough trace here.tree.root := by
  induction runs with
  | start => exact Node.attendsThrough_nil _
  | step _ steps inductionHypothesis => exact inductionHypothesis.trans steps.attendsThrough

end Workplace

end Behavior
