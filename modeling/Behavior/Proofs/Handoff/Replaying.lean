import Behavior.Proofs.Handoff.Switchboard
import Behavior.Proofs.Lockstep.Routine

namespace Behavior

variable {A : Agent} {D : Type}

namespace Run

variable {Value Next : Type} {board : A.Switchboard} {run : Run A D Value} {next : Value → Run A D Next}

/-- A run replays if it keeps the books of the agent sound and its trace replays on the channels. -/
def Replays (board : A.Switchboard) (run : Run A D Value) : Prop :=
  ∀ stage, board.Sound stage.agent → board.Sound (run stage).stage.agent ∧
    Trace.Replays board.line? (board.channels stage.agent) (run stage).trace
      (board.channels (run stage).stage.agent)

theorem replays_pure (value : Value) : (pure value : Run A D Value).Replays board :=
  fun _ sound => ⟨sound, .done (Handled.refl _)⟩

/-- Runs that the switchboard replays are replayed one after the other. -/
theorem Replays.bind (first : run.Replays board)
    (rest : ∀ stage, (next (run stage).value).Replays board) : (run >>= next).Replays board := by
  intro stage sound
  obtain ⟨kept, replays⟩ := first stage sound
  obtain ⟨sound, more⟩ := rest stage _ kept
  rw [bind_apply]
  exact ⟨sound, replays.append more⟩

/-- What is no call leaves the channels alone. -/
theorem replays_enter {event : Event A} (place : Place) (quiet : event.call? = none) :
    (enter place event : Run A D Unit).Replays board :=
  fun _ sound => ⟨sound, .quiet quiet (.done (Handled.refl _))⟩

/-- What is only written leaves the agent as it is. -/
theorem replays_outputs {run : Run A D Value}
    (writes : ∀ stage, (run stage).stage.agent = stage.agent ∧
      ∀ entry ∈ (run stage).trace, entry.event.call? = none) : run.Replays board := by
  intro stage sound
  obtain ⟨same, quiet⟩ := writes stage
  rw [same]
  exact ⟨sound, .of_quiet quiet _⟩

/-- A call answers, and what the agent writes on it is quiet. -/
theorem replays_call {reply : A.State → Reply A.State Value} {describe : Value → Call A}
    (place : Place) (offers : A.Offers reply describe) :
    (call place reply describe : Run A D Value).Replays board := by
  intro stage sound
  have answers := board.answers offers stage.agent sound
  refine ⟨board.sound offers stage.agent sound,
    .called (Handled.refl _) answers (.of_quiet (fun entry member => ?_) _)⟩
  obtain ⟨_, _, rfl⟩ := List.mem_map.1 member
  rfl

theorem replays_notify (context : Context D) (notice : Notice) :
    (context.notify notice : Run A D (Except Panic Unit)).Replays board := by
  refine (replays_enter context.place rfl).bind fun _ => ?_
  cases context.sink with
  | none => exact replays_pure _
  | some sink =>
      refine replays_outputs fun stage => ⟨rfl, fun entry member => ?_⟩
      obtain ⟨_, _, rfl⟩ := List.mem_map.1 member
      rfl

theorem replays_pauseBefore (context : Context D) (info : NodeInfo) :
    (context.pauseBefore info : Run A D (Except Panic Unit)).Replays board := by
  unfold Context.pauseBefore
  cases context.sink with
  | none => exact replays_pure _
  | some sink =>
      refine replays_outputs fun stage => ?_
      dsimp only
      split
      · refine ⟨rfl, fun entry member => ?_⟩
        obtain ⟨_, _, rfl⟩ := List.mem_map.1 member
        rfl
      · exact ⟨rfl, fun _ member => absurd member List.not_mem_nil⟩

end Run

/-- Whatever nodes do keeps the books of a switchboard and replays. -/
def Agent.Switchboard.replaying (board : A.Switchboard) : Routine A D where
  Keeps run := run.Replays board
  Admits _ := True
  child _ _ := trivial
  pure := Run.replays_pure
  bind := Run.Replays.bind
  cleared place := Run.replays_enter place rfl
  write place _ := Run.replays_enter place rfl
  call := Run.replays_call
  notify {context} _ notice _ := Run.replays_notify context notice
  enter {context} _ info := by
    refine (Run.replays_notify context _).bind fun stage => ?_
    split
    · exact Run.replays_pure _
    · exact Run.replays_pauseBefore context info

/-- Whatever a tree is told to do replays. -/
theorem Tree.replays_obey {board : A.Switchboard} (tree : Tree A D) (order : Order D) :
    (tree.obey order).Replays board :=
  board.replaying.obey (fun _ => trivial) order

end Behavior
