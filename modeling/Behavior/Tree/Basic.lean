import Behavior.Tick.Node
import Behavior.Tree.Settings

namespace Behavior

/-- A tree owns its root. Its frame is the number of completed ticks. -/
structure Tree (A : Agent) (D : Type) where
  name : String
  root : Node A
  settings : Settings
  frame : UInt64
  sink : Option (Sink D)

namespace Tree

variable {A : Agent} {D : Type}

/-- The root stands at the empty path. -/
def rootPlace : Place := []

/-- The nodes are numbered from zero on. Invalid settings are refused before anything else. -/
def build (root : Node A) (settings : Settings) : Run A D (Except SettingsError (Tree A D)) :=
  match settings.validate with
  | .error error => pure (.error error)
  | .ok () => do
      let (root, count) := root.number.run 0
      Run.write rootPlace (.treeBuilt settings.name count)
      let sink := if settings.traceTicks then some .recording else none
      pure (.ok ⟨settings.name, root, settings, 0, sink⟩)

def setSink (tree : Tree A D) (sink : Sink D) : Tree A D := { tree with sink := some sink }

def clearSink (tree : Tree A D) : Tree A D := { tree with sink := none }

def find? (tree : Tree A D) (id : NodeId) : Option (Node A) := tree.root.find? id

/-- The root is told the clamped delta time and the frame. -/
def context (tree : Tree A D) (deltaTime : Float32) : Context D :=
  ⟨⟨deltaTime, tree.frame⟩, tree.sink, rootPlace⟩

/-- A completed tick counts as a frame, and a finished root is reset if the settings ask for it.
A tick that a panic cuts short does neither. -/
def tick (tree : Tree A D) (deltaTime : Float32) : Run A D (Attempt (Tree A D) Status) := do
  let ticked ← tree.root.tick (tree.context (tree.settings.clamp deltaTime))
  let tree := { tree with root := ticked.after }
  match ticked.result with
  | .error panic => pure ⟨tree, .error panic⟩
  | .ok status => do
      Run.write rootPlace (.treeTicked tree.name tree.frame status)
      let tree := { tree with frame := tree.frame + 1 }
      if status ≠ .running ∧ tree.settings.resetOnComplete then do
        let root ← tree.root.reset rootPlace
        pure ⟨{ tree with root }, .ok status⟩
      else pure ⟨tree, .ok status⟩

/-- An abort is reported if the root is running. -/
def abort (tree : Tree A D) : Run A D (Attempt (Tree A D) Unit) := do
  let aborted ← tree.root.abortIn (tree.context 0)
  pure (aborted.map fun root => { tree with root })

def reset (tree : Tree A D) : Run A D (Tree A D) := do
  let root ← tree.root.reset rootPlace
  pure { tree with root }

end Tree

end Behavior
