import Behavior.Run

namespace Behavior

/-- A reaction of a hook may change the debugger, write, and panic. -/
structure Reaction (D : Type) where
  debugger : D
  outputs : List Output
  panic : Option Panic

def Reaction.none {D : Type} (debugger : D) : Reaction D := ⟨debugger, [], Option.none⟩

/-- A sink observes notices and may pause a tick before a node. It sees neither the tree
nor the agent. -/
structure Sink (D : Type) where
  observe : Notice → D → Reaction D
  breaksAt : NodeInfo → D → Bool × D
  pause : D → Reaction D

namespace Sink

/-- A silent sink ignores everything. -/
def silent {D : Type} : Sink D where
  observe _ debugger := .none debugger
  breaksAt _ debugger := (false, debugger)
  pause debugger := .none debugger

/-- Each notice has its record. -/
def recordOf : Notice → Record
  | .entered node clock => .enter node clock.frame
  | .left node status clock => .leave node clock.frame status
  | .evaluated node value => .expression node value
  | .aborted node => .aborted node

/-- A recording sink writes each notice as a record and never pauses. -/
def recording {D : Type} : Sink D :=
  { silent with observe := fun notice debugger => ⟨debugger, [.record (recordOf notice)], .none⟩ }

end Sink

/-- A context is what a node is given for one tick: the clock, the sink and its own place. -/
structure Context (D : Type) where
  clock : Clock
  sink : Option (Sink D)
  place : Place

namespace Context

variable {A : Agent} {D : Type}

def child (context : Context D) (position : Nat) : Context D :=
  { context with place := position :: context.place }

/-- A hook acts on the debugger alone. -/
def react (context : Context D) (hook : D → Reaction D) :
    Run A D (Except Panic Unit) := fun stage =>
  let reaction := hook stage.debugger
  ⟨match reaction.panic with
    | some panic => .error panic
    | none => .ok (),
    { stage with debugger := reaction.debugger },
    reaction.outputs.map fun output => ⟨context.place, .output output⟩⟩

/-- A notice enters the trace before the sink observes it. -/
def notify (context : Context D) (notice : Notice) : Run A D (Except Panic Unit) := do
  Run.enter context.place (.notice notice)
  match context.sink with
  | some sink => context.react (sink.observe notice)
  | none => pure (.ok ())

/-- The sink decides before each node whether the tick pauses. -/
def pauseBefore (context : Context D) (node : NodeInfo) : Run A D (Except Panic Unit) :=
  match context.sink with
  | some sink => fun stage =>
      let (breaks, debugger) := sink.breaksAt node stage.debugger
      (if breaks then context.react sink.pause else pure (.ok ())) { stage with debugger }
  | none => pure (.ok ())

end Context

end Behavior
