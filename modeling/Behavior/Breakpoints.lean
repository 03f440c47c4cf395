import Behavior.Sink

namespace Behavior

/-- The marked nodes pause a tick; the paused one is the node that a tick waits before. -/
structure Breakpoints where
  marked : List NodeId
  paused : Option NodeId
  deriving DecidableEq

namespace Breakpoints

def empty : Breakpoints := ⟨[], none⟩

def contains (breakpoints : Breakpoints) (id : NodeId) : Bool := breakpoints.marked.contains id

def mark (breakpoints : Breakpoints) (id : NodeId) : Breakpoints :=
  { breakpoints with marked := id :: breakpoints.marked.filter (· ≠ id) }

/-- The flag tells whether the node was marked. -/
def clear (breakpoints : Breakpoints) (id : NodeId) : Bool × Breakpoints :=
  (breakpoints.contains id, { breakpoints with marked := breakpoints.marked.filter (· ≠ id) })

def clearAll (breakpoints : Breakpoints) : Breakpoints := { breakpoints with marked := [] }

def resume (breakpoints : Breakpoints) : Breakpoints := { breakpoints with paused := none }

/-- A marked node becomes the paused one. -/
def breaksAt (breakpoints : Breakpoints) (id : NodeId) : Bool × Breakpoints :=
  if breakpoints.contains id then (true, { breakpoints with paused := some id })
  else (false, breakpoints)

/-- Waiting would block as long as a node is paused. -/
def wouldBlock (breakpoints : Breakpoints) : Bool := breakpoints.paused.isSome

/-- A marked node is a breakpoint, and all others stay what they were. -/
theorem contains_mark (breakpoints : Breakpoints) (marked id : NodeId) :
    (breakpoints.mark marked).contains id = (decide (id = marked) || breakpoints.contains id) := by
  by_cases same : id = marked <;>
    simp [contains, mark, same, List.contains_eq_mem, List.mem_filter]

/-- A cleared node is none any more, and all others stay what they were. -/
theorem contains_clear (breakpoints : Breakpoints) (cleared id : NodeId) :
    (breakpoints.clear cleared).2.contains id =
      (decide (id ≠ cleared) && breakpoints.contains id) := by
  by_cases same : id = cleared <;>
    simp [contains, clear, same, List.contains_eq_mem, List.mem_filter]

end Breakpoints

end Behavior
