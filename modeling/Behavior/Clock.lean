namespace Behavior

/-- A clock reading holds the seconds since the previous tick and the number of the frame. -/
structure Clock where
  deltaTime : Float32
  frame : UInt64
  deriving DecidableEq

/-- An absent clock reading is the zero one. -/
def Clock.zero : Clock := ⟨0, 0⟩

end Behavior
