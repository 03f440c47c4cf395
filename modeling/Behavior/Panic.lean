namespace Behavior

/-- A panic unwinds through a tick. Leaves and sinks raise one on purpose; an index
out of range would be a fault of the tree itself. -/
inductive Panic where
  | raised (message : String)
  | outOfRange (index length : Nat)
  deriving DecidableEq, Repr

def Panic.text : Panic → String
  | raised message => message
  | outOfRange index length =>
      "index " ++ toString index ++ " out of range for length " ++ toString length

/-- An attempt leaves its subject behind even if a panic cut it short. -/
structure Attempt (Subject Value : Type) where
  after : Subject
  result : Except Panic Value

def Attempt.map {Subject Changed Value : Type} (change : Subject → Changed)
    (attempt : Attempt Subject Value) : Attempt Changed Value :=
  ⟨change attempt.after, attempt.result⟩

end Behavior
