namespace Behavior

/-- A status tells how one evaluation of a node ended. -/
inductive Status where
  | success
  | failure
  | running
  deriving DecidableEq, Repr

namespace Status

/-- A truth value is a finished status. -/
def ofBool : Bool → Status
  | true => success
  | false => failure

/-- Inversion swaps the finished statuses and keeps running. -/
def invert : Status → Status
  | success => failure
  | failure => success
  | running => running

/-- A forced status replaces every finished one. -/
def force (outcome : Status) : Status → Status
  | running => running
  | _ => outcome

def isSuccess : Status → Bool
  | success => true
  | _ => false

def isFailure : Status → Bool
  | failure => true
  | _ => false

def isRunning : Status → Bool
  | running => true
  | _ => false

def name : Status → String
  | success => "Success"
  | failure => "Failure"
  | running => "Running"

@[simp] theorem invert_invert (status : Status) : status.invert.invert = status := by
  cases status <;> rfl

end Status

end Behavior
