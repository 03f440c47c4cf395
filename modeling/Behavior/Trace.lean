import Behavior.Agent
import Behavior.Log

namespace Behavior

/-- A place is the path of child positions from a node up to the root, its own position first. -/
abbrev Place := List Nat

/-- A notice is an event that debuggers are told of. -/
inductive Notice where
  | entered (node : NodeInfo) (clock : Clock)
  | left (node : NodeInfo) (status : Status) (clock : Clock)
  | evaluated (node : NodeInfo) (value : Bool)
  | aborted (node : NodeInfo)
  deriving DecidableEq

def Notice.node : Notice → NodeInfo
  | entered node _ => node
  | left node _ _ => node
  | evaluated node _ => node
  | aborted node => node

/-- A call is one use of what the agent offers, with its outcome. -/
inductive Call (A : Agent) where
  | tested (predicate : A.Predicate) (outcome : Except Panic Bool)
  | acted (action : A.Action) (clock : Clock) (outcome : Except Panic Status)
  | started (starter : A.Starter) (outcome : Except Panic A.Operation)
  | polled (operation : A.Operation) (completed : Bool)
  | taken (operation : A.Operation) (success : Bool)
  | cancelled (operation : A.Operation)

/-- Output is what the application and its sinks write. -/
inductive Output where
  | line (text : String)
  | record (record : Record)
  deriving DecidableEq

/-- A node that is reset or aborted is cleared: it forgets the status of its last tick. -/
inductive Event (A : Agent) where
  | notice (notice : Notice)
  | call (call : Call A)
  | output (output : Output)
  | cleared

/-- An entry is one event at the place of the node that caused it. -/
structure Entry (A : Agent) where
  place : Place
  event : Event A

/-- A trace lists its entries in the order in which they happened. -/
abbrev Trace (A : Agent) := List (Entry A)

namespace Trace

variable {A : Agent}

/-- Nothing is copied where the second trace is empty. -/
def join (first : Trace A) : Trace A → Trace A
  | [] => first
  | entry :: rest => first ++ entry :: rest

@[simp] theorem join_eq_append (first second : Trace A) : first.join second = first ++ second := by
  cases second <;> simp [join]

def notices (trace : Trace A) : List (Place × Notice) :=
  trace.filterMap fun entry =>
    match entry.event with
    | .notice notice => some (entry.place, notice)
    | _ => none

def calls (trace : Trace A) : List (Place × Call A) :=
  trace.filterMap fun entry =>
    match entry.event with
    | .call call => some (entry.place, call)
    | _ => none

def outputs (trace : Trace A) : List Output :=
  trace.filterMap fun entry =>
    match entry.event with
    | .output output => some output
    | _ => none

@[simp] theorem notices_append (first second : Trace A) :
    notices (first ++ second) = notices first ++ notices second :=
  List.filterMap_append

@[simp] theorem calls_append (first second : Trace A) :
    calls (first ++ second) = calls first ++ calls second :=
  List.filterMap_append

@[simp] theorem outputs_append (first second : Trace A) :
    outputs (first ++ second) = outputs first ++ outputs second :=
  List.filterMap_append

end Trace

end Behavior
