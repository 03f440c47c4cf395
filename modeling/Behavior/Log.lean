import Behavior.Status
import Behavior.Identity
import Behavior.Policy

namespace Behavior

/-- A record tells one diagnostic fact. -/
inductive Record where
  | treeBuilt (tree : String) (nodes : UInt32)
  | treeTicked (tree : String) (frame : UInt64) (status : Status)
  | aborting (node : NodeInfo) (frame : UInt64)
  | timeoutExpired (frame : UInt64) (elapsed seconds : Float32)
  | parallelFinalized (status : Status) (successes failures : Nat) (policy : Policy)
  | enter (node : NodeInfo) (frame : UInt64)
  | leave (node : NodeInfo) (frame : UInt64) (status : Status)
  | expression (node : NodeInfo) (value : Bool)
  | aborted (node : NodeInfo)
  deriving DecidableEq

namespace Record

/-- Frequent records have the lower level. -/
inductive Level where
  | trace
  | debug
  deriving DecidableEq, Repr

/-- A field value is shown as text, except a time, whose form the reader chooses. -/
inductive Field where
  | text (text : String)
  | seconds (seconds : Float32)
  deriving DecidableEq

def Level.name : Level → String
  | trace => "TRACE"
  | debug => "DEBUG"

def level : Record → Level
  | treeBuilt .. => .debug
  | treeTicked .. => .trace
  | aborting .. => .debug
  | timeoutExpired .. => .debug
  | parallelFinalized .. => .trace
  | enter .. => .trace
  | leave .. => .trace
  | expression .. => .trace
  | aborted .. => .debug

def message : Record → String
  | treeBuilt .. => "behavior tree built"
  | treeTicked .. => "tree ticked"
  | aborting node _ => "aborting " ++ node.text
  | timeoutExpired .. => "timeout expired"
  | parallelFinalized .. => "parallel finalized"
  | enter node _ => "enter " ++ node.text
  | leave node _ _ => "leave " ++ node.text
  | expression node _ => "expression of " ++ node.text
  | aborted node => "aborted " ++ node.text

def frameField (frame : UInt64) : String × Field := ("frame", .text (toString frame.toNat))

def statusField (status : Status) : String × Field := ("status", .text status.name)

/-- The fields stand in the order in which they are shown. -/
def fields : Record → List (String × Field)
  | treeBuilt tree nodes => [("tree", .text tree), ("nodes", .text (toString nodes.toNat))]
  | treeTicked tree frame status => [("tree", .text tree), frameField frame, statusField status]
  | aborting _ frame => [frameField frame]
  | timeoutExpired frame elapsed seconds =>
      [frameField frame, ("elapsed", .seconds elapsed), ("seconds", .seconds seconds)]
  | parallelFinalized status successes failures policy =>
      [statusField status, ("successes", .text (toString successes)),
        ("failures", .text (toString failures)), ("policy", .text policy.text)]
  | enter _ frame => [frameField frame]
  | leave _ frame status => [frameField frame, statusField status]
  | expression _ value => [("value", .text (toString value))]
  | aborted _ => []

end Record

end Behavior
