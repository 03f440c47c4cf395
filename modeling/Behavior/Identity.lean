namespace Behavior

/-- A kind fixes how a node evaluates its children. -/
inductive Kind where
  | condition
  | action
  | asyncAction
  | selector
  | sequence
  | parallel
  | guard
  | ifElse
  | invert
  | forceSuccess
  | forceFailure
  | repeating
  | retrying
  | timeout
  | cooldown
  | whileTrue
  | reactiveGuard
  | reactiveSelector
  | reactiveSequence
  deriving DecidableEq, Repr

def Kind.name : Kind → String
  | condition => "Condition"
  | action => "Action"
  | asyncAction => "AsyncAction"
  | selector => "Selector"
  | sequence => "Sequence"
  | parallel => "Parallel"
  | guard => "Guard"
  | ifElse => "IfElse"
  | invert => "Invert"
  | forceSuccess => "ForceSuccess"
  | forceFailure => "ForceFailure"
  | repeating => "Repeat"
  | retrying => "Retry"
  | timeout => "Timeout"
  | cooldown => "Cooldown"
  | whileTrue => "While"
  | reactiveGuard => "ReactiveGuard"
  | reactiveSelector => "ReactiveSelector"
  | reactiveSequence => "ReactiveSequence"

/-- A node number is unique within its tree. -/
structure NodeId where
  value : UInt32
  deriving DecidableEq, Repr

def NodeId.text (id : NodeId) : String := "#" ++ toString id.value.toNat

/-- The descriptor of a node is what a debugger sees on every event. -/
structure NodeInfo where
  id : NodeId
  kind : Kind
  label : Option String
  deriving DecidableEq, Repr

/-- A label stands in parentheses behind the kind. -/
def NodeInfo.text (info : NodeInfo) : String :=
  match info.label with
  | some label => info.kind.name ++ "(" ++ label ++ ") " ++ info.id.text
  | none => info.kind.name ++ " " ++ info.id.text

end Behavior
