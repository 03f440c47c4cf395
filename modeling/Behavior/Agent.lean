import Behavior.Clock
import Behavior.Panic
import Behavior.Status

namespace Behavior

/-- A reply holds the answer of a leaf, the state that it leaves and the lines that it wrote. -/
structure Reply (State Value : Type) where
  value : Value
  state : State
  lines : List String

/-- An agent offers predicates, actions and starters of operations. Their own memory is part
of the agent's state. Only predicates, actions and starters may panic. -/
structure Agent where
  State : Type
  Predicate : Type
  Action : Type
  Starter : Type
  Operation : Type
  test : Predicate → State → Reply State (Except Panic Bool)
  act : Action → Clock → State → Reply State (Except Panic Status)
  start : Starter → State → Reply State (Except Panic Operation)
  /-- A poll tells whether the operation is completed and never waits for it. -/
  poll : Operation → State → Reply State Bool
  /-- The result is taken once, after a poll has found the operation completed. -/
  take : Operation → State → Reply State Bool
  /-- A cancellation does not wait for the work to stop. -/
  cancel : Operation → State → Reply State Unit

end Behavior
