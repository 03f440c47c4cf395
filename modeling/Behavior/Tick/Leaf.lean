import Behavior.Node.Reset

namespace Behavior

variable {A : Agent} {D : Type}

/-- The value of a predicate is reported before it is used. -/
def Context.ask (context : Context D) (info : NodeInfo) (predicate : A.Predicate) :
    Run A D (Except Panic Bool) := do
  match ← Run.call context.place (A.test predicate) (.tested predicate) with
  | .error panic => pure (.error panic)
  | .ok value => do
      let reported ← context.notify (.evaluated info value)
      pure (reported.map fun _ => value)

/-- A pending operation is polled, and a completed one is taken and given up. -/
def Leaf.poll (place : Place) (starter : A.Starter) (operation : A.Operation) :
    Run A D (Attempt (Leaf A) Status) := do
  if ← Run.call place (A.poll operation) (.polled operation) then do
    let success ← Run.call place (A.take operation) (.taken operation)
    pure ⟨.asyncAction starter none, .ok (.ofBool success)⟩
  else pure ⟨.asyncAction starter (some operation), .ok .running⟩

/-- An asynchronous action starts its operation only when none is pending. -/
def Leaf.tick (info : NodeInfo) (context : Context D) : Leaf A → Run A D (Attempt (Leaf A) Status)
  | .condition predicate => do
      let value ← context.ask info predicate
      pure ⟨.condition predicate, value.map .ofBool⟩
  | .action deed => do
      let status ← Run.call context.place (A.act deed context.clock) (.acted deed context.clock)
      pure ⟨.action deed, status⟩
  | .asyncAction starter (some operation) => Leaf.poll context.place starter operation
  | .asyncAction starter none => do
      match ← Run.call context.place (A.start starter) (.started starter) with
      | .error panic => pure ⟨.asyncAction starter none, .error panic⟩
      | .ok operation => Leaf.poll context.place starter operation

end Behavior
