namespace Behavior

/-- The sender either still owes the outcome, has delivered it, or is gone without one. -/
inductive Delivery where
  | owed
  | delivered (success : Bool)
  | dropped
  deriving DecidableEq, Repr

/-- A channel joins a completion and an operation. The operation remembers an outcome
that it has received, and it may close its end. -/
structure Channel where
  delivery : Delivery
  closed : Bool
  received : Option Bool
  deriving DecidableEq, Repr

namespace Channel

def fresh : Channel := ⟨.owed, false, none⟩

/-- A completion is used up; it tells whether the operation still listens. -/
def complete (channel : Channel) (success : Bool) : Bool × Channel :=
  if channel.closed then (false, { channel with delivery := .dropped })
  else (true, { channel with delivery := .delivered success })

/-- A dropped completion delivers nothing. -/
def drop (channel : Channel) : Channel := { channel with delivery := .dropped }

/-- The completion is cancelled once the operation no longer listens. -/
def isCancelled (channel : Channel) : Bool := channel.closed

/-- A poll receives a delivered outcome once; a missing one counts as a failure. -/
def poll (channel : Channel) : Bool × Channel :=
  match channel.received with
  | some _ => (true, channel)
  | none =>
      match channel.delivery with
      | .delivered success =>
          (true, { channel with received := some success, delivery := .dropped })
      | .dropped => (true, { channel with received := some false })
      | .owed =>
          if channel.closed then (true, { channel with received := some false })
          else (false, channel)

/-- The received outcome is taken out; without one the result is a failure. -/
def take (channel : Channel) : Bool × Channel :=
  (channel.received.getD false, { channel with received := none })

/-- A closed channel accepts no outcome. -/
def close (channel : Channel) : Channel := { channel with closed := true }

end Channel

end Behavior
