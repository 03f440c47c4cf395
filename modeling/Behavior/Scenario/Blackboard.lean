import Behavior.Channel
import Behavior.Status

namespace Behavior.Scenario

/-- A blackboard holds flags, statuses, counters, all channels that were opened, and per key
the completions in the order in which they were opened. A used completion leaves an empty slot. -/
structure Blackboard where
  flags : List (String × Bool)
  statuses : List (String × Status)
  counters : Array Nat
  channels : Array Channel
  inbox : List (String × List (Option Nat))

namespace Blackboard

def empty : Blackboard := ⟨[], [], #[], #[], []⟩

/-- An absent flag is false. -/
def flag (board : Blackboard) (name : String) : Bool := (board.flags.lookup name).getD false

def setFlag (board : Blackboard) (name : String) (value : Bool) : Blackboard :=
  { board with flags := (name, value) :: board.flags.filter fun entry => entry.1 != name }

/-- An absent status is a failure. -/
def status (board : Blackboard) (key : String) : Status := (board.statuses.lookup key).getD .failure

def setStatus (board : Blackboard) (key : String) (status : Status) : Blackboard :=
  { board with statuses := (key, status) :: board.statuses.filter fun entry => entry.1 != key }

def counter (board : Blackboard) (slot : Nat) : Nat := board.counters.getD slot 0

def setCounter (board : Blackboard) (slot value : Nat) : Blackboard :=
  { board with counters := board.counters.setIfInBounds slot value }

/-- A new counter takes the next slot. -/
def newCounter (board : Blackboard) (value : Nat) : Nat × Blackboard :=
  (board.counters.size, { board with counters := board.counters.push value })

/-- A count is the number of uses of a slot before this one. -/
def count (board : Blackboard) (slot : Nat) : Nat × Blackboard :=
  (board.counter slot, board.setCounter slot (board.counter slot + 1))

def channel (board : Blackboard) (number : Nat) : Channel := board.channels.getD number .fresh

def setChannel (board : Blackboard) (number : Nat) (channel : Channel) : Blackboard :=
  { board with channels := board.channels.setIfInBounds number channel }

def slots (board : Blackboard) (key : String) : List (Option Nat) :=
  (board.inbox.lookup key).getD []

def setSlots (board : Blackboard) (key : String) (slots : List (Option Nat)) : Blackboard :=
  { board with inbox := (key, slots) :: board.inbox.filter fun entry => entry.1 != key }

/-- The completion of a new channel is kept under the key. -/
def openChannel (board : Blackboard) (key : String) : Nat × Blackboard :=
  let number := board.channels.size
  let board := { board with channels := board.channels.push .fresh }
  (number, board.setSlots key (board.slots key ++ [some number]))

/-- The latest completion is taken out of its slot. -/
def takeLatest (slots : List (Option Nat)) : Option (Nat × List (Option Nat)) :=
  match slots with
  | [] => none
  | slot :: rest =>
      match takeLatest rest, slot with
      | some (number, rest), _ => some (number, slot :: rest)
      | none, some number => some (number, none :: rest)
      | none, none => none

/-- The latest completion of the key delivers the outcome, if there is one. -/
def complete (board : Blackboard) (key : String) (success : Bool) : Option Bool × Blackboard :=
  match takeLatest (board.slots key) with
  | some (number, slots) =>
      let (heard, channel) := (board.channel number).complete success
      (some heard, (board.setChannel number channel).setSlots key slots)
  | none => (none, board)

/-- The flag tells whether there was a completion to drop. -/
def drop (board : Blackboard) (key : String) : Bool × Blackboard :=
  match takeLatest (board.slots key) with
  | some (number, slots) =>
      (true, (board.setChannel number (board.channel number).drop).setSlots key slots)
  | none => (false, board)

def cancelled (board : Blackboard) (key : String) : List (Option Bool) :=
  (board.slots key).map (Option.map fun number => (board.channel number).isCancelled)

end Blackboard

end Behavior.Scenario
