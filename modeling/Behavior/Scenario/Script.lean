import Behavior.Agent
import Behavior.Decimal.Bits
import Behavior.Scenario.Blackboard

namespace Behavior.Scenario

/-- A script is used cyclically, and an empty entry panics. -/
abbrev Script (Value : Type) := List (Option Value)

def Script.entry {Value : Type} (script : Script Value) (count : Nat) : Option Value :=
  (script[count % script.length]?).getD none

inductive PredicateSource where
  | constant (value : Bool)
  | flag (name : String)
  | script (script : Script Bool)

/-- A constant predicate is silent, and every other one writes under its name. -/
structure PredicatePlan where
  name : String
  source : PredicateSource

inductive ActionSource where
  | key (key : String)
  | script (script : Script Status)

/-- An effect sets a flag, either always or when the action returns the given status. -/
structure Effect where
  status : Option Status
  flag : String
  value : Bool

structure ActionPlan where
  name : String
  source : ActionSource
  effects : List Effect
  sends : List (String × Bool)

inductive StarterSource where
  | channel
  | counted (polls : List Nat) (results : Script Bool)

structure StarterPlan where
  name : String
  source : StarterSource

/-- A leaf follows its plan and counts its uses in a slot of its own. -/
structure Scripted (Plan : Type) where
  plan : Plan
  slot : Nat

/-- An operation waits for its channel, or for its counter to run down. -/
inductive Operation where
  | channel (number : Nat)
  | counted (name : String) (slot : Nat) (success : Bool)

def testLine (name : String) (value : Option Bool) : String :=
  "cond " ++ name ++ " " ++ ((value.map toString).getD "panic")

def test (predicate : Scripted PredicatePlan) (board : Blackboard) :
    Reply Blackboard (Except Panic Bool) :=
  let name := predicate.plan.name
  match predicate.plan.source with
  | .constant value => ⟨.ok value, board, []⟩
  | .flag flag => ⟨.ok (board.flag flag), board, [testLine name (board.flag flag)]⟩
  | .script script =>
      let (count, board) := board.count predicate.slot
      match script.entry count with
      | some value => ⟨.ok value, board, [testLine name value]⟩
      | none => ⟨.error (.raised ("cond " ++ name)), board, [testLine name none]⟩

/-- An effect without a status applies always; a panic is none. -/
def Effect.applies (effect : Effect) (outcome : Option Status) : Bool :=
  effect.status.isNone || effect.status == outcome

def actLine (name : String) (clock : Clock) (outcome : Option Status) : String :=
  "act " ++ name ++ " " ++ ((outcome.map Status.name).getD "panic") ++ " f=" ++
    toString clock.frame.toNat ++ " dt=" ++ Decimal.bits clock.deltaTime

def sendLine (key : String) (value : Bool) (heard : Option Bool) : String :=
  "send " ++ key ++ " " ++ toString value ++ " " ++ ((heard.map toString).getD "-")

/-- Outcomes are sent one after the other. -/
def sendAll (board : Blackboard) : List (String × Bool) → List String × Blackboard
  | [] => ([], board)
  | (key, value) :: rest =>
      let (heard, board) := board.complete key value
      let (lines, board) := sendAll board rest
      (sendLine key value heard :: lines, board)

/-- An action writes its status, sets flags, sends outcomes, and then returns or panics. -/
def act (action : Scripted ActionPlan) (clock : Clock) (board : Blackboard) :
    Reply Blackboard (Except Panic Status) :=
  let plan := action.plan
  let (outcome, board) := match plan.source with
    | .key key => (some (board.status key), board)
    | .script script =>
        let (count, board) := board.count action.slot
        (script.entry count, board)
  let board := (plan.effects.filter (Effect.applies · outcome)).foldl
    (fun board effect => board.setFlag effect.flag effect.value) board
  let (lines, board) := sendAll board plan.sends
  let result := match outcome with
    | some status => .ok status
    | none => .error (.raised ("act " ++ plan.name))
  ⟨result, board, actLine plan.name clock outcome :: lines⟩

/-- Every start is counted, also one that panics. -/
def start (starter : Scripted StarterPlan) (board : Blackboard) :
    Reply Blackboard (Except Panic Operation) :=
  let name := starter.plan.name
  let line := "start " ++ name
  match starter.plan.source with
  | .channel =>
      let (number, board) := board.openChannel name
      ⟨.ok (.channel number), board, [line]⟩
  | .counted polls results =>
      let (count, board) := board.count starter.slot
      match results.entry count with
      | some success =>
          let (slot, board) := board.newCounter (polls.getD (count % polls.length) 0)
          ⟨.ok (.counted name slot success), board, [line]⟩
      | none => ⟨.error (.raised line), board, [line]⟩

def poll (operation : Operation) (board : Blackboard) : Reply Blackboard Bool :=
  match operation with
  | .channel number =>
      let (completed, channel) := (board.channel number).poll
      ⟨completed, board.setChannel number channel, []⟩
  | .counted name slot _ =>
      let remaining := board.counter slot
      let completed := remaining == 0
      ⟨completed, board.setCounter slot (remaining - 1),
        ["poll " ++ name ++ " " ++ toString completed]⟩

def take (operation : Operation) (board : Blackboard) : Reply Blackboard Bool :=
  match operation with
  | .channel number =>
      let (success, channel) := (board.channel number).take
      ⟨success, board.setChannel number channel.close, []⟩
  | .counted name _ success => ⟨success, board, ["take " ++ name ++ " " ++ toString success]⟩

/-- An operation that is given up no longer listens. -/
def release (operation : Operation) (board : Blackboard) : Blackboard :=
  match operation with
  | .channel number => board.setChannel number (board.channel number).close
  | .counted _ _ _ => board

def cancel (operation : Operation) (board : Blackboard) : Reply Blackboard Unit :=
  let lines := match operation with
    | .channel _ => []
    | .counted name _ _ => ["cancel " ++ name]
  ⟨(), release operation board, lines⟩

/-- The scripted agent offers planned leaves over a blackboard. -/
def scripted : Agent where
  State := Blackboard
  Predicate := Scripted PredicatePlan
  Action := Scripted ActionPlan
  Starter := Scripted StarterPlan
  Operation := Operation
  test := test
  act := act
  start := start
  poll := poll
  take := take
  cancel := cancel

end Behavior.Scenario
