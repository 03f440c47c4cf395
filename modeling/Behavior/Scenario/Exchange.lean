import Behavior.Breakpoints
import Behavior.Channel

namespace Behavior.Scenario

/-- An exchange knows which ends of its channel are still held. -/
structure Exchange where
  channel : Channel
  sending : Bool
  receiving : Bool

namespace Exchange

inductive Move where
  | complete (success : Bool)
  | isCancelled
  | dropCompletion
  | isCompleted
  | takeResult
  | cancel
  | dropOperation

def start : Exchange := ⟨.fresh, true, true⟩

/-- A query of an end that is gone has no answer. -/
def move (exchange : Exchange) : Move → Option Bool × Exchange
  | .complete success =>
      if exchange.sending then
        let (heard, channel) := exchange.channel.complete success
        (some heard, { exchange with channel, sending := false })
      else (none, exchange)
  | .isCancelled =>
      (if exchange.sending then some exchange.channel.isCancelled else none, exchange)
  | .dropCompletion =>
      if exchange.sending then
        (some true, { exchange with channel := exchange.channel.drop, sending := false })
      else (some false, exchange)
  | .isCompleted =>
      if exchange.receiving then
        let (completed, channel) := exchange.channel.poll
        (some completed, { exchange with channel })
      else (none, exchange)
  | .takeResult =>
      if exchange.receiving then
        let (success, channel) := exchange.channel.take
        (some success, { exchange with channel })
      else (none, exchange)
  | .cancel =>
      if exchange.receiving then (some true, { exchange with channel := exchange.channel.close })
      else (some false, exchange)
  | .dropOperation =>
      if exchange.receiving then
        (some true, { exchange with channel := exchange.channel.close, receiving := false })
      else (some false, exchange)

def moves (exchange : Exchange) : List Move → List (Option Bool)
  | [] => []
  | move :: rest =>
      let (answer, exchange) := exchange.move move
      answer :: exchange.moves rest

end Exchange

namespace Debugging

inductive Move where
  | mark (id : NodeId)
  | clear (id : NodeId)
  | clearAll
  | resume
  | shouldBreak (id : NodeId)
  | wait

inductive Answer where
  | nothing
  | truth (value : Bool)
  | wouldBlock

/-- Waiting changes nothing where it would not block. -/
def move (breakpoints : Breakpoints) : Move → Answer × Breakpoints
  | .mark id => (.nothing, breakpoints.mark id)
  | .clear id =>
      let (marked, breakpoints) := breakpoints.clear id
      (.truth marked, breakpoints)
  | .clearAll => (.nothing, breakpoints.clearAll)
  | .resume => (.nothing, breakpoints.resume)
  | .shouldBreak id =>
      let (breaks, breakpoints) := breakpoints.breaksAt id
      (.truth breaks, breakpoints)
  | .wait => (if breakpoints.wouldBlock then .wouldBlock else .nothing, breakpoints)

/-- Each answer comes with the paused node after it. -/
def moves (breakpoints : Breakpoints) : List Move → List (Answer × Option NodeId)
  | [] => []
  | next :: rest =>
      let (answer, breakpoints) := move breakpoints next
      (answer, breakpoints.paused) :: moves breakpoints rest

end Debugging

end Behavior.Scenario
