import Behavior.Scenario.Session
import Behavior.Scenario.Exchange
import Behavior.Scenario.Inspection
import Behavior.Proofs.Idle.Suspension
import Behavior.Proofs.Operation.Lifecycle
import Behavior.Proofs.Report.Exactness
import Behavior.Proofs.Twin.Completion
import Behavior.Proofs.Valid.Bookkeeping
import Behavior.Proofs.Valid.Panics
import Behavior.Proofs.Renewal.Cancellation
import Behavior.Proofs.Renewal.Rebuilding
import Behavior.Proofs.Running.Justification
import Behavior.Proofs.Phrase.Grammar
import Behavior.Proofs.Touch.Order
import Behavior.Proofs.Phrase.Telling
import Behavior.Proofs.Phrase.Order
import Behavior.Proofs.Keeping
import Behavior.Proofs.Running.Chain
import Behavior.Proofs.Struck.Breaking
import Behavior.Proofs.Struck.Raising
import Behavior.Proofs.Struck.Remains
import Behavior.Proofs.Echo.Echoing
import Behavior.Proofs.Dual.Loops
import Behavior.Proofs.Echo.Driving
import Behavior.Proofs.Dual.Duality
import Behavior.Proofs.Handoff.Switchboard
import Behavior.Proofs.Handoff.Replaying
import Behavior.Proofs.Handoff.Attending
import Behavior.Proofs.Handoff.Serving
import Behavior.Proofs.Handoff.Custody
import Behavior.Proofs.Handoff.Contract
import Behavior.Proofs.Handoff.Visiting
import Behavior.Proofs.Snapshot.Listing
import Behavior.Proofs.Echo.Observing
import Behavior.Proofs.Time.Flow
import Behavior.Proofs.Touch.Entrances
import Behavior.Proofs.Life
import Behavior.Proofs.Reactive.Preemption
import Behavior.Proofs.Reactive.Watching
import Behavior.Proofs.Scan.Resumption
import Behavior.Proofs.Scan.Flattening
import Behavior.Proofs.Parallel.Reference
import Behavior.Proofs.Routing.Desertion
import Behavior.Proofs.Routing.Histories
import Behavior.Proofs.Diary.Cooling
import Behavior.Proofs.Diary.Deadlines
import Behavior.Proofs.Diary.Rounds
import Behavior.Proofs.Snapshot.RoundTrip
