import Behavior.Proofs.Lockstep.Ticking
import Behavior.Proofs.Twin.Alike

namespace Behavior

variable {A : Agent} {D : Type}

/-- Ticks of alike nodes are coupled. -/
theorem Node.coupled_tick {node twin : Node A} (alike : node.Alike twin) (context : Context D) :
    Run.Coupled (Attempt.Agree Alike) (node.tick context) (twin.tick context) :=
  twins.tick rfl alike

end Behavior
