namespace Behavior

/-- A policy tells how many children of a parallel node have to succeed. -/
inductive Policy where
  | any
  | all
  | quorum (count : Nat)
  deriving DecidableEq, Repr

namespace Policy

def threshold (policy : Policy) (children : Nat) : Nat :=
  match policy with
  | any => 1
  | all => children
  | quorum count => count

/-- Only a quorum can ask for no child or for more children than there are. -/
def Satisfiable (policy : Policy) (children : Nat) : Prop :=
  match policy with
  | any => True
  | all => True
  | quorum count => 0 < count ∧ count ≤ children

instance (policy : Policy) (children : Nat) : Decidable (policy.Satisfiable children) := by
  cases policy <;> simp only [Satisfiable] <;> infer_instance

def text : Policy → String
  | any => "Any"
  | all => "All"
  | quorum count => "N(" ++ toString count ++ ")"

end Policy

end Behavior
