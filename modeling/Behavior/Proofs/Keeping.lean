import Behavior.Proofs.History
import Behavior.Proofs.Touch.Descent

namespace Behavior

variable {A : Agent} {D : Type}

/-- A property of nodes is kept if touches, new children and new numbers leave it, and if the new
children have it. -/
structure Node.Keeps (D : Type) (adds : Node A → Prop) (Property : Node A → Prop) : Prop where
  undergoes : ∀ {context : Context D} {node changed : Node A} {touch : Touch}
    {before after : Stage A D} {trace : Trace A},
      node.Undergoes context touch before trace changed after → Property node → Property changed
  added : ∀ child, adds child → child.Everywhere Property
  extended : ∀ {node child changed : Node A},
    node.addChild child = .ok changed → Property node → Property changed
  unnumbered : ∀ node : Node A, Property node.unnumbered ↔ Property node

namespace Host

variable {adds : Node A → Prop} {Property : Node A → Prop}

/-- A property that every step keeps holds everywhere below the root after it. -/
theorem RootSteps.everywhere {node changed : Node A} {trace : Trace A}
    {result : Except Panic (Option Status)} (steps : RootSteps D adds node trace result changed)
    (keeps : Node.Keeps D adds Property) (holds : node.Everywhere Property) :
    changed.Everywhere Property := by
  cases steps with
  | evolved _ evolves _ => exact evolves.everywhere keeps.undergoes holds
  | extended fresh accepted =>
      exact Node.everywhere_of_addChild accepted holds (keeps.added _ fresh)
        (keeps.extended accepted holds.here)
  | numbered same =>
      rwa [← Node.descends_unnumbered.everywhere_iff keeps.unnumbered, same,
        Node.descends_unnumbered.everywhere_iff keeps.unnumbered]

/-- A property that is kept holds everywhere after a history, however its steps have ended. -/
theorem History.everywhere {start final : Host A D} {trace : Trace A}
    {ends : Except Panic (Option Status) → Prop} (keeps : Node.Keeps D adds Property)
    (history : start.History adds ends trace final) (holds : start.root.Everywhere Property) :
    final.root.Everywhere Property := by
  induction history with
  | start => exact holds
  | step _ steps _ inductionHypothesis => exact steps.root.everywhere keeps inductionHypothesis

/-- A history may be allowed to add more children than it adds. -/
theorem History.mono {start final : Host A D} {trace : Trace A} {more : Node A → Prop}
    {ends : Except Panic (Option Status) → Prop} (history : start.History adds ends trace final)
    (added : ∀ child, adds child → more child) : start.History more ends trace final := by
  induction history with
  | start => exact .start
  | step _ steps allowed inductionHypothesis =>
      refine .step inductionHypothesis ?_ allowed
      cases steps with
      | ticked rooted ticks => exact .ticked rooted ticks
      | reset resets => exact .reset resets
      | aborted aborts => exact .aborted aborts
      | extended fresh accepted => exact .extended (added _ fresh) accepted
      | planted builds => exact .planted builds
      | obeyed obeys => exact .obeyed obeys

end Host

end Behavior
