import Behavior.Proofs.Handoff.Custody
import Behavior.Proofs.Idle.Suspension

namespace Behavior

variable {A : Agent} {line? : A.Operation → Option Nat} {number : Nat} {path : Place}
  {operation : A.Operation}

namespace Node

/-- Nothing is pending in a vacant tree. -/
def Vacant (node : Node A) : Prop := node.Everywhere fun part => part.body.pending? = none

/-- Nothing is pending on a node that rests. -/
theorem pending?_of_rests {node : Node A} (rests : node.Rests) : node.body.pending? = none := by
  have settled := rests.2
  generalize node.body = body at settled
  match body with
  | .leaf (.asyncAction _ _) => exact settled
  | .leaf (.condition _) | .leaf (.action _) | .decorator _ _ | .choice _ _ _ | .composite _ _ => rfl

theorem pending?_unnumbered (node : Node A) :
    node.unnumbered.body.pending? = node.body.pending? := by
  rw [body_unnumbered]
  cases node.body <;> rfl

/-- Numbers do not matter to whether a node is vacant. -/
theorem vacant_of_unnumbered {node other : Node A} (same : other.unnumbered = node.unnumbered)
    (vacant : node.Vacant) : other.Vacant := by
  have kept (part : Node A) : part.unnumbered.body.pending? = none ↔ part.body.pending? = none := by
    rw [pending?_unnumbered]
  unfold Vacant at vacant ⊢
  rw [← descends_unnumbered.everywhere_iff kept] at vacant ⊢
  rwa [same]

/-- A node that has been built only is vacant. -/
theorem Built.vacant {node : Node A} (built : node.Built) : node.Vacant :=
  fun part member => pending?_of_rests (built.rests part member)

/-- Where a vacant tree does anything it has a node that attends to its operations. -/
theorem AttendsThrough.of_vacant {root changed : Node A} {trace : Trace A} {doing : Doing A}
    (attends : root.AttendsThrough trace changed) (vacant : root.Vacant)
    (member : doing ∈ trace.doingsAt path) :
    ∃ node, changed.descendant? path = some node ∧ node.Attentive ∧
      Attends node.body.starter? none (trace.doingsAt path) node.body.pending? := by
  cases leads : root.descendant? path with
  | none =>
      rw [attends.outside path leads] at member
      exact absurd member List.not_mem_nil
  | some part =>
      have none : part.body.pending? = none := vacant.descendant leads
      have attentive : part.Attentive := by
        unfold Attentive
        rw [none]
        nofun
      obtain ⟨node, found, kept, same, attended⟩ := attends.inside path part leads attentive
      rw [none, ← same] at attended
      exact ⟨node, found, kept, attended⟩

end Node

/-- A line is reserved for a place if no other place has to do with it and nothing opens it again. -/
structure Trace.Reserved (line? : A.Operation → Option Nat) (number : Nat) (path : Place)
    (trace : Trace A) : Prop where
  apart : ∀ other call, ⟨other, .call call⟩ ∈ trace → other ≠ path →
    call.operation?.bind line? ≠ some number
  unopened : ∀ other source operation, ⟨other, .call (.started source (.ok operation))⟩ ∈ trace →
    line? operation ≠ some number

namespace Trace

variable {trace first second earlier since : Trace A} {source : A.Starter} {root changed : Node A}
  {before after : List Channel}

/-- A trace starts an operation at a place, with the rest of the trace since then. -/
def Starts (trace : Trace A) (path : Place) (operation : A.Operation) (since : Trace A) : Prop :=
  ∃ earlier source, trace = earlier ++ ⟨path, .call (.started source (.ok operation))⟩ :: since

/-- What starts in a trace starts in a longer one, before what comes later. -/
theorem Starts.append (starts : first.Starts path operation since) :
    (first ++ second).Starts path operation (since ++ second) := by
  obtain ⟨earlier, source, rfl⟩ := starts
  exact ⟨earlier, source, by rw [List.append_assoc, List.cons_append]⟩

/-- A line that is reserved in a trace is reserved in its end. -/
theorem Reserved.right (reserved : (first ++ second).Reserved line? number path) :
    second.Reserved line? number path where
  apart other call member := reserved.apart other call (List.mem_append_right first member)
  unopened other source operation member :=
    reserved.unopened other source operation (List.mem_append_right first member)

/-- A reserved line is opened by no doing at its path. -/
theorem Reserved.doingsAt (reserved : trace.Reserved line? number path) :
    Unopened line? number (trace.doingsAt path) :=
  fun source operation started =>
    reserved.unopened path source operation (mem_doingsAt_called.1 started)

/-- An operation that a vacant tree uses anywhere has been started there. -/
theorem started_of_used (attends : root.AttendsThrough trace changed) (vacant : root.Vacant)
    {place : Place} {call : Call A} (called : ⟨place, .call call⟩ ∈ trace)
    (used : call.operation? = some operation) :
    ∃ source, ⟨place, .call (.started source (.ok operation))⟩ ∈ trace := by
  have doing : .called call ∈ trace.doingsAt place := mem_doingsAt_called.2 called
  obtain ⟨_, _, _, attended⟩ := attends.of_vacant vacant doing
  obtain contrary | ⟨source, started⟩ := attended.pending_or_started doing used
  · cases contrary
  · exact ⟨source, mem_doingsAt_called.1 started⟩

/-- The start of an operation with a line reserves the line for its place. -/
theorem Replays.reserved (replays : Replays line? before trace after)
    (starts : trace.Starts path operation since) (line : line? operation = some number)
    (attends : root.AttendsThrough trace changed) (vacant : root.Vacant) :
    since.Reserved line? number path := by
  obtain ⟨earlier, source, rfl⟩ := starts
  obtain ⟨_, early, late⟩ := replays.split
  obtain ⟨_, _, same, _, _, length, rest⟩ := late.of_started line
  have unopened (other : Place) (source : A.Starter) (operation : A.Operation)
      (started : ⟨other, .call (.started source (.ok operation))⟩ ∈ since) :
      line? operation ≠ some number := by
    intro again
    have bound := (rest.opens_later started again).1
    omega
  refine ⟨fun other call called distinct uses => ?_, unopened⟩
  obtain ⟨used, names, again⟩ := Option.bind_eq_some_iff.1 uses
  have member := List.mem_append_right earlier (List.mem_cons_of_mem
    (⟨path, .call (.started source (.ok operation))⟩ : Entry A) called)
  obtain ⟨starter, started⟩ := started_of_used attends vacant member names
  rcases List.mem_append.1 started with before | started
  · have bound := (early.opens_later before again).2
    omega
  · rcases List.mem_cons.1 started with here | after
    · exact distinct (Entry.mk.inj here).1
    · exact unopened other starter used after again

end Trace

end Behavior
