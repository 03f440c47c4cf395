import Behavior.Proofs.Touch.Decorator

namespace Behavior

variable {A : Agent} {D : Type}

/-- The branch that is not chosen. -/
def Branch.other : Branch → Branch
  | yes => no
  | no => yes

/-- Only the branch for a false condition may be missing. -/
def Branch.Present (hasNo : Bool) : Branch → Prop
  | yes => True
  | no => hasNo = true

namespace Choice

/-- An abandonment aborts the branch that a choice abandons, if there is one. -/
inductive Abandonment (own : Choice A) (hasNo : Bool) (branch : Branch) :
    List (Nat × Touch) → Except Panic Unit → Prop
  | spared (kept : own.Abandons branch → ¬ branch.Present hasNo) :
      Abandonment own hasNo branch [] (.ok ())
  | aborted (abandons : own.Abandons branch) (present : branch.Present hasNo)
      (result : Except Panic Unit) :
      Abandonment own hasNo branch [(branch.position, .aborted result)] result

/-- A play is one way in which a tick of a choice can go after its predicate has answered. -/
inductive Plays (own : Choice A) (hasNo answer : Bool) :
    List (Nat × Touch) → Except Panic Status → Choice A → Prop
  | unwound {touches : List (Nat × Touch)} {panic : Panic}
      (abandons : Abandonment own hasNo (Branch.ofBool answer).other touches (.error panic)) :
      Plays own hasNo answer touches (.error panic) own.forget
  | routed {touches : List (Nat × Touch)} (result : Except Panic Status)
      (abandons : Abandonment own hasNo (Branch.ofBool answer).other touches (.ok ()))
      (present : (Branch.ofBool answer).Present hasNo) :
      Plays own hasNo answer (touches ++ [((Branch.ofBool answer).position, .ticked result)]) result
        (own.activate (Branch.ofBool answer) result)
  | missing {touches : List (Nat × Touch)}
      (abandons : Abandonment own hasNo (Branch.ofBool answer).other touches (.ok ()))
      (absent : ¬ (Branch.ofBool answer).Present hasNo) :
      Plays own hasNo answer touches (.ok .failure) own.forget

/-- A tick of a choice is refused by its predicate, or plays with its branches. -/
inductive Ticks (context : Context D) (info : NodeInfo) (own : Choice A) (yes : Node A)
    (no : Option (Node A)) :
    Stage A D → Trace A → Choice A → Node A → Option (Node A) → Except Panic Status →
      Stage A D → Prop
  | refused {before after : Stage A D} {trace : Trace A} {panic : Panic}
      (asks : Asks context info (some own.predicate) before trace (.error panic) after) :
      Ticks context info own yes no before trace own yes no (.error panic) after
  | played {before middle after : Stage A D} {earlier later : Trace A} {answer : Bool}
      {touches : List (Nat × Touch)} {next : Choice A} {changedYes : Node A}
      {changedNo : Option (Node A)} {result : Except Panic Status}
      (asks : Asks context info (some own.predicate) before earlier (.ok answer) middle)
      (handles : Handles context (yes :: no.toList) middle touches later
        (changedYes :: changedNo.toList) after)
      (kept : changedNo.isSome = no.isSome)
      (plays : own.Plays no.isSome answer touches result next) :
      Ticks context info own yes no before (earlier ++ later) next changedYes changedNo result after

variable {context : Context D} {info : NodeInfo} {own next : Choice A} {yes : Node A}
  {no : Option (Node A)} {before after : Stage A D} {trace : Trace A}
  {result : Except Panic Status} {body : Body A (Node A)}

/-- To give up a branch is an abandonment. -/
theorem leads_abandon {branch : Branch} {node changed : Node A} {final : Except Panic Unit}
    (nodes : List (Node A)) (hasNo : Bool)
    (abandons : (own.abandon context branch node).Leads before trace ⟨changed, final⟩ after)
    (taken : nodes[branch.position]? = some node) (present : branch.Present hasNo) :
    ∃ touches, Abandonment own hasNo branch touches final ∧
      Handles context nodes before touches trace (nodes.set branch.position changed) after := by
  unfold abandon at abandons
  by_cases leaves : own.Abandons branch
  · rw [if_pos leaves] at abandons
    exact ⟨_, .aborted leaves present final, .single taken (.aborted abandons)⟩
  · rw [if_neg leaves] at abandons
    obtain ⟨rfl, rfl, rfl, rfl⟩ := Run.leads_attempt.1 abandons
    obtain ⟨inside, rfl⟩ := List.getElem?_eq_some_iff.1 taken
    rw [List.set_getElem_self inside]
    exact ⟨[], .spared fun contrary => absurd contrary leaves, .done⟩

/-- To give up a branch that may be missing is an abandonment. -/
theorem leads_abandonOption (yes : Node A) {changed : Option (Node A)} {final : Except Panic Unit}
    (abandons : (own.abandonOption context .no no).Leads before trace ⟨changed, final⟩ after) :
    ∃ touches, Abandonment own no.isSome .no touches final ∧ changed.isSome = no.isSome ∧
      Handles context (yes :: no.toList) before touches trace (yes :: changed.toList) after := by
  cases no with
  | none =>
      obtain ⟨rfl, rfl, rfl, rfl⟩ := Run.leads_attempt.1 abandons
      exact ⟨[], .spared fun _ => by simp [Branch.Present], rfl, .done⟩
  | some node =>
      obtain ⟨⟨_, _⟩, leaves, rfl, rfl⟩ := Run.leads_bind_attempt.1 abandons
      obtain ⟨touches, abandonment, handles⟩ := leads_abandon [yes, node] true leaves rfl rfl
      exact ⟨touches, abandonment, rfl, handles⟩

/-- Every tick of a choice is refused or plays. -/
theorem ticks_of_tick
    (ticked : (own.tick info context yes.arm (no.map Node.arm)).Leads before trace
      ⟨body, result⟩ after) :
    ∃ next changedYes changedNo, body = .choice next changedYes changedNo ∧
      Ticks context info own yes no before trace next changedYes changedNo result after := by
  have nodes : (no.map (Node.arm (D := D))).map Part.node = no := by
    cases no <;> rfl
  obtain ⟨answer, middle, earlier, later, asks, ended, rfl⟩ := Run.leads_bind.1 ticked
  rw [nodes] at ended
  replace asks : Asks context info (some own.predicate) before earlier answer middle := .asked asks
  match answer with
  | .error panic =>
      obtain ⟨rfl, rfl, rfl, rfl⟩ := Run.leads_attempt.1 ended
      rw [List.append_nil]
      exact ⟨_, _, _, rfl, .refused asks⟩
  | .ok true =>
      obtain ⟨⟨changedNo, abandoned⟩, _, _, _, abandons, ended, rfl⟩ := Run.leads_bind.1 ended
      obtain ⟨touches, abandonment, kept, handles⟩ := leads_abandonOption yes abandons
      match abandoned with
      | .error panic =>
          obtain ⟨rfl, rfl, rfl, rfl⟩ := Run.leads_attempt.1 ended
          rw [List.append_nil]
          exact ⟨_, _, _, rfl, .played asks handles kept
            (.unwound abandonment)⟩
      | .ok () =>
          obtain ⟨⟨changedYes, _⟩, ticks, rfl, rfl⟩ := Run.leads_bind_attempt.1 ended
          have first : Handles context (yes :: changedNo.toList) _
              [(0, .ticked _)] _ (changedYes :: changedNo.toList) _ :=
            Handles.between [] _ rfl (.ticked ticks)
          exact ⟨_, _, _, rfl, .played asks (handles.trans first) kept
            (.routed _ abandonment trivial)⟩
  | .ok false =>
      obtain ⟨⟨changedYes, abandoned⟩, _, _, _, abandons, ended, rfl⟩ := Run.leads_bind.1 ended
      obtain ⟨touches, abandonment, handles⟩ :=
        leads_abandon (yes :: no.toList) no.isSome abandons rfl trivial
      rw [show Branch.yes.position = 0 from rfl, List.set_cons_zero] at handles
      match abandoned with
      | .error panic =>
          obtain ⟨rfl, rfl, rfl, rfl⟩ := Run.leads_attempt.1 ended
          rw [List.append_nil]
          exact ⟨_, _, _, rfl, .played asks handles rfl
            (.unwound abandonment)⟩
      | .ok () =>
          cases no with
          | none =>
              obtain ⟨rfl, rfl, rfl, rfl⟩ := Run.leads_attempt.1 ended
              rw [List.append_nil]
              exact ⟨_, _, _, rfl, .played asks handles rfl
                (.missing abandonment (by simp [Branch.Present, Branch.ofBool]))⟩
          | some no =>
              obtain ⟨⟨changedNo, _⟩, ticks, rfl, rfl⟩ := Run.leads_bind_attempt.1 ended
              have second : Handles context [changedYes, no] _ [(1, .ticked _)] _
                  [changedYes, changedNo] _ :=
                Handles.between [changedYes] [] rfl (.ticked ticks)
              exact ⟨_, _, _, rfl, .played asks (handles.trans second)
                rfl (.routed _ abandonment rfl)⟩

end Choice

end Behavior
