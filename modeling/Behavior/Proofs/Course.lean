import Behavior.Proofs.Life

namespace Behavior

variable {A : Agent} {D : Type}

namespace Node

/-- A node takes its course through calm touches, which are listed in their order. In between, its owner
may write records and number it. -/
inductive Course (D : Type) (place : Place) (start : Node A) :
    List Touch → Trace A → Node A → Prop
  | born : Course D place start [] [] start
  | touched {context : Context D} {node changed : Node A} {touch : Touch} {touches : List Touch}
      {before after : Stage A D} {past trace : Trace A}
      (course : Course D place start touches past node) (stands : context.place = place)
      (undergoes : node.Undergoes context touch before trace changed after) (calm : touch.Calm) :
      Course D place start (touches ++ [touch]) (past ++ trace) changed
  | wrote {node : Node A} {touches : List Touch} {past : Trace A}
      (course : Course D place start touches past node) (record : Record) :
      Course D place start touches (past ++ [⟨place, .output (.record record)⟩]) node
  | numbered {node changed : Node A} {touches : List Touch} {past : Trace A}
      (course : Course D place start touches past node)
      (same : changed.unnumbered = node.unnumbered) : Course D place start touches past changed

variable {place : Place} {start node changed : Node A}
  {touches more : List Touch} {past trace : Trace A}

/-- A course goes on with a calm evolution. -/
theorem Course.evolves {context : Context D} (course : start.Course D place touches past node)
    (stands : context.place = place) (evolves : node.Evolves context more trace changed)
    (calm : ∀ touch ∈ more, touch.Calm) :
    start.Course D place (touches ++ more) (past ++ trace) changed := by
  induction evolves generalizing touches past with
  | done => rwa [List.append_nil, List.append_nil]
  | wrote record _ inductionHypothesis =>
      rw [stands, List.append_cons]
      exact inductionHypothesis (course.wrote record) calm
  | touched undergoes _ inductionHypothesis =>
      obtain ⟨first, rest⟩ := List.forall_mem_cons.1 calm
      rw [← List.append_assoc, List.append_cons]
      exact inductionHypothesis (course.touched stands undergoes first) rest

/-- The calm lives of a node that gets no more children are its courses. -/
theorem lives_iff_course :
    start.Lives place (fun _ => False) (Touch.Calmly D) past node ↔
      ∃ touches, start.Course D place touches past node := by
  constructor
  · intro lives
    induction lives with
    | born => exact ⟨[], .born⟩
    | touched _ stands undergoes calm inductionHypothesis =>
        obtain ⟨touches, course⟩ := inductionHypothesis
        exact ⟨_, course.touched stands undergoes calm⟩
    | wrote _ record inductionHypothesis =>
        obtain ⟨touches, course⟩ := inductionHypothesis
        exact ⟨touches, course.wrote record⟩
    | extended _ fresh => exact fresh.elim
    | numbered _ same inductionHypothesis =>
        obtain ⟨touches, course⟩ := inductionHypothesis
        exact ⟨touches, course.numbered same⟩
  · rintro ⟨touches, course⟩
    induction course with
    | born => exact .born
    | touched _ stands undergoes calm inductionHypothesis =>
        exact inductionHypothesis.touched stands undergoes calm
    | wrote _ record inductionHypothesis => exact inductionHypothesis.wrote record
    | numbered _ same inductionHypothesis => exact inductionHypothesis.numbered same

end Node

end Behavior
