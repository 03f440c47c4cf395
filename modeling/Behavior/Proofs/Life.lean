import Behavior.Proofs.History
import Mathlib.Data.List.Induction

namespace Behavior

variable {A : Agent} {D : Type}

namespace Node

/-- A node lives through the touches that are allowed. In between, its owner may write records, give
it more children and number it. -/
inductive Lives (place : Place) (adds : Node A → Prop) (allows : Context D → Touch → Prop)
    (start : Node A) : Trace A → Node A → Prop
  | born : Lives place adds allows start [] start
  | touched {context : Context D} {node changed : Node A} {touch : Touch} {before after : Stage A D}
      {past trace : Trace A} (lives : Lives place adds allows start past node)
      (stands : context.place = place)
      (undergoes : node.Undergoes context touch before trace changed after)
      (allowed : allows context touch) : Lives place adds allows start (past ++ trace) changed
  | wrote {node : Node A} {past : Trace A} (lives : Lives place adds allows start past node)
      (record : Record) :
      Lives place adds allows start (past ++ [⟨place, .output (.record record)⟩]) node
  | extended {node child changed : Node A} {past : Trace A}
      (lives : Lives place adds allows start past node) (fresh : adds child)
      (accepted : node.addChild child = .ok changed) : Lives place adds allows start past changed
  | numbered {node changed : Node A} {past : Trace A} (lives : Lives place adds allows start past node)
      (same : changed.unnumbered = node.unnumbered) : Lives place adds allows start past changed

variable {place : Place} {adds : Node A → Prop} {allows : Context D → Touch → Prop}
  {start node changed : Node A} {past trace : Trace A}

/-- Records change no life. -/
theorem Lives.writes (lives : start.Lives place adds allows past node)
    (written : trace.Written place) : start.Lives place adds allows (past ++ trace) node := by
  induction trace generalizing past with
  | nil => rwa [List.append_nil]
  | cons entry rest inductionHypothesis =>
      obtain ⟨record, rfl⟩ := written entry List.mem_cons_self
      rw [List.append_cons]
      exact inductionHypothesis (lives.wrote record) fun other member =>
        written other (List.mem_cons_of_mem _ member)

/-- A life goes on with an evolution. -/
theorem Lives.evolves {context : Context D} {touches : List Touch}
    (lives : start.Lives place adds allows past node) (stands : context.place = place)
    (evolves : node.Evolves context touches trace changed)
    (allowed : ∀ touch ∈ touches, allows context touch) :
    start.Lives place adds allows (past ++ trace) changed := by
  induction evolves generalizing past with
  | done => rwa [List.append_nil]
  | wrote record _ inductionHypothesis =>
      rw [stands, List.append_cons]
      exact inductionHypothesis (lives.wrote record) allowed
  | touched undergoes _ inductionHypothesis =>
      obtain ⟨first, rest⟩ := List.forall_mem_cons.1 allowed
      rw [← List.append_assoc]
      exact inductionHypothesis (lives.touched stands undergoes first) rest

end Node

/-- In a calm life no touch is cut short by a panic. -/
def Touch.Calmly (D : Type) (_ : Context D) (touch : Touch) : Prop := touch.Calm

namespace Node

variable {place : Place} {adds : Node A → Prop} {allows : Context D → Touch → Prop}
  {start node : Node A} {past : Trace A} {position : Nat}

/-- The children of a built node are built. -/
theorem Built.child {node : Node A} (built : node.Built) : ∀ child ∈ node.children, child.Built := by
  induction built with
  | condition | action | asyncAction => exact fun _ member => absurd member List.not_mem_nil
  | selector below | sequence below | reactiveSelector below | reactiveSequence below => exact below
  | parallel accepted below =>
      unfold Node.parallel at accepted
      split at accepted <;> cases accepted
      exact below
  | guard _ below | whileTrue _ below | reactiveGuard _ below | invert below | forceSuccess below
  | forceFailure below | repeating _ below | retrying _ below =>
      exact List.forall_mem_singleton.2 below
  | ifElse _ _ belowYes belowNo =>
      exact List.forall_mem_cons.2 ⟨belowYes, fun child member => belowNo child (by simpa using member)⟩
  | timeout accepted below =>
      unfold Node.timeout at accepted
      split at accepted <;> cases accepted
      exact List.forall_mem_singleton.2 below
  | cooldown accepted below =>
      unfold Node.cooldown at accepted
      split at accepted <;> cases accepted
      exact List.forall_mem_singleton.2 below
  | labelled _ _ below => exact below
  | extended _ built accepted below =>
      obtain ⟨tag, own, nodes, rfl, rfl⟩ := addChild_spec accepted
      exact List.forall_mem_append.2 ⟨below, List.forall_mem_singleton.2 built⟩

/-- Nodes that were built the same have the same number of children. -/
theorem length_children_of_pristine {other : Node A} (built : other.pristine = node.pristine) :
    other.children.length = node.children.length := by
  have lengths := congrArg (fun node : Node A => node.children.length) built
  simpa only [children_pristine, List.length_map] using lengths

/-- Nodes that differ in their numbers alone have the same number of children. -/
theorem length_children_of_unnumbered {other : Node A} (same : other.unnumbered = node.unnumbered) :
    other.children.length = node.children.length := by
  have lengths := congrArg (fun node : Node A => node.children.length) same
  simpa only [descends_unnumbered _, List.length_map] using lengths

/-- Nodes that differ in numbers alone have children that do. -/
theorem child_of_unnumbered {other child : Node A} (same : other.unnumbered = node.unnumbered)
    (present : other.children[position]? = some child) :
    ∃ former, node.children[position]? = some former ∧ child.unnumbered = former.unnumbered := by
  have images : other.unnumbered.children[position]? = some child.unnumbered := by
    rw [descends_unnumbered, List.getElem?_map, present, Option.map_some]
  rw [same, descends_unnumbered, List.getElem?_map, Option.map_eq_some_iff] at images
  obtain ⟨former, taken, image⟩ := images
  exact ⟨former, taken, image.symm⟩

/-- Composites that differ in numbers alone remember the same. -/
theorem composite_of_unnumbered {other : Node A} {own : Composite} {nodes : List (Node A)}
    (same : other.unnumbered = node.unnumbered) (shape : other.body = .composite own nodes) :
    ∃ twins, node.body = .composite own twins ∧ nodes.map unnumbered = twins.map unnumbered := by
  have bodies := corresponds_of_unnumbered same
  rw [shape] at bodies
  generalize node.body = body at bodies
  cases bodies with
  | composite _ related => exact ⟨_, rfl, forall₂_unnumbered.1 related⟩

/-- A life takes place at its place and below. -/
theorem Lives.inside (lives : start.Lives place adds allows past node) : past.Inside place := by
  induction lives with
  | born => exact fun _ member => absurd member List.not_mem_nil
  | touched _ stands undergoes _ inductionHypothesis =>
      subst stands
      exact List.forall_mem_append.2 ⟨inductionHypothesis, undergoes.populates.inside⟩
  | wrote _ record inductionHypothesis =>
      exact List.forall_mem_append.2
        ⟨inductionHypothesis, List.forall_mem_singleton.2 (List.suffix_refl _)⟩
  | extended _ _ _ inductionHypothesis | numbered _ _ inductionHypothesis =>
      exact inductionHypothesis

/-- Nothing happens where a node has no child. -/
theorem Undergoes.within_absent {context : Context D} {changed : Node A} {touch : Touch}
    {before after : Stage A D} {trace : Trace A}
    (undergoes : node.Undergoes context touch before trace changed after)
    (absent : node.children.length ≤ position) :
    trace.within (position :: context.place) = [] := by
  apply List.filter_eq_nil_iff.2
  intro entry member suffix
  obtain ⟨path, leads, there⟩ := undergoes.populates entry member
  rw [List.isSuffixOf_iff_suffix, there] at suffix
  rcases List.eq_nil_or_concat path with rfl | ⟨path, first, rfl⟩
  · exact absurd suffix.length_le (by simp)
  · rw [List.concat_eq_append] at leads suffix
    rw [descendant?_concat] at leads
    rw [List.append_assoc] at suffix
    have same := List.suffix_of_suffix_length_le suffix ⟨path, rfl⟩ (by simp)
    obtain rfl := (List.cons.inj (same.eq_of_length (by simp))).1
    rw [List.getElem?_eq_none absent] at leads
    cases leads

/-- Nothing has happened yet where the next child is going to stand. -/
theorem Lives.within_absent (lives : start.Lives place adds allows past node)
    (absent : node.children.length ≤ position) : past.within (position :: place) = [] := by
  induction lives with
  | born => rfl
  | wrote _ record inductionHypothesis =>
      rw [Trace.within_append, inductionHypothesis absent, Trace.local_nil.cons.within_below]
      rfl
  | touched _ stands undergoes _ inductionHypothesis =>
      subst stands
      rw [length_children_of_pristine undergoes.pristine] at absent
      rw [Trace.within_append, inductionHypothesis absent, undergoes.within_absent absent]
      rfl
  | extended _ _ accepted inductionHypothesis =>
      obtain ⟨tag, own, nodes, rfl, rfl⟩ := addChild_spec accepted
      refine inductionHypothesis (Nat.le_trans ?_ absent)
      simp [children, Body.children]
  | numbered _ same inductionHypothesis =>
      rw [length_children_of_unnumbered same] at absent
      exact inductionHypothesis absent

/-- A calm life of a node is a calm life of each of its children. -/
theorem Lives.child {child : Node A} (built : start.Built)
    (lives : start.Lives place Built (Touch.Calmly D) past node)
    (present : node.children[position]? = some child) :
    ∃ origin : Node A, origin.Built ∧ origin.Lives (position :: place) Built (Touch.Calmly D)
      (past.within (position :: place)) child := by
  induction lives generalizing child with
  | born => exact ⟨child, built.child child (List.mem_of_getElem? present), .born⟩
  | wrote _ record inductionHypothesis =>
      obtain ⟨origin, fresh, lives⟩ := inductionHypothesis present
      refine ⟨origin, fresh, ?_⟩
      rw [Trace.within_append, Trace.local_nil.cons.within_below, List.append_nil]
      exact lives
  | @touched context node changed _ _ _ _ _ _ stands undergoes calm inductionHypothesis =>
      have inside : position < node.children.length := by
        rw [← length_children_of_pristine undergoes.pristine]
        exact (List.getElem?_eq_some_iff.1 present).1
      have former := List.getElem?_eq_getElem inside
      obtain ⟨origin, fresh, lives⟩ := inductionHypothesis former
      obtain ⟨touches, last, taken, evolves, _, calms⟩ := undergoes.evolves former
      obtain rfl := Option.some.inj (taken.symm.trans present)
      subst stands
      refine ⟨origin, fresh, ?_⟩
      rw [Trace.within_append]
      exact lives.evolves rfl evolves (calms calm)
  | @extended node new _ _ lives fresh accepted inductionHypothesis =>
      have absent := lives.within_absent (Nat.le_refl node.children.length)
      obtain ⟨tag, own, nodes, rfl, rfl⟩ := addChild_spec accepted
      rcases getElem?_extended present with old | ⟨rfl, rfl⟩
      · exact inductionHypothesis old
      · refine ⟨_, fresh, ?_⟩
        replace absent : Trace.within (nodes.length :: place) _ = [] := absent
        rw [absent]
        exact .born
  | @numbered node changed _ _ same inductionHypothesis =>
      obtain ⟨former, taken, image⟩ := child_of_unnumbered same present
      obtain ⟨origin, fresh, lives⟩ := inductionHypothesis taken
      exact ⟨origin, fresh, lives.numbered image⟩

/-- A calm life of a node is a calm life of each of its descendants. -/
theorem Lives.descendant {path : Place} {part : Node A} (built : start.Built)
    (lives : start.Lives place Built (Touch.Calmly D) past node)
    (leads : node.descendant? path = some part) :
    ∃ origin : Node A, origin.Built ∧ origin.Lives (path ++ place) Built (Touch.Calmly D)
      (past.within (path ++ place)) part := by
  -- The path is taken apart at its end, where it enters the first child.
  induction path using List.reverseRecOn generalizing start node place past with
  | nil =>
      obtain rfl := Option.some.inj leads
      rw [List.nil_append, lives.inside.within_self]
      exact ⟨start, built, lives⟩
  | append_singleton path position inductionHypothesis =>
      rw [descendant?_concat, Option.bind_eq_some_iff] at leads
      obtain ⟨child, present, leads⟩ := leads
      obtain ⟨origin, fresh, below⟩ := lives.child built present
      have deeper : position :: place <:+ path ++ [position] ++ place := ⟨path, by simp⟩
      have nested := inductionHypothesis fresh below leads
      rw [List.append_cons path position place, Trace.within_within deeper] at nested
      exact nested

end Node

namespace Host

variable {adds : Node A → Prop} {root : Node A} {host : Host A D} {past : Trace A}

/-- The root of a host has a calm life if no step of the host panics. -/
theorem History.lives (history : (Host.bare (D := D) root).History adds Calm past host) :
    root.Lives Tree.rootPlace adds (Touch.Calmly D) past host.root := by
  induction history with
  | start => exact .born
  | step _ steps allowed inductionHypothesis =>
      cases steps.root with
      | evolved rooted evolves calm => exact inductionHypothesis.evolves rooted evolves (calm allowed)
      | extended fresh accepted =>
          rw [List.append_nil]
          exact inductionHypothesis.extended fresh accepted
      | numbered same written => exact (inductionHypothesis.writes written).numbered same

end Host

namespace Sample

/-- A sample node lives through a tick that returns. -/
theorem lives_ticked {node : Node agent} {flag : Bool} {status : Status}
    (returns : (ticked node flag).value.result = .ok status) :
    node.Lives Tree.rootPlace Node.Built (Touch.Calmly Unit) (ticked node flag).trace
      (ticked node flag).value.after := by
  have ticks := Run.leads_self (node.tick context) ⟨flag, ()⟩
  have fresh : node.Lives Tree.rootPlace Node.Built (Touch.Calmly Unit) [] node := .born
  have lives := fresh.touched rfl (.ticked ticks) ⟨status, returns⟩
  rwa [List.nil_append] at lives

end Sample

end Behavior
