import Behavior.Proofs.Idle.Suspension
import Behavior.Proofs.Keeping
import Behavior.Proofs.Renewal.Cancellation
import Mathlib.Data.List.Induction

namespace Behavior

variable {A : Agent} {D : Type}

namespace Composite

/-- A narrow composite remembers at most one running child. -/
def Narrow : Composite → Prop
  | .reactiveSelector running => running.list.length ≤ 1
  | _ => True

/-- Nothing is remembered after a reset. -/
theorem narrow_forget (own : Composite) : own.forget.Narrow := by
  cases own <;> simp [forget, Narrow]

/-- A composite remembers no more than the child at which its scan has stopped. -/
theorem Plays.narrow {count : Nat} {own next : Composite} {touches : List (Nat × Touch)}
    {result : Except Panic Status} (plays : Plays count own touches result next)
    (narrow : own.Narrow) : next.Narrow := by
  cases plays with
  | selector resumes | sequence resumes => cases resumes <;> trivial
  | parallel concurs => cases concurs <;> trivial
  | reactiveSequence reacts => cases reacts <;> trivial
  | reactiveSelector reacts =>
      cases reacts with
      | scanUnwound | preemptionUnwound => exact narrow
      | @ended _ _ stop =>
          rw [Narrow, Positions.list_replace]
          cases runningOf stop <;> simp

/-- Of the composites, only a parallel one holds several children at a time. -/
theorem holds_unique {own : Composite} {first second : Nat} (narrow : own.Narrow)
    (single : own.kind ≠ .parallel) (one : own.Holds first) (other : own.Holds second) :
    first = second := by
  cases own with
  | selector | sequence | reactiveSequence => exact Option.some.inj (one.symm.trans other)
  | parallel => exact absurd rfl single
  | reactiveSelector running =>
      obtain ⟨list, ascending⟩ := running
      match list with
      | [] => exact absurd one List.not_mem_nil
      | [position] => exact (List.mem_singleton.1 one).trans (List.mem_singleton.1 other).symm
      | _ :: _ :: _ => simp [Narrow] at narrow

end Composite

namespace Body

variable {Child Other : Type}

def Narrow : Body A Child → Prop
  | .composite own _ => own.Narrow
  | _ => True

theorem narrow_map (change : Child → Other) (body : Body A Child) :
    (body.map change).Narrow ↔ body.Narrow := by
  cases body <;> exact Iff.rfl

/-- A rested body is narrow. -/
theorem narrow_rested (body : Body A Child) : body.rested.Narrow := by
  cases body with
  | composite own => exact own.narrow_forget
  | leaf | decorator | choice => trivial

/-- A narrow body that is not parallel holds one child at most. -/
theorem holds_unique {body : Body A Child} {first second : Nat} (narrow : body.Narrow)
    (single : body.kind ≠ .parallel) (one : body.Holds first) (other : body.Holds second) :
    first = second := by
  cases body with
  | leaf => exact one.elim
  | decorator => exact one.1.trans other.1.symm
  | choice => exact Option.some.inj (one.symm.trans other)
  | composite => exact Composite.holds_unique narrow single one other

/-- A narrow body stays narrow whatever it works at. -/
theorem Works.narrow {context : Context D} {info : NodeInfo} {body changed : Body A (Node A)}
    {before after : Stage A D} {trace : Trace A} {result : Except Panic Status}
    (works : body.Works context info before trace result changed after) (narrow : body.Narrow) :
    changed.Narrow := by
  cases works with
  | leaf => trivial
  | refused => exact narrow
  | played _ _ plays =>
      cases plays with
      | decorator | choice => trivial
      | composite plays => exact plays.narrow narrow

end Body

namespace Node

variable {context : Context D} {node changed : Node A} {touch : Touch} {before after : Stage A D}
  {trace : Trace A}

def Narrow (node : Node A) : Prop := node.body.Narrow

/-- A cleared node is narrow. -/
theorem narrow_cleared (node : Node A) : node.cleared.Narrow := by
  rw [Narrow, body_cleared]
  exact Body.narrow_rested _

/-- Every touch keeps a node narrow, also one that a panic cuts short. -/
theorem Undergoes.narrow (undergoes : node.Undergoes context touch before trace changed after)
    (narrow : node.Narrow) : changed.Narrow := by
  cases undergoes with
  | reset resets =>
      rw [cleared_of_reset resets]
      exact narrow_cleared node
  | aborted aborts =>
      obtain rfl | rfl := cleared_or_same_of_abortIn aborts
      · exact narrow_cleared node
      · exact narrow
  | ticked ticks =>
      cases ticked_of_tick ticks with
      | refused => exact narrow
      | unwound _ works | returned _ works => exact works.narrow narrow

/-- A pristine node is narrow. -/
theorem narrow_pristine (node : Node A) : node.pristine.Narrow := by
  rw [Narrow, body_pristine]
  cases node.body with
  | leaf | decorator | choice => trivial
  | composite own => exact own.narrow_forget

/-- A single node is not parallel and remembers at most one running child. -/
structure Single (node : Node A) : Prop where
  kind : node.kind ≠ .parallel
  narrow : node.Narrow

/-- An unforked tree has no parallel node. -/
def Unforked (node : Node A) : Prop := node.Everywhere fun part => part.kind ≠ .parallel

/-- A built tree without parallel nodes has single nodes everywhere. -/
theorem Built.single (built : node.Built) (unforked : node.Unforked) : node.Everywhere Single := by
  have narrow : node.Everywhere Narrow := by
    rw [← built.pristine]
    exact descends_pristine.everywhere narrow_pristine node
  exact fun part member => ⟨unforked part member, narrow part member⟩

/-- Nodes stay single as long as children that are single are added. -/
theorem keeps_single {adds : Node A → Prop}
    (added : ∀ child, adds child → child.Everywhere Single) : Keeps D adds Single where
  undergoes := by
    intro _ node changed _ _ _ _ undergoes single
    have same : changed.kind = node.kind := congrArg NodeInfo.kind (info_of_pristine undergoes.pristine)
    exact ⟨by rw [same]; exact single.kind, undergoes.narrow single.narrow⟩
  added := added
  extended := by
    intro node child changed accepted single
    obtain ⟨tag, own, nodes, rfl, rfl⟩ := addChild_spec accepted
    exact ⟨single.kind, single.narrow⟩
  unnumbered := by
    intro node
    have kinds : node.unnumbered.kind = node.kind := by
      rw [kind, body_unnumbered, Body.kind_map]
      rfl
    have narrows : node.unnumbered.Narrow ↔ node.Narrow := by
      rw [Narrow, body_unnumbered, Body.narrow_map]
      exact Iff.rfl
    exact ⟨fun single => ⟨kinds ▸ single.kind, narrows.1 single.narrow⟩,
      fun single => ⟨kinds ▸ single.kind, narrows.2 single.narrow⟩⟩

/-- A link of a chain has at most one running child, is running if it has one, and waits for an
operation only if it is running. -/
structure Linked (node : Node A) : Prop where
  single : ∀ (first second : Nat) (one other : Node A), node.children[first]? = some one →
    node.children[second]? = some other → one.last = some .running → other.last = some .running →
      first = second
  upward : ∀ child ∈ node.children, child.last = some .running → node.last = some .running
  pending : node.body.pending?.isSome → node.last = some .running

/-- Coherent nodes that are single are linked to one running child. -/
theorem linked_of_coherent (coherent : node.Coherent) (single : node.Single) : node.Linked where
  single first second one other present found runs busy :=
    Body.holds_unique single.narrow single.kind (coherent.held first one present runs)
      (coherent.held second other found busy)
  upward child member runs := by
    by_contra idle
    exact coherent.quiet idle child member runs
  pending waits := by
    by_contra idle
    have settled := coherent.settled idle
    generalize node.body = body at waits settled
    match body with
    | .leaf (.asyncAction _ _) =>
        obtain rfl := settled
        cases waits
    | .leaf (.condition _) | .leaf (.action _) | .decorator _ _ | .choice _ _ _ | .composite _ _ =>
        cases waits

/-- In a chain, all nodes above a running one are running. -/
theorem running_above (linked : node.Everywhere Linked) {upper lower : Place} {part whole : Node A}
    (suffix : upper <:+ lower) (leads : node.descendant? lower = some part)
    (above : node.descendant? upper = some whole) (runs : part.last = some .running) :
    whole.last = some .running := by
  induction lower generalizing part with
  | nil =>
      obtain rfl := List.suffix_nil.1 suffix
      obtain rfl := Option.some.inj (leads.symm.trans above)
      exact runs
  | cons position rest inductionHypothesis =>
      rcases List.suffix_cons_iff.1 suffix with rfl | suffix
      · obtain rfl := Option.some.inj (leads.symm.trans above)
        exact runs
      · rw [descendant?_cons, Option.bind_eq_some_iff] at leads
        obtain ⟨parent, leads, present⟩ := leads
        have link : parent.Linked := linked.descendant leads
        exact inductionHypothesis suffix leads
          (link.upward part (List.mem_of_getElem? present) runs)

/-- In a chain, of two running nodes one stands above the other. -/
theorem running_comparable (linked : node.Everywhere Linked) {first second : Place}
    {one other : Node A} (leads : node.descendant? first = some one)
    (found : node.descendant? second = some other) (runs : one.last = some .running)
    (busy : other.last = some .running) : first <:+ second ∨ second <:+ first := by
  -- Both paths are taken apart at their ends, where they enter the same child of the root.
  induction first using List.reverseRecOn generalizing node second with
  | nil => exact .inl (List.nil_suffix)
  | append_singleton path position inductionHypothesis =>
      rcases List.eq_nil_or_concat second with rfl | ⟨rest, index, rfl⟩
      · exact .inr List.nil_suffix
      · rw [List.concat_eq_append] at found ⊢
        have entered := leads
        have visited := found
        rw [descendant?_concat, Option.bind_eq_some_iff] at leads found
        obtain ⟨child, present, leads⟩ := leads
        obtain ⟨twin, listed, found⟩ := found
        have childRuns := running_above linked ⟨path, rfl⟩ entered present runs
        have twinRuns := running_above linked ⟨rest, rfl⟩ visited listed busy
        have link : node.Linked := linked.here
        obtain rfl := link.single position index child twin present listed childRuns twinRuns
        obtain rfl := Option.some.inj (present.symm.trans listed)
        have below := linked.child (List.mem_of_getElem? present)
        exact (inductionHypothesis below leads found).imp List.suffix_append_self_iff.2
          List.suffix_append_self_iff.2

/-- In a chain, only one place has a pending operation. -/
theorem pending_unique (linked : node.Everywhere Linked) {first second : Place} {one other : Node A}
    (leads : node.descendant? first = some one) (found : node.descendant? second = some other)
    (waits : one.body.pending?.isSome) (expects : other.body.pending?.isSome) : first = second := by
  have childless {part : Node A} (waits : part.body.pending?.isSome) : part.children = [] := by
    rw [children]
    generalize part.body = body at waits
    cases body with
    | leaf => rfl
    | decorator | choice | composite => cases waits
  have top {upper lower : Place} {part whole : Node A} (suffix : upper <:+ lower)
      (above : node.descendant? upper = some whole) (leads : node.descendant? lower = some part)
      (waits : whole.body.pending?.isSome) : upper = lower := by
    obtain ⟨path, rfl⟩ := suffix
    rw [descendant?_append, above, Option.bind_some] at leads
    rcases List.eq_nil_or_concat path with rfl | ⟨rest, position, rfl⟩
    · rfl
    · rw [List.concat_eq_append, descendant?_concat, childless waits] at leads
      cases leads
  have link : one.Linked := linked.descendant leads
  have other' : other.Linked := linked.descendant found
  rcases running_comparable linked leads found (link.pending waits) (other'.pending expects) with
    below | above
  · exact top below leads found waits
  · exact (top above found leads expects).symm

end Node

namespace Host

/-- Whatever is done to a tree without parallel and without dangling nodes, as long as nothing
panics, its running nodes form a chain: no node has two running children, the parent of a running
node is running, so that of two running nodes one stands above the other. Hence at most one
operation is pending. -/
theorem running_nodes_chain {root : Node A} {host : Host A D} {trace : Trace A} (built : root.Built)
    (supervised : root.Supervised) (unforked : root.Unforked)
    (history : (Host.bare (D := D) root).History
      (fun child => child.Built ∧ child.Supervised ∧ child.Unforked) Calm trace host) :
    host.root.Everywhere Node.Linked ∧
    (∀ first second one other, host.root.descendant? first = some one →
      host.root.descendant? second = some other → one.last = some .running →
        other.last = some .running → first <:+ second ∨ second <:+ first) ∧
    ∀ first second one other, host.root.descendant? first = some one →
      host.root.descendant? second = some other → one.body.pending?.isSome →
        other.body.pending?.isSome → first = second := by
  have older : (Host.bare (D := D) root).History (fun child => child.Built ∧ child.Supervised) Calm
      trace host := history.mono fun child fresh => ⟨fresh.1, fresh.2.1⟩
  obtain ⟨_, coherent⟩ := older.coherent built supervised
  have keeps : Node.Keeps D (fun child : Node A => child.Built ∧ child.Supervised ∧ child.Unforked)
      Node.Single :=
    Node.keeps_single fun child fresh => fresh.1.single fresh.2.2
  have single := history.everywhere keeps (built.single unforked)
  have linked : host.root.Everywhere Node.Linked := fun part member =>
    Node.linked_of_coherent (coherent part member) (single part member)
  refine ⟨linked, ?_, ?_⟩
  · intro first second one other leads found runs busy
    exact Node.running_comparable linked leads found runs busy
  · intro first second one other leads found waits expects
    exact Node.pending_unique linked leads found waits expects

/-- In the sample, the watched operation and the root above it are the chain. -/
theorem running_nodes_chain_in_sample :
    Sample.waiting.last = some .running ∧ Sample.waiting.pending = [()] ∧
      Sample.waiting.Everywhere Node.Linked := by
  have unforked : Sample.root.Unforked := by
    refine Node.everywhere_mk (fun same => nomatch same) fun node member => ?_
    rw [List.mem_singleton.1 member]
    exact Node.everywhere_mk (fun same => nomatch same) fun _ member => nomatch member
  have chain := running_nodes_chain Sample.built Sample.supervised unforked
    (Sample.history_waiting calm_ok)
  exact ⟨rfl, rfl, chain.1⟩

end Host

end Behavior
