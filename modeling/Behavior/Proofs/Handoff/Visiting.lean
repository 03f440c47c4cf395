import Behavior.Proofs.Handoff.Attending
import Behavior.Proofs.Report.Exactness
import Behavior.Proofs.Valid.Panics

namespace Behavior

variable {A : Agent} {D : Type}

/-- A quiet sink never panics. -/
def Sink.Quiet (sink : Sink D) : Prop :=
  (∀ notice debugger, (sink.observe notice debugger).panic = none) ∧
    ∀ debugger, (sink.pause debugger).panic = none

def Context.Quiet (context : Context D) : Prop := ∀ sink, context.sink = some sink → sink.Quiet

variable {context : Context D} {info : NodeInfo} {before after : Stage A D} {trace : Trace A}
  {result : Except Panic Status}

/-- A node is entered without a panic if the sink is quiet. -/
theorem Context.ok_of_enter {announced : Except Panic Unit} (quiet : context.Quiet)
    (entered : (context.enter info).Leads before trace announced after) : announced = .ok () := by
  cases announced with
  | ok => rfl
  | error panic =>
      obtain ⟨outputs, rfl⟩ := tells_of_enter entered
      cases raised_of_enter entered with
      | called made =>
          rcases List.mem_cons.1 made with same | made
          · cases same
          · obtain ⟨_, _, same⟩ := List.mem_map.1 made
            cases same
      | observed debugger installed _ reacts =>
          cases ((quiet _ installed).1 _ debugger).symm.trans reacts
      | paused debugger installed reacts =>
          cases ((quiet _ installed).2 debugger).symm.trans reacts

/-- A tick of an asynchronous action always does something. -/
theorem Leaf.visited_of_tick {starter : A.Starter} {pending : Option A.Operation} {next : Leaf A}
    (ticks : ((Leaf.asyncAction starter pending).tick info context).Leads before trace
      ⟨next, result⟩ after) : trace.doingsAt context.place ≠ [] := by
  cases pending with
  | none =>
      obtain ⟨_, _, _, _, called, _, rfl⟩ := Run.leads_bind.1 ticks
      rw [Trace.doingsAt_append, called.doingsAt]
      exact List.cons_ne_nil _ _
  | some operation =>
      obtain ⟨_, _, _, _, called, _, rfl⟩ := Run.leads_bind.1 ticks
      rw [Trace.doingsAt_append, called.doingsAt]
      exact List.cons_ne_nil _ _

namespace Node

variable {node changed part : Node A} {touch : Touch} {touches : List Touch} {path : Place}

/-- A tick of an active node does something there, unless the sink keeps it from being entered. -/
theorem visited_of_tick (ticks : (node.tick context).Leads before trace ⟨changed, result⟩ after)
    (quiet : context.Quiet) (active : node.body.starter?.isSome) :
    trace.doingsAt context.place ≠ [] := by
  obtain ⟨tag, body⟩ := node
  match body with
  | .leaf (.asyncAction starter pending) =>
      rw [tick_eq, tickStep] at ticks
      obtain ⟨announced, _, _, _, entered, worked, rfl⟩ := Run.leads_bind.1 ticks
      obtain rfl := Context.ok_of_enter quiet entered
      obtain ⟨⟨_, _⟩, _, _, _, works, _, rfl⟩ := Run.leads_bind.1 worked
      obtain ⟨⟨_, _⟩, ticks, rfl, rfl⟩ := Run.leads_bind_attempt.1 works
      have visited := Leaf.visited_of_tick ticks
      simp [visited]
  | .leaf (.condition _) | .leaf (.action _) | .decorator _ _ | .choice _ _ _ | .composite _ _ =>
      cases active

theorem starter?_pristine (node : Node A) : node.pristine.body.starter? = node.body.starter? := by
  rw [body_pristine]
  obtain ⟨tag, body⟩ := node
  cases body with
  | leaf own => cases own <;> rfl
  | decorator | choice | composite => rfl

/-- Events visit a node if it keeps its starter and does something once it is entered, where it can start
operations. -/
def Visits (node : Node A) (events : List (Event A)) (changed : Node A) : Prop :=
  changed.body.starter? = node.body.starter? ∧ (node.body.starter?.isSome →
    .entered ∈ events.filterMap Event.sign? → events.filterMap Event.doing? ≠ [])

/-- Visits compose along the touches of a node. -/
theorem composes_visits : Composes (Visits (A := A)) where
  done _ := ⟨rfl, nofun⟩
  wrote _ _ := ⟨rfl, fun _ => nofun⟩
  trans first second := by
    refine ⟨second.1.trans first.1, fun active entered => ?_⟩
    rw [List.filterMap_append, List.mem_append] at entered
    rw [List.filterMap_append]
    rcases entered with here | later
    · exact List.append_ne_nil_of_left_ne_nil (first.2 active here) _
    · rw [← first.1] at active
      exact List.append_ne_nil_of_right_ne_nil _ (second.2 active later)

/-- Every touch under a quiet sink is a visit. -/
theorem Undergoes.visits (quiet : context.Quiet)
    (undergoes : node.Undergoes context touch before trace changed after) :
    node.Visits (trace.eventsAt context.place) changed := by
  have kept : changed.body.starter? = node.body.starter? := by
    rw [← starter?_pristine changed, undergoes.pristine, starter?_pristine]
  refine ⟨kept, fun active entered => ?_⟩
  have unentered {first last : Stage A D} {next : Node A} {trace : Trace A}
      (resets : (node.reset context.place).Leads first trace next last) :
      .entered ∉ trace.signsAt context.place :=
    (clears_of_reset (.reset resets) context.place).absent nofun
  change .entered ∈ trace.signsAt context.place at entered
  cases undergoes with
  | ticked ticks => exact visited_of_tick ticks quiet active
  | reset resets => exact absurd entered (unentered resets)
  | aborted aborts =>
      cases abortsIn_of_abortIn aborts with
      | silent _ resets => exact absurd entered (unentered resets)
      | reported _ tells resets =>
          rw [Trace.signsAt_cons_output, Trace.signsAt_append, tells.signsAt,
            List.mem_append] at entered
          rcases entered with here | later
          · cases List.mem_singleton.1 here
          · exact absurd later (unentered resets)
      | unwound _ tells =>
          rw [Trace.signsAt_cons_output, tells.signsAt] at entered
          cases List.mem_singleton.1 entered

/-- Whatever a tree does under a quiet sink, an asynchronous action that it enters is visited. -/
theorem Evolves.visited (evolves : node.Evolves context touches trace changed)
    (quiet : context.Quiet) (leads : node.descendant? path = some part)
    (active : part.body.starter?.isSome)
    (entered : .entered ∈ trace.signsAt (path ++ context.place)) :
    trace.doingsAt (path ++ context.place) ≠ [] := by
  obtain ⟨_, _, visits⟩ :=
    composes_visits.evolves Context.Quiet (fun quiet => quiet) Undergoes.visits quiet evolves leads
  exact visits.2 active entered

end Node

end Behavior
