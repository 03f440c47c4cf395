import Behavior.Proofs.Life
import Behavior.Proofs.Renewal.Rebuilding
import Behavior.Proofs.Scan.Scanning
import Behavior.Proofs.Touch.Entrances

namespace Behavior

variable {A : Agent} {D : Type}

namespace Composite

variable {skip status : Status} {running : Option Nat} {count : Nat} {stop : Option Stop}
  {touches : List (Nat × Touch)} {own next : Composite}

/-- The status that a resuming composite passes over, and the position from which it resumes. -/
def resumption? : Composite → Option (Status × Option Nat)
  | .selector running => some (.failure, running)
  | .sequence running => some (.success, running)
  | _ => none

/-- A resuming composite scans from its running position on, and remembers where the scan has stopped
at a running child. -/
theorem Plays.resumes (plays : Plays count own touches (.ok status) next)
    (resuming : own.resumption? = some (skip, running)) :
    ∃ stop, running.getD 0 ≤ count ∧
      Scans skip (running.getD 0) (count - running.getD 0) touches (.ok stop) ∧
      status = statusOf skip stop ∧ next.resumption? = some (skip, runningOf stop) := by
  cases plays with
  | parallel | reactiveSelector | reactiveSequence => cases resuming
  | selector resumes | sequence resumes =>
      cases resuming
      cases resumes with
      | ended inside scans => exact ⟨_, inside, scans, rfl, rfl⟩

/-- What a composite passes over is a finished status. -/
theorem skip_ne_running (resuming : own.resumption? = some (skip, running)) : skip ≠ .running := by
  cases own with
  | selector | sequence =>
      cases resuming
      exact nofun
  | parallel | reactiveSelector | reactiveSequence => cases resuming

/-- Composites that forget to the same pass over the same status. -/
theorem resumption_of_forget {former : Composite} (same : own.forget = former.forget)
    (resuming : own.resumption? = some (skip, running)) :
    ∃ earlier, former.resumption? = some (skip, earlier) := by
  cases own with
  | selector | sequence =>
      cases resuming
      cases former <;> cases same
      exact ⟨_, rfl⟩
  | parallel | reactiveSelector | reactiveSequence => cases resuming

/-- A settled composite has no running position. -/
theorem Settled.resumption (settled : own.Settled)
    (resuming : own.resumption? = some (skip, running)) : running = none := by
  cases own with
  | selector | sequence =>
      cases resuming
      exact settled
  | parallel | reactiveSelector | reactiveSequence => cases resuming

end Composite

namespace Node

/-- A running position is kept as long as the node is running. It is the position of the only running
child. -/
structure Resumable (last : Option Status) (running : Option Nat) (nodes : List (Node A)) : Prop where
  busy : running.isSome ↔ last = some .running
  inside : ∀ position ∈ running, position < nodes.length
  alone : ∀ (position : Nat) (child : Node A), nodes[position]? = some child →
    (child.last = some .running ↔ running = some position)

/-- A tick resumes a scan of the children. It enters each child from the start on once and in order, up
to the one at which it stops or to the last one. Those before the stop have returned the status that is
passed over, and the one at the stop has not. The tick returns what that child has returned, or the
status that is passed over, and remembers the position of the stop if the child there is running. All
other children stay as they are. -/
structure Resumes (skip : Status) (start : Nat) (place : Place) (nodes : List (Node A))
    (trace : Trace A) (status : Status) (changed : Node A) (stop : Option Composite.Stop) : Prop where
  entered : trace.entrances place =
    List.range' start (stop.elim nodes.length (fun stop => stop.1 + 1) - start)
  passed : ∀ position, start ≤ position → position < stop.elim nodes.length Prod.fst →
    trace.returnsAt (position :: place) = [skip]
  stopped : ∀ position returned, stop = some (position, returned) → start ≤ position ∧
    position < nodes.length ∧ returned ≠ skip ∧ trace.returnsAt (position :: place) = [returned]
  returned : status = Composite.statusOf skip stop
  remembered : ∃ next later, changed.body = .composite next later ∧
    next.resumption? = some (skip, Composite.runningOf stop) ∧ later.length = nodes.length
  spared : ∀ (position : Nat) (child : Node A), nodes[position]? = some child →
    position ∉ trace.entrances place → changed.children[position]? = some child

variable {context : Context D} {place : Place} {start node changed : Node A}
  {before after : Stage A D} {past trace : Trace A} {status skip : Status} {running : Option Nat}
  {own : Composite} {nodes : List (Node A)}

/-- The children that are entered are those before the stop and the one at it. -/
theorem Resumes.mem_entrances {start position : Nat} {stop : Option Composite.Stop}
    (resumes : Resumes skip start place nodes trace status changed stop) :
    position ∈ trace.entrances place ↔ start ≤ position ∧
      (position < stop.elim nodes.length Prod.fst ∨ ∃ returned, stop = some (position, returned)) := by
  rw [resumes.entered, List.mem_range'_1]
  match stop with
  | none =>
      simp only [Option.elim_none]
      constructor
      · intro inside
        exact ⟨inside.1, .inl (by omega)⟩
      · rintro ⟨reached, before | ⟨_, contrary⟩⟩
        · omega
        · cases contrary
  | some (final, returned) =>
      simp only [Option.elim_some]
      constructor
      · rintro ⟨reached, inside⟩
        rcases Nat.lt_or_ge position final with before | behind
        · exact ⟨reached, .inl before⟩
        · obtain rfl : position = final := by omega
          exact ⟨reached, .inr ⟨returned, rfl⟩⟩
      · rintro ⟨reached, before | ⟨_, same⟩⟩
        · omega
        · cases same
          omega

/-- Every tick of a resuming composite resumes. Each child that it enters remembers what it has
returned. -/
theorem resumes_of_tick (shape : node.body = .composite own nodes)
    (resuming : own.resumption? = some (skip, running))
    (ticks : (node.tick context).Leads before trace ⟨changed, .ok status⟩ after) :
    ∃ stop, Resumes skip (running.getD 0) context.place nodes trace status changed stop ∧
      ∀ (position : Nat) (child : Node A) (returned : Status),
        changed.children[position]? = some child →
          trace.returnsAt (position :: context.place) = [returned] → child.last = some returned := by
  obtain ⟨_, touches, plays, entered, evolves⟩ := plays_of_tick ticks fun leaf alone => by
    rw [shape] at alone
    cases alone
  have listed : node.children = nodes := congrArg Body.children shape
  rw [listed] at evolves
  rw [shape] at plays
  generalize final : changed.body = body at plays
  cases plays with
  | @composite _ next _ later _ _ plays kept =>
  obtain ⟨stop, inside, scans, returned, remembered⟩ := plays.resumes resuming
  have whole : running.getD 0 + (nodes.length - running.getD 0) = nodes.length := by omega
  have returns (position : Nat) (status : Status) (inside : position < nodes.length)
      (ticked : touchesOf position touches = [.ticked (.ok status)]) :
      trace.returnsAt (position :: context.place) = [status] := by
    obtain ⟨_, _, _, returns⟩ := evolves position _ (List.getElem?_eq_getElem inside)
    rw [returns, ticked]
    rfl
  have below (position : Nat) (reached : running.getD 0 ≤ position) :=
    scans.touchesOf_scanned reached
  rw [whole] at below
  refine ⟨stop, ⟨?_, ?_, ?_, returned, ⟨next, later, final, remembered, kept⟩, ?_⟩, ?_⟩
  · rw [entered, scans.tickedOf]
    cases stop <;> rfl
  · intro position reached before
    refine returns position skip ?_ ((below position reached).1 before)
    cases stop with
    | none => exact before
    | some stop =>
        have stops := scans.stop_lt rfl
        rw [whole] at stops
        exact Nat.lt_trans before stops
  · rintro position status rfl
    have reached : running.getD 0 ≤ position := scans.stop_le rfl
    have stops : position < running.getD 0 + _ := scans.stop_lt rfl
    rw [whole] at stops
    obtain ⟨ticked, other⟩ := (below position reached).2 status rfl
    exact ⟨reached, stops, other, returns position status stops ticked⟩
  · intro position child present outside
    obtain ⟨last, taken, evolves, _⟩ := evolves position child present
    rw [entered] at outside
    rw [scans.touchesOf_eq_nil outside] at evolves
    rwa [← evolves.nil.1]
  · intro position child returned present told
    have inside : position < nodes.length := by
      rw [← kept, ← show changed.children = later from congrArg Body.children final]
      exact (List.getElem?_eq_some_iff.1 present).1
    obtain ⟨last, taken, evolves, returns⟩ := evolves position _ (List.getElem?_eq_getElem inside)
    obtain rfl := Option.some.inj (taken.symm.trans present)
    by_cases ticked : position ∈ tickedOf touches
    · obtain ⟨_, ⟨_, once⟩ | ⟨_, _, once⟩⟩ := scans.touchesOf_ticked ticked <;>
      · rw [once] at returns evolves
        rw [evolves.last_of_ticked]
        exact congrArg some (List.singleton_inj.1 (returns.symm.trans told))
    · rw [told, scans.touchesOf_eq_nil ticked] at returns
      cases returns

/-- A resuming composite keeps its running position. -/
def KeepsPosition (node : Node A) : Prop :=
  ∀ own nodes skip running, node.body = .composite own nodes →
    own.resumption? = some (skip, running) → Resumable node.last running nodes

/-- Where all is idle there is no running position. -/
theorem keepsPosition_of_idle (idle : node.Everywhere Idle) : node.KeepsPosition := by
  intro own nodes skip running shape resuming
  have rests (child : Node A) (member : child ∈ nodes) : child.last = none := by
    refine (idle.child ?_).here.1
    rwa [children, shape]
  have settled := idle.here.2
  rw [shape] at settled
  obtain rfl := settled.resumption resuming
  refine ⟨?_, ?_, fun position child present => ?_⟩
  · rw [idle.here.1]
    simp
  · rintro position ⟨⟩
  · rw [rests child (List.mem_of_getElem? present)]
    simp

/-- A composite goes on keeping its position through each tick that returns. -/
theorem Resumable.of_resumes {stop : Option Composite.Stop}
    (keeps : Resumable node.last running nodes) (finished : skip ≠ .running)
    (resumes : Resumes skip (running.getD 0) place nodes trace status changed stop)
    (lasting : ∀ (position : Nat) (child : Node A) (returned : Status),
      changed.children[position]? = some child →
        trace.returnsAt (position :: place) = [returned] → child.last = some returned)
    (last : changed.last = some status) {next : Composite} {later : List (Node A)}
    (shape : changed.body = .composite next later) (length : later.length = nodes.length) :
    Resumable changed.last (Composite.runningOf stop) later := by
  have listed : changed.children = later := congrArg Body.children shape
  refine ⟨?_, ?_, ?_⟩
  · rw [last, resumes.returned, Option.some.injEq]
    match stop with
    | none => simp [Composite.runningOf, Composite.statusOf, finished]
    | some (_, .running) => simp [Composite.runningOf, Composite.statusOf]
    | some (_, .success) | some (_, .failure) => simp [Composite.runningOf, Composite.statusOf]
  · intro position member
    rw [length]
    exact (resumes.stopped position .running (Composite.runningOf_eq_some.1 member)).2.1
  · intro position child present
    rw [Composite.runningOf_eq_some]
    by_cases entered : position ∈ trace.entrances place
    · obtain ⟨reached, before | ⟨returned, stopped⟩⟩ := resumes.mem_entrances.1 entered
      · rw [lasting position child skip (listed ▸ present) (resumes.passed position reached before)]
        refine iff_of_false (fun same => finished (Option.some.inj same)) ?_
        rintro rfl
        exact Nat.lt_irrefl _ before
      · have told := (resumes.stopped position returned stopped).2.2.2
        rw [lasting position child returned (listed ▸ present) told, stopped]
        simp
    · have inside : position < nodes.length := by
        rw [← length]
        exact (List.getElem?_eq_some_iff.1 present).1
      have former := List.getElem?_eq_getElem inside
      have spared := resumes.spared position _ former entered
      rw [listed, present] at spared
      obtain rfl := Option.some.inj spared
      refine iff_of_false (fun busy => entered ?_) fun stopped => entered ?_
      · -- The child at the start is the only one that was running, and it has been entered.
        obtain rfl := (keeps.alone position _ former).1 busy
        refine resumes.mem_entrances.2 ⟨Nat.le_refl position, ?_⟩
        cases stop with
        | none => exact .inl inside
        | some stop =>
            have reached := (resumes.stopped stop.1 stop.2 rfl).1
            rcases Nat.eq_or_lt_of_le reached with same | before
            · exact .inr ⟨stop.2, congrArg some (Prod.ext same.symm rfl)⟩
            · exact .inl before
      · exact resumes.mem_entrances.2
          ⟨(resumes.stopped position .running stopped).1, .inr ⟨_, stopped⟩⟩

/-- The invariant of calm lives: resuming composites keep their running positions. -/
theorem Lives.keepsPosition (built : start.Built)
    (lives : start.Lives place Built (Touch.Calmly D) past node) : node.KeepsPosition := by
  induction lives with
  | born => exact keepsPosition_of_idle built.idle
  | wrote _ _ inductionHypothesis => exact inductionHypothesis
  | touched _ _ undergoes calm inductionHypothesis =>
      cases undergoes with
      | reset resets =>
          rw [cleared_of_reset resets]
          exact keepsPosition_of_idle (idle_cleared _)
      | aborted aborts =>
          obtain rfl := calm
          rw [cleared_of_abortIn aborts]
          exact keepsPosition_of_idle (idle_cleared _)
      | ticked ticks =>
          obtain ⟨_, rfl⟩ := calm
          intro own nodes skip running shape resuming
          obtain ⟨former, twins, body, same⟩ := (Undergoes.ticked ticks).composite shape
          obtain ⟨earlier, resumed⟩ := Composite.resumption_of_forget same resuming
          have keeps := inductionHypothesis former twins skip earlier body resumed
          obtain ⟨stop, resumes, lasting⟩ := resumes_of_tick body resumed ticks
          obtain ⟨next, later, final, remembered, length⟩ := resumes.remembered
          obtain ⟨rfl, rfl⟩ := Body.composite.inj (shape.symm.trans final)
          obtain rfl := (Prod.mk.inj (Option.some.inj (resuming.symm.trans remembered))).2
          exact keeps.of_resumes (Composite.skip_ne_running resuming) resumes lasting
            (last_of_tick ticks) shape length
  | extended _ fresh accepted inductionHypothesis =>
      obtain ⟨tag, own, nodes, rfl, rfl⟩ := addChild_spec accepted
      rintro _ _ skip running ⟨⟩ resuming
      have keeps := inductionHypothesis own nodes skip running rfl resuming
      refine ⟨keeps.busy, fun position member => ?_, fun position child present => ?_⟩
      · rw [List.length_append]
        exact Nat.lt_add_right _ (keeps.inside position member)
      · rcases getElem?_extended present with old | ⟨rfl, rfl⟩
        · exact keeps.alone position child old
        · rw [fresh.idle.here.1]
          refine iff_of_false nofun fun same => ?_
          exact Nat.lt_irrefl _ (keeps.inside nodes.length same)
  | numbered _ same inductionHypothesis =>
      intro own nodes skip running shape resuming
      obtain ⟨twins, former, images⟩ := composite_of_unnumbered same shape
      have keeps := inductionHypothesis own twins skip running former resuming
      have lengths : nodes.length = twins.length := by
        simpa only [List.length_map] using congrArg List.length images
      refine ⟨?_, fun position member => ?_, fun position child present => ?_⟩
      · rw [← last_unnumbered, same, last_unnumbered]
        exact keeps.busy
      · rw [lengths]
        exact keeps.inside position member
      · have listed : _ = nodes := congrArg Body.children shape
        rw [← listed] at present
        obtain ⟨twin, taken, image⟩ := child_of_unnumbered same present
        rw [children, former] at taken
        rw [← last_unnumbered, image, last_unnumbered]
        exact keeps.alone position twin taken

/-- Whatever a selector or a sequence has gone through without a panic: it is running as long as it has a
running position, and this is the position of its only running child. Each of its ticks resumes there,
or at the first child if it has none. -/
theorem ticks_resume_position {place : Place} {start node : Node A} {past : Trace A}
    {own : Composite} {nodes : List (Node A)} {skip : Status} {running : Option Nat}
    (built : start.Built) (lives : start.Lives place Built (Touch.Calmly D) past node)
    (shape : node.body = .composite own nodes)
    (resuming : own.resumption? = some (skip, running)) :
    Resumable node.last running nodes ∧
      ∀ (context : Context D) (before after : Stage A D) (trace : Trace A) (changed : Node A)
        (status : Status), context.place = place →
          (node.tick context).Leads before trace ⟨changed, .ok status⟩ after →
            ∃ stop, Resumes skip (running.getD 0) place nodes trace status changed stop := by
  refine ⟨lives.keepsPosition built own nodes skip running shape resuming, ?_⟩
  rintro context before after trace changed status rfl ticks
  obtain ⟨stop, resumes, _⟩ := resumes_of_tick shape resuming ticks
  exact ⟨stop, resumes⟩

end Node

namespace Sample

/-- The sample errand passes over the lowered flag and performs its operation. -/
def errand : Node agent :=
  .selector [.invert (.condition (A := agent) ()), .asyncAction (A := agent) ()]

/-- With the flag up the errand waits for its operation. -/
def underway : Node agent := (ticked errand true).value.after

theorem built_errand : errand.Built :=
  .selector (by
    simp only [List.forall_mem_cons]
    exact ⟨.invert (.condition _), .asyncAction _, List.forall_mem_nil _⟩)

theorem lives_underway : errand.Lives Tree.rootPlace Node.Built (Touch.Calmly Unit)
    (ticked errand true).trace underway :=
  lives_ticked rfl

end Sample

/-- The errand that waits goes on with its operation, although its first child would succeed now. -/
theorem Node.ticks_resume_operation :
    Resumable (some .running) (some 1) Sample.underway.children ∧
      ∃ stop, Resumes .failure 1 Tree.rootPlace Sample.underway.children
        (Sample.ticked Sample.underway false).trace .success
        (Sample.ticked Sample.underway false).value.after stop := by
  have resumption := ticks_resume_position Sample.built_errand Sample.lives_underway rfl rfl
  obtain ⟨keeps, ticks⟩ := resumption
  exact ⟨keeps, ticks Sample.context _ _ _ _ _ rfl
    (Run.leads_self (Sample.underway.tick Sample.context) ⟨false, ()⟩)⟩

end Behavior
