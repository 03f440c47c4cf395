import Behavior.Proofs.Idle.Suspension
import Behavior.Proofs.Report.Signs
import Behavior.Proofs.Run.Effects

namespace Behavior

variable {A : Agent} {D : Type}

/-- Some signs clear if there is nothing but clearings among them. -/
def Clears (signs : List Sign) : Prop := ∀ sign ∈ signs, sign = .cleared

/-- Among clearings there is no other sign. -/
theorem Clears.absent {signs : List Sign} (clears : Clears signs) {sign : Sign}
    (other : sign ≠ .cleared) : sign ∉ signs :=
  fun member => other (clears sign member)

/-- Signs without a beginning and an end of a tick. -/
def Unticked (signs : List Sign) : Prop :=
  .entered ∉ signs ∧ ∀ status, .left status ∉ signs

/-- Clearings neither begin nor end a tick. -/
theorem Clears.unticked {signs : List Sign} (clears : Clears signs) : Unticked signs := by
  simp [Unticked, clears.absent]

namespace Node

/-- A still node has no last status and no pending operation. -/
structure Still (node : Node A) : Prop where
  last : node.last = none
  pending : ∀ starter operation, node.body ≠ .leaf (.asyncAction starter (some operation))

/-- What a reset leaves is still. -/
theorem still_cleared (node : Node A) : node.cleared.Everywhere Still := by
  refine descends_cleared.everywhere
    (fun node => ⟨last_cleared node, fun starter operation same => ?_⟩) node
  rw [body_cleared] at same
  cases own : node.body with
  | leaf leaf =>
      rw [own] at same
      cases leaf <;> cases same
  | decorator | choice | composite =>
      rw [own] at same
      cases same

/-- A node is passed over if it was running and is not entered although its parent is. -/
def PassedOver (node : Node A) (own above : List Sign) : Prop :=
  node.last = some .running ∧ .entered ∉ own ∧ .entered ∈ above

/-- A node is outlasted if it has returned running to a parallel parent that finishes. -/
def Outlasted (parent : Node A) (own above : List Sign) : Prop :=
  parent.kind = .parallel ∧ .entered ∈ own ∧ .left .running ∈ own ∧
    ∃ status, status ≠ .running ∧ .left status ∈ above

/-- The abort of a node is due by the signs at its own place and at the place of its parent. -/
def Due (parent node : Node A) (own above : List Sign) : Prop :=
  node.PassedOver own above ∨ parent.Outlasted own above

/-- An abort is reported once, of a node that is running and that is not entered any more. -/
def ReportedOnce (node : Node A) (own : List Sign) : Prop :=
  ∃ earlier later, own = earlier ++ .aborted node.info :: later ∧
    (∀ info, .aborted info ∉ earlier ++ later) ∧ .entered ∉ later ∧
      statusAfter node.last earlier = some .running

/-- The account of a node in a tick is right if nothing is due and nothing is reported, or if what
is due is reported once and leaves the node still. -/
inductive Accounts (parent node : Node A) (own above : List Sign) (final : Node A) : Prop
  | spared (excused : ¬ Due parent node own above) (silent : ∀ info, .aborted info ∉ own)
  | aborted (due : Due parent node own above) (once : node.ReportedOnce own)
      (still : final.Everywhere Still)

variable {parent node changed final next : Node A} {own above more moreAbove : List Sign}

/-- Clearings make no abort due, and settle none. -/
theorem due_append (clears : Clears more) (unticked : Unticked moreAbove) :
    Due parent node (own ++ more) (above ++ moreAbove) ↔ Due parent node own above := by
  simp [Due, PassedOver, Outlasted, clears.absent, unticked.1, unticked.2]

/-- A later clearing of the node with its parent leaves the account as it is. -/
theorem Accounts.append (accounts : Accounts parent node own above final) (clears : Clears more)
    (unticked : Unticked moreAbove) (still : next.Everywhere Still) :
    Accounts parent node (own ++ more) (above ++ moreAbove) next := by
  cases accounts with
  | spared excused silent =>
      refine .spared (by rwa [due_append clears unticked]) fun info => ?_
      simpa [clears.absent] using silent info
  | aborted due once _ =>
      obtain ⟨earlier, later, rfl, single, passed, running⟩ := once
      refine .aborted ((due_append clears unticked).2 due) ?_ still
      refine ⟨earlier, later ++ more, by simp, fun info => ?_, ?_, running⟩
      · simpa [clears.absent] using single info
      · simpa [clears.absent] using passed

/-- Nothing is due and nothing is reported where there are only clearings under a parent that has
not been ticked. -/
theorem accounts_of_clears (clears : Clears own) (unticked : Unticked above) :
    Accounts parent node own above final := by
  refine .spared ?_ (by simp [clears.absent])
  rintro (⟨_, _, entered⟩ | ⟨_, entered, _⟩)
  · exact unticked.1 entered
  · cases clears _ entered

variable {context : Context D} {touch : Touch} {touches : List Touch} {before after : Stage A D}
  {trace : Trace A} {status : Status} {place : Place}

/-- An evolution shows the signs of its first touch before those of the others. -/
theorem Evolves.uncons_signsAt (evolves : node.Evolves context (touch :: touches) trace changed) :
    ∃ before middle after earlier later, node.Undergoes context touch before earlier middle after ∧
      middle.Evolves context touches later changed ∧
        ∀ place, trace.signsAt place = earlier.signsAt place ++ later.signsAt place := by
  obtain ⟨before, middle, after, writing, earlier, later, rfl, written, undergoes, rest⟩ :=
    evolves.uncons
  refine ⟨before, middle, after, earlier, later, undergoes, rest, fun place => ?_⟩
  rw [Trace.signsAt_append, Trace.signsAt_append, written.signsAt, List.nil_append]

/-- An evolution through one touch shows the signs of that touch. -/
theorem Evolves.single_signsAt (evolves : node.Evolves context [touch] trace changed) :
    ∃ before after single, node.Undergoes context touch before single changed after ∧
      ∀ place, trace.signsAt place = single.signsAt place := by
  obtain ⟨before, _, after, single, later, undergoes, rest, signs⟩ := evolves.uncons_signsAt
  obtain ⟨rfl, written⟩ := rest.nil
  refine ⟨before, after, single, undergoes, fun place => ?_⟩
  rw [signs, written.signsAt, List.append_nil]

/-- A reset signs clearings at most. -/
theorem clears_of_reset (undergoes : node.Undergoes context .reset before trace changed after)
    (place : Place) : Clears (trace.signsAt place) :=
  fun _ member => cleared_of_mem_reset undergoes member

/-- An abort gives no sign but clearings below the node. -/
theorem clears_of_abort
    (undergoes : node.Undergoes context (.aborted (.ok ())) before trace changed after)
    (elsewhere : context.place ≠ place) : Clears (trace.signsAt place) := by
  cases undergoes with
  | aborted aborts =>
      cases abortsIn_of_abortIn aborts with
      | silent _ resets => exact clears_of_reset (.reset resets) place
      | reported _ tells resets =>
          have told := (Context.local_of_tells tells).signsAt_of_ne elsewhere
          rw [Trace.signsAt_cons_output, Trace.signsAt_append, told, List.nil_append]
          exact clears_of_reset (.reset resets) place

/-- The abort of a running node is reported before the node is cleared; any other is silent. -/
theorem signsAt_of_abort
    (undergoes : node.Undergoes context (.aborted (.ok ())) before trace changed after) :
    (node.last = some .running → trace.signsAt context.place = [.aborted node.info, .cleared]) ∧
      (node.last ≠ some .running → Clears (trace.signsAt context.place)) := by
  have running : node.isRunning = true ↔ node.last = some .running := beq_iff_eq
  cases undergoes with
  | aborted aborts =>
      cases abortsIn_of_abortIn aborts with
      | silent idle resets =>
          refine ⟨fun busy => ?_, fun _ => clears_of_reset (.reset resets) context.place⟩
          exact absurd (idle.symm.trans (running.2 busy)) Bool.false_ne_true
      | reported busy tells resets =>
          refine ⟨fun _ => ?_, fun idle => absurd (running.1 busy) idle⟩
          rw [Trace.signsAt_cons_output, Trace.signsAt_append, tells.signsAt,
            (resets_of_reset resets).signsAt, running.1 busy]
          rfl

/-- An abort neither begins nor ends a tick. -/
theorem unticked_of_abort
    (undergoes : node.Undergoes context (.aborted (.ok ())) before trace changed after)
    (place : Place) : Unticked (trace.signsAt place) := by
  by_cases here : context.place = place
  · subst here
    obtain ⟨reported, silent⟩ := signsAt_of_abort undergoes
    by_cases running : node.last = some .running
    · rw [reported running]
      simp [Unticked]
    · exact (silent running).unticked
  · exact (clears_of_abort undergoes here).unticked

/-- A child that is treated well has a right account. -/
theorem Evolves.accounts {held : Prop}
    (evolves : node.Evolves context touches trace final)
    (treats : Treats (parent.kind = .parallel) status held node.last touches) :
    Accounts parent node (trace.signsAt context.place) [.entered, .left status] final := by
  cases treats with
  | spared idle =>
      obtain ⟨rfl, written⟩ := evolves.nil
      rw [written.signsAt]
      refine .spared ?_ fun info => List.not_mem_nil
      rintro (⟨running, _⟩ | ⟨_, entered, _⟩)
      · exact idle running
      · exact absurd entered List.not_mem_nil
  | ticked returned kept =>
      obtain ⟨_, _, _, ⟨ticks⟩, signs⟩ := evolves.single_signsAt
      rw [signs, signsAt_of_tick ticks]
      refine .spared ?_ (by simp)
      rintro (⟨_, passed, _⟩ | ⟨_, _, running, _, finished, left⟩)
      · simp at passed
      · simp_all
  | renewed returned finished =>
      obtain ⟨_, _, _, _, _, ⟨ticks⟩, rest, signs⟩ := evolves.uncons_signsAt
      obtain ⟨_, _, _, resets, cleared⟩ := rest.single_signsAt
      have clears := clears_of_reset resets context.place
      rw [signs, cleared, signsAt_of_tick ticks]
      refine .spared ?_ (by simp [clears.absent])
      rintro (⟨_, passed, _⟩ | ⟨_, _, running, _⟩)
      · simp at passed
      · simp [clears.absent, finished.symm] at running
  | aborted =>
      obtain ⟨_, _, _, undergoes, signs⟩ := evolves.single_signsAt
      obtain ⟨reported, silent⟩ := signsAt_of_abort undergoes
      rw [signs]
      by_cases running : node.last = some .running
      · obtain rfl := undergoes.cleared (.inr rfl)
        rw [reported running]
        refine .aborted (.inl ⟨running, by simp, by simp⟩) ?_ (still_cleared node)
        exact ⟨[], [.cleared], rfl, by simp, by simp, running⟩
      · have clears := silent running
        refine .spared ?_ (by simp [clears.absent])
        rintro (⟨busy, _⟩ | ⟨_, entered, _⟩)
        · exact running busy
        · cases clears _ entered
  | dropped returned outlived =>
      obtain ⟨_, middle, _, _, _, undergoes, rest, signs⟩ := evolves.uncons_signsAt
      obtain ⟨_, _, _, aborts, cleared⟩ := rest.single_signsAt
      obtain ⟨reported, silent⟩ := signsAt_of_abort aborts
      have info := info_of_pristine undergoes.pristine
      obtain rfl := aborts.cleared (.inr rfl)
      obtain ⟨ticks⟩ := undergoes
      have last := last_of_tick ticks
      rw [signs, cleared, signsAt_of_tick ticks]
      by_cases running : returned = .running
      · subst running
        obtain ⟨parallel, finished⟩ := outlived rfl
        rw [reported last, info]
        refine .aborted (.inr ⟨parallel, by simp, by simp, status, finished, by simp⟩) ?_
          (still_cleared middle)
        exact ⟨[.entered, .left .running], [.cleared], rfl, by simp, by simp, rfl⟩
      · have clears := silent (by simpa [last] using running)
        refine .spared ?_ (by simp [clears.absent])
        rintro (⟨_, passed, _⟩ | ⟨_, _, left, _⟩)
        · simp at passed
        · simp [clears.absent, Ne.symm running] at left

/-- A tree is accounted for if the account of every node below its root is right. -/
def Accounted (node : Node A) (place : Place) (trace : Trace A) (final : Node A) : Prop :=
  ∀ position upper parent part next, node.descendant? upper = some parent →
    parent.children[position]? = some part → final.descendant? (position :: upper) = some next →
      Accounts parent part (trace.signsAt (position :: upper ++ place))
        (trace.signsAt (upper ++ place)) next

/-- A child that is treated well is accounted for if its own ticks are. -/
theorem Evolves.accounted {parallel held : Prop}
    (evolves : node.Evolves context touches trace final)
    (treats : Treats parallel status held node.last touches)
    (ticking : ∀ {before trace returned changed after},
      (node.tick context).Leads before trace ⟨changed, .ok returned⟩ after →
        node.Accounted context.place trace changed) :
    node.Accounted context.place trace final := by
  intro position upper parent part next leads present taken
  have continued {middle : Node A} {first second : Trace A}
      (accounted : node.Accounted context.place first middle)
      (built : final.pristine = middle.pristine)
      (signs : ∀ place, trace.signsAt place = first.signsAt place ++ second.signsAt place)
      (clears : Clears (second.signsAt (position :: upper ++ context.place)))
      (unticked : Unticked (second.signsAt (upper ++ context.place)))
      (still : final.Everywhere Still) :
      Accounts parent part (trace.signsAt (position :: upper ++ context.place))
        (trace.signsAt (upper ++ context.place)) next := by
    obtain ⟨_, twin, _⟩ := descendant?_of_pristine built.symm taken
    rw [signs, signs]
    exact (accounted position upper parent part _ leads present twin).append clears unticked
      (still.below taken)
  have below : context.place ≠ position :: upper ++ context.place := by
    intro same
    have longer := congrArg List.length same
    simp only [List.length_append, List.length_cons] at longer
    omega
  cases treats with
  | spared =>
      obtain ⟨_, written⟩ := evolves.nil
      rw [written.signsAt, written.signsAt]
      exact accounts_of_clears (by simp [Clears]) (by simp [Unticked])
  | ticked returned =>
      obtain ⟨_, _, _, ⟨ticks⟩, signs⟩ := evolves.single_signsAt
      rw [signs, signs]
      exact ticking ticks position upper parent part next leads present taken
  | renewed =>
      obtain ⟨_, middle, _, _, _, ⟨ticks⟩, rest, signs⟩ := evolves.uncons_signsAt
      obtain ⟨_, _, _, resets, cleared⟩ := rest.single_signsAt
      obtain rfl := resets.cleared (.inl rfl)
      refine continued (ticking ticks) (pristine_cleared middle) (fun place => ?_)
        (clears_of_reset resets _) (clears_of_reset resets _).unticked (still_cleared middle)
      rw [signs, cleared]
  | aborted =>
      obtain ⟨_, _, _, aborts, signs⟩ := evolves.single_signsAt
      rw [signs, signs]
      exact accounts_of_clears (clears_of_abort aborts below) (unticked_of_abort aborts _)
  | dropped =>
      obtain ⟨_, middle, _, _, _, ⟨ticks⟩, rest, signs⟩ := evolves.uncons_signsAt
      obtain ⟨_, _, _, aborts, cleared⟩ := rest.single_signsAt
      obtain rfl := aborts.cleared (.inr rfl)
      refine continued (ticking ticks) (pristine_cleared middle) (fun place => ?_)
        (clears_of_abort aborts below) (unticked_of_abort aborts _) (still_cleared middle)
      rw [signs, cleared]

/-- A tick that returns accounts for every node below its own. -/
theorem accounted_of_tick
    (ticks : (node.tick context).Leads before trace ⟨changed, .ok status⟩ after)
    (supervised : node.Supervised) (coherent : node.Everywhere Coherent) :
    node.Accounted context.place trace changed := by
  induction node using Node.induction
    generalizing context before trace status changed after with
  | step tag body inductionHypothesis =>
      intro position upper parent part next leads present taken
      -- The path either ends at a child of this node or enters one of them first.
      rcases List.eq_nil_or_concat upper with rfl | ⟨rest, first, rfl⟩
      · obtain rfl := Option.some.inj leads
        obtain ⟨_, final, same, evolves, treats⟩ :=
          treats_of_tick ticks supervised.here coherent.here present
        obtain rfl := Option.some.inj (same.symm.trans taken)
        have accounts := evolves.accounts treats
        rw [Context.place_child, Trace.signsAt_within List.suffix_rfl] at accounts
        rwa [List.nil_append, signsAt_of_tick ticks]
      · rw [List.concat_eq_append] at leads taken ⊢
        rw [descendant?_concat, Option.bind_eq_some_iff] at leads
        obtain ⟨child, entered, leads⟩ := leads
        obtain ⟨_, final, same, evolves, treats⟩ :=
          treats_of_tick ticks supervised.here coherent.here entered
        rw [← List.cons_append, descendant?_concat, same, Option.bind_some] at taken
        have member := List.mem_of_getElem? entered
        have accounts := evolves.accounted treats
          (fun ticked => inductionHypothesis child member ticked (supervised.child member)
            (coherent.child member)) position rest parent part next leads present taken
        rw [Context.place_child, Trace.signsAt_within ⟨_, rfl⟩,
          Trace.signsAt_within ⟨_, rfl⟩] at accounts
        simpa using accounts

end Node

namespace Host

variable {root : Node A} {host next : Host A D} {past trace : Trace A} {status : Status}

/-- A root tick accounts for every node but the root, which is not reported. -/
theorem Ticks.accounted (ticks : host.Ticks trace (.ok status) next)
    (supervised : host.root.Supervised) (coherent : host.root.Everywhere Node.Coherent) :
    host.root.Accounted Tree.rootPlace trace next.root ∧
      ∀ info, .aborted info ∉ trace.signsAt Tree.rootPlace := by
  obtain ⟨context, touches, rooted, evolves, shape⟩ := ticks.evolves
  have treats : Treats False status True host.root.last touches := by
    rcases shape with rfl | ⟨finished, rfl⟩
    · exact .ticked status fun running => ⟨running, trivial⟩
    · exact .renewed status finished
  rw [← rooted]
  refine ⟨evolves.accounted treats fun ticked =>
    Node.accounted_of_tick ticked supervised coherent, fun info => ?_⟩
  rcases shape with rfl | ⟨_, rfl⟩
  · obtain ⟨_, _, _, ⟨ticked⟩, signs⟩ := evolves.single_signsAt
    rw [signs, Node.signsAt_of_tick ticked]
    simp
  · obtain ⟨_, _, _, _, _, ⟨ticked⟩, rest, signs⟩ := evolves.uncons_signsAt
    obtain ⟨_, _, _, resets, cleared⟩ := rest.single_signsAt
    rw [signs, cleared, Node.signsAt_of_tick ticked]
    simp [(Node.clears_of_reset resets context.place).absent]

/-- After any calm history of a tree without dangling nodes, a root tick that returns reports
exactly the aborts that are due. Each of them is reported once, of a running node that is not
entered any more, and leaves everything below that node still. The signs tell the status that every
node has after the tick. The sink that is in place hears these reports, with the other notices of the
tick and in their order, and nothing else. -/
theorem reports_exactly {sink : Option (Sink D)} {before after : Stage A D} (built : root.Built)
    (supervised : root.Supervised)
    (history : (Host.bare (D := D) root).History (fun child => child.Built ∧ child.Supervised) Calm
      past host)
    (acts : host.Acts sink before trace (.ok (some status)) next after) :
    (∀ place info, ⟨place, .notice (.aborted info)⟩ ∈ trace →
      ∃ position upper parent node, place = position :: upper ∧
        host.root.descendant? upper = some parent ∧ parent.children[position]? = some node ∧
          info = node.info ∧ Node.Due parent node (trace.signsAt place) (trace.signsAt upper)) ∧
    (∀ position upper parent node, host.root.descendant? upper = some parent →
      parent.children[position]? = some node →
        Node.Due parent node (trace.signsAt (position :: upper)) (trace.signsAt upper) →
          node.ReportedOnce (trace.signsAt (position :: upper)) ∧
            ∃ final, next.root.descendant? (position :: upper) = some final ∧
              final.Everywhere Node.Still) ∧
    (∀ path node, host.root.descendant? path = some node →
      ∃ final, next.root.descendant? path = some final ∧
        final.last = statusAfter node.last (trace.signsAt path)) ∧
    after.debugger = Sink.hearAll sink trace.told before.debugger := by
  have ticks := acts.ticks
  obtain ⟨supervised, coherent⟩ := history.coherent built supervised
  obtain ⟨accounted, unreported⟩ := ticks.accounted supervised coherent
  obtain ⟨context, touches, rooted, evolves, _⟩ := ticks.evolves
  have accounts {position : Nat} {upper : Place} {parent node : Node A}
      (leads : host.root.descendant? upper = some parent)
      (present : parent.children[position]? = some node) :
      ∃ final, next.root.descendant? (position :: upper) = some final ∧
        Node.Accounts parent node (trace.signsAt (position :: upper)) (trace.signsAt upper)
          final := by
    have down : host.root.descendant? (position :: upper) = some node := by
      rw [Node.descendant?_cons, leads, Option.bind_some, present]
    obtain ⟨final, taken, _⟩ := Node.descendant?_of_pristine evolves.pristine down
    have accounts := accounted position upper parent node final leads present taken
    exact ⟨final, taken, by simpa [Tree.rootPlace] using accounts⟩
  refine ⟨?_, ?_, ?_, acts.carries.heard⟩
  · intro place info member
    have reported : .aborted info ∈ trace.signsAt place :=
      List.mem_filterMap.2 ⟨_, (Trace.mem_eventsAt _).2 member, rfl⟩
    obtain ⟨path, leads, stands⟩ := evolves.populates _ member
    obtain rfl : place = path := by simpa [rooted, Tree.rootPlace] using stands
    cases place with
    | nil => exact absurd reported (unreported info)
    | cons position upper =>
        obtain ⟨node, leads⟩ := Option.isSome_iff_exists.1 leads
        rw [Node.descendant?_cons, Option.bind_eq_some_iff] at leads
        obtain ⟨parent, leads, present⟩ := leads
        obtain ⟨final, taken, account⟩ := accounts leads present
        refine ⟨position, upper, parent, node, rfl, leads, present, ?_⟩
        cases account with
        | spared _ silent => exact absurd reported (silent info)
        | aborted due once _ =>
            obtain ⟨earlier, later, split, single, _⟩ := once
            refine ⟨?_, due⟩
            rw [split] at reported
            have absent := single info
            simp_all
  · intro position upper parent node leads present due
    obtain ⟨final, taken, account⟩ := accounts leads present
    cases account with
    | spared excused => exact absurd due excused
    | aborted _ once still => exact ⟨once, final, taken, still⟩
  · intro path node leads
    obtain ⟨final, taken, told⟩ := Node.accumulates_status.evolves evolves leads
    rw [rooted, Tree.rootPlace, List.append_nil] at told
    exact ⟨final, taken, told⟩

/-- In the sample the operation is running when the flag goes down, so its abort is reported once, and a
sink that collects notices has heard it once. -/
theorem reports_operation : ∃ operation, Sample.waiting.children[0]? = some operation ∧
    operation.ReportedOnce ((Sample.heard Sample.waiting false).trace.signsAt [0]) ∧
      (Sample.heard Sample.waiting false).stage.debugger.count (.aborted operation.info) = 1 := by
  have history : (Host.bare (D := List Notice) Sample.root).History
      (fun child => child.Built ∧ child.Supervised) Calm _ _ := Sample.history_heard calm_ok
  have acts := Sample.acts_heard Sample.waiting false
  obtain ⟨_, reported, _, heard⟩ := reports_exactly Sample.built Sample.supervised history acts
  refine ⟨_, rfl, (reported 0 [] Sample.waiting _ rfl rfl (.inl ⟨rfl, by decide, by decide⟩)).1, ?_⟩
  rw [heard, Sink.hearAll_collecting]
  decide

end Host

end Behavior
