import Behavior.Proofs.Lockstep.Rules

namespace Behavior.Lockstep

variable {A : Agent} {D E : Type} (steps : Lockstep A D E) {context : Context D}
  {counter : Context E} {info other : NodeInfo}

/-- Arms are alike if their nodes are, and if their ticks match. -/
structure Arms (arm : Arm A D) (following : Arm A E) : Prop where
  node : steps.Alike arm.node following.node
  tick : ∀ {context : Context D} {counter : Context E}, steps.Meets context counter →
    steps.Matches (Attempt.Agree steps.Alike) (arm.value context) (following.value counter)

/-- The nodes of alike arms are alike. -/
theorem nodes {arms : List (Arm A D)} {others : List (Arm A E)}
    (alike : List.Forall₂ steps.Arms arms others) :
    List.Forall₂ steps.Alike (arms.map Part.node) (others.map Part.node) :=
  Body.forall₂_map alike fun _ _ _ alike => alike.node

/-- A predicate is asked the same question on both sides. -/
theorem ask (meets : steps.Meets context counter) (infos : steps.Infos info other)
    (predicate : A.Predicate) :
    steps.Matches Eq (context.ask info predicate) (counter.ask other predicate) := by
  refine steps.same (steps.call meets (.test predicate)) fun outcome => ?_
  match outcome with
  | .error panic => exact steps.pure rfl
  | .ok value =>
      exact steps.same (steps.notify meets infos (.evaluated · value) fun _ => rfl)
        fun _ => steps.pure rfl

section Leaves

/-- The same operation is polled on both sides. -/
theorem poll (meets : steps.Meets context counter) (starter : A.Starter) (operation : A.Operation) :
    steps.Matches Eq (Leaf.poll context.place starter operation)
      (Leaf.poll counter.place starter operation) := by
  refine steps.same (steps.call meets (.poll operation)) fun completed => ?_
  cases completed with
  | false => exact steps.pure rfl
  | true => exact steps.same (steps.call meets (.take operation)) fun _ => steps.pure rfl

/-- Leaves are ticked in lockstep. -/
theorem tickLeaf (meets : steps.Meets context counter) (infos : steps.Infos info other)
    (own : Leaf A) : steps.Matches Eq (own.tick info context) (own.tick other counter) := by
  match own with
  | .condition predicate =>
      exact steps.same (steps.ask meets infos predicate) fun _ => steps.pure rfl
  | .action deed =>
      unfold Leaf.tick
      rw [← steps.clock meets]
      exact steps.same (steps.call meets (.act deed _)) fun _ => steps.pure rfl
  | .asyncAction starter (some operation) => exact steps.poll meets starter operation
  | .asyncAction starter none =>
      refine steps.same (steps.call meets (.start starter)) fun started => ?_
      match started with
      | .error panic => exact steps.pure rfl
      | .ok operation => exact steps.poll meets starter operation

end Leaves

section Decorators

variable {arm : Arm A D} {following : Arm A E}

/-- Decorators that pass a tick on do so in lockstep. -/
theorem pass (meets : steps.Meets context counter) (alike : steps.Arms arm following)
    (own : Decorator A) (change : Status → Status) :
    steps.Matches (Attempt.Agree (Alongside steps.Alike)) (Decorator.pass context own change arm)
      (Decorator.pass counter own change following) := by
  refine steps.attempt (alike.tick (steps.child meets 0)) fun _ _ _ ticked => ?_
  exact steps.done ⟨rfl, ticked⟩

/-- A predicate in front of a child holds both sides back or none. -/
theorem hold (meets : steps.Meets context counter) (infos : steps.Infos info other)
    (alike : steps.Arms arm following) (own : Decorator A) (predicate : A.Predicate) :
    steps.Matches (Attempt.Agree (Alongside steps.Alike))
      (Decorator.hold info context own predicate arm)
      (Decorator.hold other counter own predicate following) := by
  refine steps.same (steps.ask meets infos predicate) fun answer => ?_
  match answer with
  | .error panic | .ok false => exact steps.done ⟨rfl, alike.node⟩
  | .ok true => exact steps.pass meets alike own _

/-- A predicate that is watched aborts on both sides or on none. -/
theorem watch (meets : steps.Meets context counter) (infos : steps.Infos info other)
    (alike : steps.Arms arm following) (own : Decorator A) (predicate : A.Predicate) :
    steps.Matches (Attempt.Agree (Alongside steps.Alike))
      (Decorator.watch info context own predicate arm)
      (Decorator.watch other counter own predicate following) := by
  refine steps.same (steps.ask meets infos predicate) fun answer => ?_
  match answer with
  | .error panic => exact steps.done ⟨rfl, alike.node⟩
  | .ok false =>
      dsimp only
      rw [steps.isRunning alike.node]
      split
      · refine steps.attempt (steps.abortIn (steps.child meets 0) alike.node) fun _ _ _ aborted => ?_
        exact steps.done ⟨rfl, aborted⟩
      · exact steps.done ⟨rfl, alike.node⟩
  | .ok true =>
      refine steps.attempt (alike.tick (steps.child meets 0)) fun _ _ result ticked => ?_
      match result with
      | .error panic | .ok .running => exact steps.done ⟨rfl, ticked⟩
      | .ok .success | .ok .failure =>
          refine steps.bind (steps.reset (steps.child meets 0) ticked) fun _ _ renewed => ?_
          exact steps.done ⟨rfl, renewed⟩

/-- Iterations go through the same rounds. -/
theorem iterate (meets : steps.Meets context counter) (alike : steps.Arms arm following)
    (own : Nat → Decorator A) (goal : Status) (times count : Nat) :
    steps.Matches (Attempt.Agree (Alongside steps.Alike))
      (Decorator.iterate context own goal times count arm)
      (Decorator.iterate counter own goal times count following) := by
  unfold Decorator.iterate
  split
  · exact steps.done ⟨rfl, alike.node⟩
  · refine steps.attempt (alike.tick (steps.child meets 0)) fun _ _ result ticked => ?_
    match result with
    | .error panic | .ok .running => exact steps.done ⟨rfl, ticked⟩
    | .ok .success | .ok .failure =>
        dsimp only
        split
        · split
          · exact steps.done ⟨rfl, ticked⟩
          · refine steps.bind (steps.reset (steps.child meets 0) ticked) fun _ _ renewed => ?_
            exact steps.done ⟨rfl, renewed⟩
        · exact steps.done ⟨rfl, ticked⟩

/-- Timeouts expire at the same tick. -/
theorem expire (meets : steps.Meets context counter) (infos : steps.Infos info other)
    (alike : steps.Arms arm following) (limit elapsed : Float32) :
    steps.Matches (Attempt.Agree (Alongside steps.Alike))
      (Decorator.expire context limit elapsed arm)
      (Decorator.expire counter limit elapsed following) := by
  unfold Decorator.expire
  rw [← steps.clock meets]
  dsimp only
  split
  · refine steps.same (steps.write meets infos fun _ => .timeoutExpired context.clock.frame _ limit)
      fun _ => ?_
    refine steps.attempt (steps.abortIn (steps.child meets 0) alike.node) fun _ _ _ aborted => ?_
    exact steps.done ⟨rfl, aborted⟩
  · refine steps.attempt (alike.tick (steps.child meets 0)) fun _ _ result ticked => ?_
    match result with
    | .error panic | .ok .running | .ok .success | .ok .failure => exact steps.done ⟨rfl, ticked⟩

/-- Cooldowns block the same ticks. -/
theorem cool (meets : steps.Meets context counter) (alike : steps.Arms arm following)
    (period remaining : Float32) :
    steps.Matches (Attempt.Agree (Alongside steps.Alike))
      (Decorator.cool context period remaining arm)
      (Decorator.cool counter period remaining following) := by
  unfold Decorator.cool
  rw [← steps.clock meets]
  split
  · exact steps.done ⟨rfl, alike.node⟩
  · refine steps.attempt (alike.tick (steps.child meets 0)) fun _ _ result ticked => ?_
    match result with
    | .error panic | .ok .running | .ok .success | .ok .failure => exact steps.done ⟨rfl, ticked⟩

/-- Decorators of alike children do the same. -/
theorem tickDecorator (meets : steps.Meets context counter) (infos : steps.Infos info other)
    (alike : steps.Arms arm following) (own : Decorator A) :
    steps.Matches (Attempt.Agree (Alongside steps.Alike)) (own.tick info context arm)
      (own.tick other counter following) := by
  cases own with
  | guard | whileTrue => exact steps.hold meets infos alike _ _
  | invert | forceSuccess | forceFailure => exact steps.pass meets alike _ _
  | repeating | retrying => exact steps.iterate meets alike _ _ _ _
  | timeout => exact steps.expire meets infos alike _ _
  | cooldown => exact steps.cool meets alike _ _
  | reactiveGuard => exact steps.watch meets infos alike _ _

end Decorators

section Choices

/-- A branch is given up in lockstep. -/
theorem abandon {node twin : Node A} (meets : steps.Meets context counter)
    (alike : steps.Alike node twin) (own : Choice A) (branch : Branch) :
    steps.Matches (Attempt.Agree steps.Alike) (own.abandon context branch node)
      (own.abandon counter branch twin) := by
  unfold Choice.abandon
  split
  · exact steps.abortIn (steps.child meets _) alike
  · exact steps.done alike

/-- A branch that may be missing is given up in lockstep. -/
theorem abandonOption {no otherNo : Option (Node A)} (meets : steps.Meets context counter)
    (alike : Option.Rel steps.Alike no otherNo) (own : Choice A) (branch : Branch) :
    steps.Matches (Attempt.Agree (Option.Rel steps.Alike)) (own.abandonOption context branch no)
      (own.abandonOption counter branch otherNo) := by
  cases alike with
  | none => exact steps.done .none
  | some alike =>
      refine steps.attempt (steps.abandon meets alike own branch) fun _ _ _ abandoned => ?_
      exact steps.done (.some abandoned)

/-- Choices between alike branches do the same. -/
theorem tickChoice {yes : Arm A D} {otherYes : Arm A E} {no : Option (Arm A D)}
    {otherNo : Option (Arm A E)} (meets : steps.Meets context counter)
    (infos : steps.Infos info other) (alikeYes : steps.Arms yes otherYes)
    (alikeNo : Option.Rel steps.Arms no otherNo) (own : Choice A) :
    steps.Matches (Attempt.Agree (Body.Corresponds steps.Alike)) (own.tick info context yes no)
      (own.tick other counter otherYes otherNo) := by
  have nodes : Option.Rel steps.Alike (no.map Part.node) (otherNo.map Part.node) := by
    cases alikeNo with
    | none => exact .none
    | some alike => exact .some alike.node
  refine steps.same (steps.ask meets infos own.predicate) fun answer => ?_
  match answer with
  | .error panic => exact steps.done (.choice own alikeYes.node nodes)
  | .ok true =>
      refine steps.attempt (steps.abandonOption meets nodes own .no) fun _ _ result abandoned => ?_
      match result with
      | .error panic => exact steps.done (.choice _ alikeYes.node abandoned)
      | .ok () =>
          refine steps.attempt (alikeYes.tick (steps.child meets _)) fun _ _ result ticked => ?_
          exact steps.done (.choice _ ticked abandoned)
  | .ok false =>
      refine steps.attempt (steps.abandon meets alikeYes.node own .yes) fun _ _ result abandoned => ?_
      match result with
      | .error panic => exact steps.done (.choice _ abandoned nodes)
      | .ok () =>
          cases alikeNo with
          | none => exact steps.done (.choice _ abandoned .none)
          | some alike =>
              refine steps.attempt (alike.tick (steps.child meets _)) fun _ _ result ticked => ?_
              exact steps.done (.choice _ abandoned (.some ticked))

end Choices

section Composites

variable {arms : List (Arm A D)} {others : List (Arm A E)} {children twins : List (Node A)}

/-- Scans enter the same children and stop at the same one. -/
theorem scan (meets : steps.Meets context counter) (alike : List.Forall₂ steps.Arms arms others)
    (skip : Status) (position : Nat) :
    steps.Matches (Attempt.Agree (List.Forall₂ steps.Alike))
      (Composite.scan skip context position arms) (Composite.scan skip counter position others) := by
  induction alike generalizing position with
  | nil => exact steps.done .nil
  | cons first rest inductionHypothesis =>
      refine steps.attempt (first.tick (steps.child meets position)) fun _ _ result ticked => ?_
      have stopped := List.Forall₂.cons ticked (steps.nodes rest)
      match result with
      | .error panic => exact steps.done stopped
      | .ok status =>
          dsimp only
          split
          · refine steps.attempt (inductionHypothesis (position + 1)) fun _ _ _ scanned => ?_
            exact steps.done (.cons ticked scanned)
          · exact steps.done stopped

/-- Composites resume at the same position. -/
theorem resume (meets : steps.Meets context counter) (alike : List.Forall₂ steps.Arms arms others)
    (own : Option Nat → Composite) (skip : Status) (running : Option Nat) :
    steps.Matches (Attempt.Agree (Alongside (List.Forall₂ steps.Alike)))
      (Composite.resume context own skip running arms)
      (Composite.resume counter own skip running others) := by
  unfold Composite.resume
  dsimp only
  rw [alike.length_eq]
  split
  · exact steps.done ⟨rfl, steps.nodes alike⟩
  · have rest := List.forall₂_drop (running.getD 0) alike
    refine steps.attempt (steps.scan meets rest skip _) fun _ _ result scanned => ?_
    have nodes := List.rel_append (steps.nodes (List.forall₂_take (running.getD 0) alike)) scanned
    match result with
    | .error panic | .ok stop => exact steps.done ⟨rfl, nodes⟩

/-- Lists that are related have related children at each position. -/
theorem getElem? {Child Other : Type} {Related : Child → Other → Prop} {children : List Child}
    {twins : List Other} (alike : List.Forall₂ Related children twins) (position : Nat) :
    Option.Rel Related children[position]? twins[position]? := by
  induction alike generalizing position with
  | nil => exact .none
  | cons first _ inductionHypothesis =>
      cases position with
      | zero => exact .some first
      | succ position => simpa using inductionHypothesis position

/-- Related lists stay related when related children are put at a position. -/
theorem set {Child Other : Type} {Related : Child → Other → Prop} {children : List Child}
    {twins : List Other} {child : Child} {twin : Other}
    (alike : List.Forall₂ Related children twins) (changed : Related child twin) (position : Nat) :
    List.Forall₂ Related (children.set position child) (twins.set position twin) := by
  induction alike generalizing position with
  | nil => exact .nil
  | cons first rest inductionHypothesis =>
      cases position with
      | zero => exact .cons changed rest
      | succ position => exact .cons first (inductionHypothesis position)

/-- Reactive composites preempt the same children. -/
theorem preempt (meets : steps.Meets context counter)
    (alike : List.Forall₂ steps.Alike children twins) (stop : Option Composite.Stop)
    (positions : List Nat) :
    steps.Matches (Attempt.Agree (List.Forall₂ steps.Alike))
      (Composite.preempt context stop positions children)
      (Composite.preempt counter stop positions twins) := by
  induction positions generalizing children twins with
  | nil => exact steps.done alike
  | cons position rest inductionHypothesis =>
      unfold Composite.preempt
      split
      · exact inductionHypothesis alike
      · have present := getElem? alike position
        generalize children[position]? = node at present
        generalize twins[position]? = twin at present
        cases present with
        | none =>
            rw [alike.length_eq]
            exact steps.done alike
        | some present =>
            refine steps.attempt (steps.abortIn (steps.child meets position) present)
              fun _ _ result aborted => ?_
            have changed := set alike aborted position
            match result with
            | .error panic => exact steps.done changed
            | .ok () => exact inductionHypothesis changed

/-- Reactive composites stop at the same child and keep the same positions. -/
theorem rescan (meets : steps.Meets context counter) (alike : List.Forall₂ steps.Arms arms others)
    (skip : Status) (running : List Nat) (kept unwound : Composite)
    (settled : Option Composite.Stop → Composite) :
    steps.Matches (Attempt.Agree (Alongside (List.Forall₂ steps.Alike)))
      (Composite.rescan context skip running kept unwound settled arms)
      (Composite.rescan counter skip running kept unwound settled others) := by
  refine steps.attempt (steps.scan meets alike skip 0) fun _ _ result scanned => ?_
  match result with
  | .error panic => exact steps.done ⟨rfl, scanned⟩
  | .ok stop =>
      refine steps.attempt (steps.preempt meets scanned stop running) fun _ _ result preempted => ?_
      match result with
      | .error panic | .ok () => exact steps.done ⟨rfl, preempted⟩

/-- Lists of nodes with outcomes are abreast if the nodes are alike and the outcomes are the same. -/
def Abreast (first second : List (Node A) × List (Option Status)) : Prop :=
  List.Forall₂ steps.Alike first.1 second.1 ∧ first.2 = second.2

variable {steps} in
/-- Lists that are abreast are so with one more node in front of each. -/
theorem Abreast.cons {node twin : Node A} {first second : List (Node A) × List (Option Status)}
    (rest : steps.Abreast first second) (alike : steps.Alike node twin) (outcome : Option Status) :
    steps.Abreast (node :: first.1, outcome :: first.2) (twin :: second.1, outcome :: second.2) :=
  ⟨.cons alike rest.1, congrArg (outcome :: ·) rest.2⟩

/-- Parallel nodes get the same outcomes. -/
theorem advance (meets : steps.Meets context counter) (alike : List.Forall₂ steps.Arms arms others)
    (position : Nat) (outcomes : List (Option Status)) :
    steps.Matches (Attempt.Agree steps.Abreast) (Composite.advance context position arms outcomes)
      (Composite.advance counter position others outcomes) := by
  induction alike generalizing position outcomes with
  | nil => cases outcomes <;> exact steps.done ⟨.nil, rfl⟩
  | cons first rest inductionHypothesis =>
      match outcomes with
      | [] => exact steps.done ⟨.cons first.node (steps.nodes rest), rfl⟩
      | none :: outcomes =>
          refine steps.attempt (first.tick (steps.child meets position)) fun _ _ result ticked => ?_
          match result with
          | .error panic => exact steps.done ⟨.cons ticked (steps.nodes rest), rfl⟩
          | .ok status =>
              refine steps.attempt (inductionHypothesis _ outcomes) fun _ _ _ below => ?_
              exact steps.done (below.cons ticked _)
      | some outcome :: outcomes =>
          refine steps.attempt (inductionHypothesis _ outcomes) fun _ _ _ below => ?_
          exact steps.done (below.cons first.node _)

/-- Parallel nodes give up the same children. -/
theorem finalize (meets : steps.Meets context counter)
    (alike : List.Forall₂ steps.Alike children twins) (position : Nat)
    (outcomes : List (Option Status)) :
    steps.Matches (Attempt.Agree steps.Abreast)
      (Composite.finalize context position children outcomes)
      (Composite.finalize counter position twins outcomes) := by
  induction alike generalizing position outcomes with
  | nil => cases outcomes <;> exact steps.done ⟨.nil, rfl⟩
  | cons first rest inductionHypothesis =>
      match outcomes with
      | [] => exact steps.done ⟨.cons first rest, rfl⟩
      | none :: outcomes =>
          refine steps.attempt (steps.abortIn (steps.child meets position) first)
            fun _ _ result aborted => ?_
          match result with
          | .error panic => exact steps.done ⟨.cons aborted rest, rfl⟩
          | .ok () =>
              refine steps.attempt (inductionHypothesis _ outcomes) fun _ _ _ below => ?_
              exact steps.done (below.cons aborted _)
      | some outcome :: outcomes =>
          refine steps.attempt (inductionHypothesis _ outcomes) fun _ _ _ below => ?_
          exact steps.done (below.cons first _)

/-- Parallel nodes are ticked in lockstep. -/
theorem tickParallel (meets : steps.Meets context counter) (infos : steps.Infos info other)
    (alike : List.Forall₂ steps.Arms arms others) (policy : Policy)
    (outcomes : List (Option Status)) :
    steps.Matches (Attempt.Agree (Alongside (List.Forall₂ steps.Alike)))
      (Composite.tickParallel context policy outcomes arms)
      (Composite.tickParallel counter policy outcomes others) := by
  unfold Composite.tickParallel
  rw [alike.length_eq]
  refine steps.attempt (steps.advance meets alike 0 _) ?_
  rintro ⟨nodes, outcomes⟩ ⟨twins, _⟩ result ⟨advanced, rfl⟩
  match result with
  | .error panic => exact steps.done ⟨rfl, advanced⟩
  | .ok () =>
      dsimp only at advanced ⊢
      rw [advanced.length_eq]
      cases policy.verdict twins.length (outcomes.count (some .success))
          (outcomes.count (some .failure)) with
      | none => exact steps.done ⟨rfl, advanced⟩
      | some status =>
        refine steps.same (steps.write meets infos fun _ => .parallelFinalized status _ _ policy)
          fun _ => ?_
        refine steps.attempt (steps.finalize meets advanced 0 _) ?_
        rintro ⟨final, outcomes⟩ ⟨finalTwins, _⟩ result ⟨finalized, rfl⟩
        match result with
        | .error panic | .ok () => exact steps.done ⟨rfl, finalized⟩

/-- Composites of alike children do the same. -/
theorem tickComposite (meets : steps.Meets context counter) (infos : steps.Infos info other)
    (alike : List.Forall₂ steps.Arms arms others) (own : Composite) :
    steps.Matches (Attempt.Agree (Alongside (List.Forall₂ steps.Alike))) (own.tick context arms)
      (own.tick counter others) := by
  cases own with
  | selector | sequence => exact steps.resume meets alike _ _ _
  | parallel => exact steps.tickParallel meets infos alike _ _
  | reactiveSelector | reactiveSequence => exact steps.rescan meets alike _ _ _ _ _

end Composites

/-- Bodies of alike children do the same. -/
theorem tickBody {body : Body A (Arm A D)} {following : Body A (Arm A E)}
    (meets : steps.Meets context counter) (infos : steps.Infos info other)
    (bodies : body.Corresponds steps.Arms following) :
    steps.Matches (Attempt.Agree (Body.Corresponds steps.Alike)) (body.tick info context)
      (following.tick other counter) := by
  cases bodies with
  | leaf own => exact steps.same (steps.tickLeaf meets infos own) fun _ => steps.done (.leaf _)
  | decorator own alike =>
      refine steps.attempt (steps.tickDecorator meets infos alike own) ?_
      rintro ⟨next, _⟩ ⟨_, _⟩ _ ⟨rfl, ticked⟩
      exact steps.done (.decorator next ticked)
  | choice own alikeYes alikeNo => exact steps.tickChoice meets infos alikeYes alikeNo own
  | composite own alike =>
      refine steps.attempt (steps.tickComposite meets infos alike own) ?_
      rintro ⟨next, _⟩ ⟨_, _⟩ _ ⟨rfl, ticked⟩
      exact steps.done (.composite next ticked)

/-- Ticks of alike nodes match. -/
theorem tick {node twin : Node A} (meets : steps.Meets context counter)
    (alike : steps.Alike node twin) :
    steps.Matches (Attempt.Agree steps.Alike) (node.tick context) (twin.tick counter) := by
  induction node using Node.induction generalizing twin context counter with
  | step tag body inductionHypothesis =>
      obtain ⟨other, following⟩ := twin
      obtain ⟨tags, bodies⟩ := steps.alike_iff.1 alike
      rw [Node.tick_eq, Node.tick_eq]
      have arms : (body.map fun node => (⟨node, node.tick⟩ : Arm A D)).Corresponds steps.Arms
          (following.map fun node => ⟨node, node.tick⟩) :=
        bodies.map fun child member other alike =>
          ⟨alike, fun meets => inductionHypothesis child member meets alike⟩
      have nodes := arms.map fun _ _ _ alike => alike.node
      have infos := steps.infos tags (body.map fun node => (⟨node, node.tick⟩ : Arm A D)).kind
      unfold Node.tickStep
      rw [← arms.kind, ← steps.clock meets]
      refine steps.same (steps.enter meets infos) fun entered => ?_
      match entered with
      | .error panic => exact steps.done (steps.alike tags nodes)
      | .ok () =>
          refine steps.attempt (steps.tickBody meets infos arms) fun _ _ result ticked => ?_
          match result with
          | .error panic => exact steps.done (steps.alike tags ticked)
          | .ok status =>
              refine steps.same (steps.notify meets infos (.left · status context.clock) fun _ => rfl)
                fun left => ?_
              exact steps.done (steps.alike (steps.returned tags status) ticked)

end Behavior.Lockstep
