import Behavior.Proofs.Lockstep.Correspondence
import Behavior.Proofs.Node.Clearing
import Behavior.Tick.Node

namespace Behavior

/-- An agent offers six ways to be called, and each call is described by what it was and gave. -/
inductive Agent.Offers (A : Agent) :
    {Value : Type} → (A.State → Reply A.State Value) → (Value → Call A) → Prop
  | test (predicate : A.Predicate) : Offers A (A.test predicate) (.tested predicate)
  | act (action : A.Action) (clock : Clock) : Offers A (A.act action clock) (.acted action clock)
  | start (starter : A.Starter) : Offers A (A.start starter) (.started starter)
  | poll (operation : A.Operation) : Offers A (A.poll operation) (.polled operation)
  | take (operation : A.Operation) : Offers A (A.take operation) (.taken operation)
  | cancel (operation : A.Operation) : Offers A (A.cancel operation) fun _ => .cancelled operation

/-- Notices of entries are told of together with what may pause a tick. -/
def Notice.isEntry : Notice → Bool
  | .entered _ _ => true
  | .left _ _ _ | .evaluated _ _ | .aborted _ => false

/-- A lockstep relates the runs, the nodes and the contexts of two trees. -/
structure Lockstep (A : Agent) (D E : Type) where
  Matches : ∀ {Value Other : Type}, (Value → Other → Prop) → Run A D Value → Run A E Other → Prop
  Alike : Node A → Node A → Prop
  Tags : Tag → Tag → Prop
  Infos : NodeInfo → NodeInfo → Prop
  Meets : Context D → Context E → Prop
  pure : ∀ {Value Other : Type} {Related : Value → Other → Prop} {value : Value} {twin : Other},
    Related value twin → Matches Related (pure value) (pure twin)
  bind : ∀ {Value Other Next Following : Type} {Related : Value → Other → Prop}
    {Final : Next → Following → Prop} {run : Run A D Value} {other : Run A E Other}
    {next : Value → Run A D Next} {following : Other → Run A E Following},
      Matches Related run other →
        (∀ value twin, Related value twin → Matches Final (next value) (following twin)) →
          Matches Final (run >>= next) (other >>= following)
  alike_iff : ∀ {node twin : Node A},
    Alike node twin ↔ Tags node.tag twin.tag ∧ node.body.Corresponds Alike twin.body
  running : ∀ {tag other : Tag}, Tags tag other →
    (tag.last = some .running ↔ other.last = some .running)
  returned : ∀ {tag other : Tag}, Tags tag other → ∀ status : Status,
    Tags { tag with last := some status } { other with last := some status }
  infos : ∀ {tag other : Tag}, Tags tag other → ∀ kind : Kind,
    Infos ⟨tag.id, kind, tag.label⟩ ⟨other.id, kind, other.label⟩
  child : ∀ {context : Context D} {twin : Context E}, Meets context twin → ∀ position,
    Meets (context.child position) (twin.child position)
  clock : ∀ {context : Context D} {twin : Context E}, Meets context twin →
    context.clock = twin.clock
  clear : ∀ {context : Context D} {twin : Context E} {tag other : Tag}, Meets context twin →
    Tags tag other → Matches Tags (tag.clear context.place) (other.clear twin.place)
  call : ∀ {context : Context D} {twin : Context E} {Value : Type}
    {reply : A.State → Reply A.State Value} {describe : Value → Call A}, Meets context twin →
      A.Offers reply describe →
        Matches Eq (Run.call context.place reply describe) (Run.call twin.place reply describe)
  write : ∀ {context : Context D} {twin : Context E} {info other : NodeInfo},
    Meets context twin → Infos info other → ∀ record : NodeInfo → Record,
      Matches Eq (Run.write context.place (record info)) (Run.write twin.place (record other))
  notify : ∀ {context : Context D} {twin : Context E} {info other : NodeInfo},
    Meets context twin → Infos info other → ∀ notice : NodeInfo → Notice,
      (∀ info, (notice info).isEntry = false) →
        Matches Eq (context.notify (notice info)) (twin.notify (notice other))
  enter : ∀ {context : Context D} {twin : Context E} {info other : NodeInfo},
    Meets context twin → Infos info other →
      Matches Eq (context.enter info) (twin.enter other)

namespace Lockstep

variable {A : Agent} {D E : Type} (steps : Lockstep A D E)

section Runs

variable {Value Other Next Following Subject Twin : Type} {Final : Next → Following → Prop}

/-- Runs with the same values are followed by runs that match. -/
theorem same {run : Run A D Value} {other : Run A E Value} {next : Value → Run A D Next}
    {following : Value → Run A E Following} (first : steps.Matches Eq run other)
    (rest : ∀ value, steps.Matches Final (next value) (following value)) :
    steps.Matches Final (run >>= next) (other >>= following) :=
  steps.bind first fun value _ same => same ▸ rest value

/-- Attempts that agree are followed from the same result. -/
theorem attempt {Related : Subject → Twin → Prop} {run : Run A D (Attempt Subject Value)}
    {other : Run A E (Attempt Twin Value)} {next : Attempt Subject Value → Run A D Next}
    {following : Attempt Twin Value → Run A E Following}
    (first : steps.Matches (Attempt.Agree Related) run other)
    (rest : ∀ after twin result, Related after twin →
      steps.Matches Final (next ⟨after, result⟩) (following ⟨twin, result⟩)) :
    steps.Matches Final (run >>= next) (other >>= following) := by
  refine steps.bind first ?_
  rintro ⟨after, result⟩ ⟨twin, _⟩ ⟨related, rfl⟩
  exact rest after twin result related

/-- What has been done already matches. -/
theorem done {Related : Subject → Twin → Prop} {after : Subject} {twin : Twin}
    {result : Except Panic Value} (related : Related after twin) :
    steps.Matches (Attempt.Agree Related) (Pure.pure ⟨after, result⟩) (Pure.pure ⟨twin, result⟩) :=
  steps.pure ⟨related, rfl⟩

end Runs

section Bodies

variable {Child Other Changed Twin : Type} {Related : Child → Other → Prop}
  {Final : Changed → Twin → Prop} {body : Body A Child} {twin : Body A Other}
  {go : Nat → Child → Run A D Changed} {tour : Nat → Other → Run A E Twin}

/-- Visits match if they match child by child. -/
theorem visitFrom {children : List Child} {others : List Other}
    (related : List.Forall₂ Related children others)
    (visits : ∀ child ∈ children, ∀ other, Related child other → ∀ position,
      steps.Matches Final (go position child) (tour position other)) (position : Nat) :
    steps.Matches (List.Forall₂ Final) (Body.visitFrom go position children)
      (Body.visitFrom tour position others) := by
  induction related generalizing position with
  | nil => exact steps.pure .nil
  | cons first _ inductionHypothesis =>
      obtain ⟨here, below⟩ := List.forall_mem_cons.1 visits
      refine steps.bind (here _ first position) fun changed twin changes => ?_
      refine steps.bind (inductionHypothesis below (position + 1)) fun rest others changed => ?_
      exact steps.pure (.cons changes changed)

/-- Visits of corresponding bodies match if the visits of their children do. -/
theorem visit (bodies : body.Corresponds Related twin)
    (visits : ∀ child ∈ body.children, ∀ other, Related child other → ∀ position,
      steps.Matches Final (go position child) (tour position other)) :
    steps.Matches (Body.Corresponds Final) (body.visit go) (twin.visit tour) := by
  cases bodies with
  | leaf own => exact steps.pure (.leaf own)
  | decorator own related =>
      refine steps.bind (visits _ List.mem_cons_self _ related 0) fun _ _ changes => ?_
      exact steps.pure (.decorator own changes)
  | choice own relatedYes relatedNo =>
      obtain ⟨yes, no⟩ := List.forall_mem_cons.1 visits
      cases relatedNo with
      | none =>
          refine steps.bind (yes _ relatedYes 0) fun _ _ changes => ?_
          exact steps.pure (.choice own changes .none)
      | some related =>
          refine steps.bind (yes _ relatedYes 0) fun _ _ changes => ?_
          refine steps.bind (no _ (by simp) _ related 1) fun _ _ varies => ?_
          exact steps.pure (.choice own changes (.some varies))
  | composite own related =>
      refine steps.bind (steps.visitFrom related visits 0) fun _ _ changes => ?_
      exact steps.pure (.composite own changes)

variable {context : Context D} {other : Context E}

/-- Leaves are cancelled in lockstep. -/
theorem cancelLeaf (meets : steps.Meets context other) (own : Leaf A) :
    steps.Matches Eq (own.cancel context.place) (own.cancel other.place) := by
  match own with
  | .asyncAction starter (some operation) =>
      exact steps.same (steps.call meets (.cancel operation)) fun _ => steps.pure rfl
  | .asyncAction starter none | .condition predicate | .action deed => exact steps.pure rfl

/-- Bodies that correspond are cancelled in lockstep. -/
theorem cancel (meets : steps.Meets context other) (bodies : body.Corresponds Related twin) :
    steps.Matches (Body.Corresponds Related) (body.cancel context.place)
      (twin.cancel other.place) := by
  cases bodies with
  | leaf own => exact steps.same (steps.cancelLeaf meets own) fun next => steps.pure (.leaf next)
  | decorator own related => exact steps.pure (.decorator own related)
  | choice own relatedYes relatedNo => exact steps.pure (.choice own relatedYes relatedNo)
  | composite own related => exact steps.pure (.composite own related)

end Bodies

variable {node twin : Node A} {tag other : Tag} {body following : Body A (Node A)}
  {context : Context D} {counter : Context E}

/-- Nodes are alike if their tags and bodies are. -/
theorem alike (tags : steps.Tags tag other) (bodies : body.Corresponds steps.Alike following) :
    steps.Alike ⟨tag, body⟩ ⟨other, following⟩ :=
  steps.alike_iff.2 ⟨tags, bodies⟩

/-- Of nodes that are alike both are running or none. -/
theorem isRunning (alike : steps.Alike node twin) : node.isRunning = twin.isRunning := by
  rw [Bool.eq_iff_iff]
  exact beq_iff_eq.trans ((steps.running (steps.alike_iff.1 alike).1).trans beq_iff_eq.symm)

/-- Nodes that are alike are told of in the same way. -/
theorem infos_of_alike (alike : steps.Alike node twin) : steps.Infos node.info twin.info := by
  obtain ⟨tags, bodies⟩ := steps.alike_iff.1 alike
  have infos := steps.infos tags node.body.kind
  nth_rewrite 2 [bodies.kind] at infos
  exact infos

/-- Resets of alike nodes match. -/
theorem reset (meets : steps.Meets context counter) (alike : steps.Alike node twin) :
    steps.Matches steps.Alike (node.reset context.place) (twin.reset counter.place) := by
  induction node using Node.induction generalizing twin context counter with
  | step tag body inductionHypothesis =>
      obtain ⟨other, following⟩ := twin
      obtain ⟨tags, bodies⟩ := steps.alike_iff.1 alike
      rw [Node.reset_eq, Node.reset_eq]
      -- The children are kept in view, so that the induction reaches them after the cancellation.
      have known : body.Corresponds (fun child other => child ∈ body.children ∧ steps.Alike child other)
          following := bodies.imp fun child member _ alike => ⟨member, alike⟩
      refine steps.bind (steps.clear meets tags) fun _ _ tags => ?_
      refine steps.bind (steps.cancel meets known) fun _ _ cancelled => ?_
      refine steps.bind (steps.visit cancelled.forget ?_) fun _ _ renewed =>
        steps.pure (steps.alike tags renewed)
      intro child _ other ⟨member, alike⟩ position
      exact inductionHypothesis child member (steps.child meets position) alike

/-- The aborts of nodes that are alike are reported in lockstep. -/
theorem reportAbort (meets : steps.Meets context counter) (alike : steps.Alike node twin) :
    steps.Matches Eq (node.reportAbort context) (twin.reportAbort counter) := by
  unfold Node.reportAbort
  rw [steps.isRunning alike]
  split
  · have infos := steps.infos_of_alike alike
    rw [← steps.clock meets]
    refine steps.same (steps.write meets infos fun info => .aborting info context.clock.frame) fun _ => ?_
    exact steps.notify meets infos .aborted fun _ => rfl
  · exact steps.pure rfl

/-- Aborts of alike nodes match, and so do their reports. -/
theorem abortIn (meets : steps.Meets context counter) (alike : steps.Alike node twin) :
    steps.Matches (Attempt.Agree steps.Alike) (node.abortIn context) (twin.abortIn counter) := by
  refine steps.same (steps.reportAbort meets alike) fun reported => ?_
  cases reported with
  | error => exact steps.done alike
  | ok =>
      simp only [Node.abort_eq_reset]
      exact steps.bind (steps.reset meets alike) fun _ _ cleared => steps.done cleared

end Lockstep

end Behavior
