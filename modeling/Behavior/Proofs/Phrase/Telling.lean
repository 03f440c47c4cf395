import Behavior.Proofs.Phrase.Grammar
import Behavior.Proofs.Renewal.Cancellation
import Behavior.Proofs.Touch.Evolution
import Behavior.Proofs.Touch.Order

namespace Behavior

variable {A : Agent} {D : Type}

namespace Trace

variable {place : Place} {trace : Trace A}

/-- Records leave no marks. -/
theorem marks_outputs (outputs : List Output) :
    marks (outputs.map fun output => (⟨place, .output output⟩ : Entry A)) = [] := by
  apply List.filterMap_eq_nil_iff.2
  intro entry member
  obtain ⟨_, _, rfl⟩ := List.mem_map.1 member
  rfl

end Trace

/-- A notice leaves one mark. -/
theorem Context.Tells.marks {context : Context D} {notice : Notice} {trace : Trace A}
    (tells : context.Tells notice trace) : trace.marks = [.told notice] := by
  obtain ⟨outputs, rfl⟩ := tells
  exact congrArg (Mark.told notice :: ·) (Trace.marks_outputs outputs)

/-- A call leaves at most the mark of itself. -/
theorem Run.Leads.marks_of_call {Value : Type} {place : Place}
    {reply : A.State → Reply A.State Value} {describe : Value → Call A} {before after : Stage A D}
    {trace : Trace A} {value : Value}
    (called : (call place reply describe).Leads before trace value after) :
    trace.marks = (Event.mark? (.call (describe value))).toList := by
  obtain ⟨lines, rfl⟩ := called.trace_of_call
  have rest : Trace.marks ((lines.map Output.line).map fun output =>
      (⟨place, .output output⟩ : Entry A)) = [] := Trace.marks_outputs _
  rw [List.map_map] at rest
  replace rest : Trace.marks (lines.map fun line => (⟨place, .output (.line line)⟩ : Entry A)) = [] :=
    rest
  rw [← List.singleton_append, Trace.marks_append, rest, List.append_nil, Trace.marks,
    List.filterMap_cons]
  cases Event.mark? (.call (describe value)) <;> rfl

/-- Cancellations leave no marks. -/
theorem Run.Cancels.marks {Value : Type} {run : Run A D Value} {operations : List A.Operation}
    (cancels : run.Cancels operations) (stage : Stage A D) : (run stage).trace.marks = [] := by
  apply List.filterMap_eq_nil_iff.2
  intro entry member
  obtain ⟨place, event⟩ := entry
  cases event with
  | output | cleared => rfl
  | notice message =>
      have listed : (place, message) ∈ (run stage).trace.notices :=
        List.mem_filterMap.2 ⟨_, member, rfl⟩
      rw [cancels.notices] at listed
      cases listed
  | call used =>
      have listed : (place, used) ∈ (run stage).trace.calls :=
        List.mem_filterMap.2 ⟨_, member, rfl⟩
      have among := List.mem_map_of_mem (f := Prod.snd) listed
      rw [cancels.calls] at among
      obtain ⟨operation, _, rfl⟩ := List.mem_map.1 among
      rfl

/-- An opening is what a node does itself in its tick before its children are ticked: it uses the
agent at most once, in one of the ways that are made, and reports the value of a predicate. -/
def Opening (info : NodeInfo) (evaluates : Bool) (makes : Call A → Prop) (marks : List (Mark A)) :
    Prop :=
  ∃ (use : Option (Call A)) (value : Option Bool), (∀ call ∈ use, makes call) ∧
    value.isSome = evaluates ∧
      (∀ answer ∈ value, ∃ predicate, use = some (.tested predicate (.ok answer))) ∧
        marks = (use.map .used).toList ++
          (value.map fun value => .told (.evaluated info value)).toList

variable {info : NodeInfo} {makes : Call A → Prop}

/-- A body may open a phrase without any use. -/
theorem opening_nil : Opening info false makes [] := ⟨none, none, nofun, rfl, nofun, rfl⟩

/-- A body may open a phrase with one use. -/
theorem opening_used {call : Call A} (made : makes call) : Opening info false makes [.used call] := by
  refine ⟨some call, none, ?_, rfl, nofun, rfl⟩
  rintro _ ⟨⟩
  exact made

/-- A predicate that is asked opens the phrase with its use and its answer. -/
theorem Context.opening_of_ask {context : Context D} {predicate : A.Predicate}
    {before after : Stage A D} {trace : Trace A} {answer : Bool}
    (made : ∀ outcome, makes (.tested predicate outcome))
    (asks : (context.ask info predicate).Leads before trace (.ok answer) after) :
    Opening info true makes trace.marks := by
  obtain ⟨outcome, _, _, _, called, ended, rfl⟩ := Run.leads_bind.1 asks
  rw [Trace.marks_append, called.marks_of_call]
  match outcome with
  | .error _ =>
      obtain ⟨contrary, _⟩ := Run.leads_pure.1 ended
      cases contrary
  | .ok value =>
      obtain ⟨reported, notified, _⟩ := Run.leads_bind_pure.1 ended
      rw [(Context.tells_of_notify notified).marks]
      refine ⟨some (.tested predicate (.ok value)), some value, ?_, rfl, ?_, rfl⟩
      · rintro _ ⟨⟩
        exact made (.ok value)
      · rintro _ ⟨⟩
        exact ⟨predicate, rfl⟩

/-- An optional predicate opens the phrase if there is one. -/
theorem Asks.opening {context : Context D} {asked : Option A.Predicate} {before after : Stage A D}
    {trace : Trace A} {answer : Bool}
    (made : ∀ predicate, asked = some predicate → ∀ outcome, makes (.tested predicate outcome))
    (asks : Asks context info asked before trace (.ok answer) after) :
    Opening info asked.isSome makes trace.marks := by
  cases asks with
  | spared => exact opening_nil
  | asked asks => exact Context.opening_of_ask (made _ rfl) asks

namespace Leaf

variable {own next : Leaf A} {before after : Stage A D} {trace : Trace A} {status : Status}

/-- Polls leave no marks. -/
theorem marks_of_poll {place : Place} {starter : A.Starter} {operation : A.Operation}
    {result : Except Panic Status}
    (polls : (poll place starter operation).Leads before trace ⟨next, result⟩ after) :
    trace.marks = [] := by
  obtain ⟨completed, _, _, _, called, ended, rfl⟩ := Run.leads_bind.1 polls
  rw [Trace.marks_append, called.marks_of_call]
  cases completed with
  | false =>
      obtain ⟨_, _, rfl, _⟩ := Run.leads_attempt.1 ended
      rfl
  | true =>
      obtain ⟨_, taken, _⟩ := Run.leads_bind_attempt.1 ended
      rw [taken.marks_of_call]
      rfl

/-- A tick of a leaf does nothing but open the phrase. -/
theorem opening_of_tick {Child : Type} {context : Context D}
    (ticks : (own.tick info context).Leads before trace ⟨next, .ok status⟩ after) :
    Opening info own.kind.evaluates (Body.Makes context.clock (.leaf own : Body A Child))
      trace.marks := by
  match own with
  | .condition predicate =>
      obtain ⟨answer, asks, _, returned⟩ := Run.leads_bind_attempt.1 ticks
      cases answer with
      | error => cases returned
      | ok answer => exact Context.opening_of_ask (fun _ => .tested) asks
  | .action deed =>
      obtain ⟨_, called, _⟩ := Run.leads_bind_attempt.1 ticks
      rw [called.marks_of_call]
      exact opening_used .acted
  | .asyncAction starter (some operation) =>
      rw [marks_of_poll ticks]
      exact opening_nil
  | .asyncAction starter none =>
      obtain ⟨started, _, _, _, called, ended, rfl⟩ := Run.leads_bind.1 ticks
      rw [Trace.marks_append, called.marks_of_call]
      match started with
      | .error _ =>
          obtain ⟨_, returned, _⟩ := Run.leads_attempt.1 ended
          cases returned
      | .ok operation =>
          rw [marks_of_poll ended]
          exact opening_used .started

end Leaf

/-- The bodies that ask a predicate before they play are those of the kinds that evaluate one. -/
theorem Body.Plays.evaluates {clock : Clock} {answer : Bool} {body changed : Body A (Node A)}
    {touches : List (Nat × Touch)} {result : Except Panic Status}
    (plays : body.Plays clock answer touches result changed) :
    body.predicate?.isSome = body.kind.evaluates := by
  cases plays with
  | @decorator own => cases own <;> rfl
  | choice => rfl
  | @composite own => cases own <;> rfl

namespace Node

variable {context : Context D} {node changed : Node A} {before after : Stage A D} {trace : Trace A}

/-- A reset leaves no marks. -/
theorem marks_of_reset {place : Place}
    (resets : (node.reset place).Leads before trace changed after) : trace.marks = [] := by
  have marks := (node.cancels_of_reset (D := D) place).marks before
  rwa [resets] at marks

/-- A remark fits some children if it tells of one of them what a phrase may tell. -/
def Fits (clock : Clock) (children : List (Node A)) : Remark A → Prop
  | .aborted position info => ∃ child : Node A, children[position]? = some child ∧ info = child.info
  | .ticked position phrase =>
      ∃ child : Node A, children[position]? = some child ∧ child.Phrase clock phrase

/-- A node tells a phrase by an opening and remarks that fit its children. -/
theorem phrase_of_remarks {clock : Clock} {opening : List (Mark A)} {remarks : List (Remark A)}
    (status : Status)
    (opens : Opening node.info node.kind.evaluates (node.body.Makes clock) opening)
    (fits : ∀ remark ∈ remarks, Fits clock node.children remark)
    (ascending : (remarks.filterMap Remark.ticked?).Pairwise (· < ·)) :
    node.Phrase clock (.told (.entered node.info clock) :: opening ++
      remarks.flatMap Remark.marks ++ [.told (.left node.info status clock)]) := by
  obtain ⟨use, value, makes, evaluates, answers, rfl⟩ := opens
  have inside : ∀ remark ∈ remarks, remark.position < node.children.length := by
    intro remark member
    cases remark with
    | aborted | ticked =>
        obtain ⟨child, present, _⟩ := fits _ member
        exact (List.getElem?_eq_some_iff.1 present).1
  have aborted : ∀ position info, .aborted position info ∈ remarks →
      ∀ child : Node A, node.children[position]? = some child → info = child.info := by
    intro position info member child present
    obtain ⟨other, taken, same⟩ := fits _ member
    rwa [Option.some.inj (present.symm.trans taken)]
  have ticked : ∀ position phrase, .ticked position phrase ∈ remarks →
      ∀ child : Node A, node.children[position]? = some child → child.Phrase clock phrase := by
    intro position phrase member child present
    obtain ⟨other, taken, told⟩ := fits _ member
    rwa [Option.some.inj (present.symm.trans taken)]
  exact .told makes evaluates answers inside aborted ticked ascending

/-- Nodes tell phrases if whatever is built as one of them tells a phrase of it by every tick that
returns. -/
def TellPhrases (D : Type) (nodes : List (Node A)) : Prop :=
  ∀ child ∈ nodes, ∀ other : Node A, other.pristine = child.pristine →
    ∀ {context : Context D} {before after : Stage A D} {trace : Trace A} {changed : Node A}
      {status : Status}, (other.tick context).Leads before trace ⟨changed, .ok status⟩ after →
        child.Phrase context.clock trace.marks

/-- A touch that no panic cuts short is remarked on by the phrase of a tick, or by a reported abort. -/
theorem remarks_of_undergoes {children : List (Node A)} {child : Node A} {position : Nat}
    {touch : Touch} (undergoes : node.Undergoes (context.child position) touch before trace changed after)
    (calm : touch.Calm) (taken : children[position]? = some child)
    (built : node.pristine = child.pristine) (telling : TellPhrases D children) :
    ∃ remarks : List (Remark A), trace.marks = remarks.flatMap Remark.marks ∧
      remarks.filterMap Remark.ticked? = tickedOf [(position, touch)] ∧
        ∀ remark ∈ remarks, Fits context.clock children remark := by
  have silent : ∀ remark ∈ ([] : List (Remark A)), Fits context.clock children remark :=
    fun _ member => absurd member List.not_mem_nil
  cases undergoes with
  | ticked ticked =>
      obtain ⟨status, rfl⟩ := calm
      have phrase := telling child (List.mem_of_getElem? taken) node built ticked
      refine ⟨[.ticked position trace.marks], ?_, rfl, List.forall_mem_singleton.2 ?_⟩
      · rw [List.flatMap_singleton, Remark.marks]
      · exact ⟨child, taken, phrase⟩
  | reset resets => exact ⟨[], marks_of_reset resets, rfl, silent⟩
  | aborted aborts =>
      obtain rfl : _ = Except.ok () := calm
      cases abortsIn_of_abortIn aborts with
      | silent _ resets => exact ⟨[], marks_of_reset resets, rfl, silent⟩
      | reported _ tells resets =>
          refine ⟨[.aborted position node.info], ?_, rfl, List.forall_mem_singleton.2 ?_⟩
          · rw [← List.singleton_append, Trace.marks_append, Trace.marks_append, tells.marks,
              marks_of_reset resets]
            rfl
          · exact ⟨child, taken, info_of_pristine built⟩

/-- The aborts of a handling and the phrases of its ticks are remarks that fit the children, whatever
has been done to these before. -/
theorem remarks_of_handles {nodes final children : List (Node A)} {touches : List (Nat × Touch)}
    (handles : Handles context nodes before touches trace final after)
    (calm : ∀ touch ∈ touches, touch.2.Calm) (built : nodes.map pristine = children.map pristine)
    (telling : TellPhrases D children) :
    ∃ remarks : List (Remark A), trace.marks = remarks.flatMap Remark.marks ∧
      remarks.filterMap Remark.ticked? = tickedOf touches ∧
        ∀ remark ∈ remarks, Fits context.clock children remark := by
  induction handles with
  | done => exact ⟨[], rfl, rfl, fun _ member => absurd member List.not_mem_nil⟩
  | wrote _ _ inductionHypothesis => exact inductionHypothesis calm built
  | @touched nodes _ _ _ _ touches _ _ position touch node changed present undergoes _
      inductionHypothesis =>
      have origin : (children.map pristine)[position]? = some node.pristine := by
        rw [← built, List.getElem?_map, present, Option.map_some]
      rw [List.getElem?_map, Option.map_eq_some_iff] at origin
      obtain ⟨child, taken, same⟩ := origin
      obtain ⟨first, others⟩ := List.forall_mem_cons.1 calm
      have kept := (map_pristine_set present undergoes.pristine).trans built
      obtain ⟨here, told, ticked, fits⟩ :=
        remarks_of_undergoes undergoes first taken same.symm telling
      obtain ⟨remarks, rest, ticks, fit⟩ := inductionHypothesis others kept
      refine ⟨here ++ remarks, ?_, ?_, List.forall_mem_append.2 ⟨fits, fit⟩⟩
      · rw [Trace.marks_append, told, rest, List.flatMap_append]
      · rw [List.filterMap_append, ticked, ticks, ← tickedOf_append, List.singleton_append]

/-- A body that works tells an opening, and then remarks on the children. -/
theorem remarks_of_works {body next : Body A (Node A)} {children : List (Node A)}
    {status : Status} (works : body.Works context info before trace (.ok status) next after)
    (built : body.children.map pristine = children.map pristine)
    (telling : TellPhrases D children) :
    ∃ (opening : List (Mark A)) (remarks : List (Remark A)),
      trace.marks = opening ++ remarks.flatMap Remark.marks ∧
        Opening info body.kind.evaluates (body.Makes context.clock) opening ∧
          (∀ remark ∈ remarks, Fits context.clock children remark) ∧
            (remarks.filterMap Remark.ticked?).Pairwise (· < ·) := by
  cases works with
  | leaf ticks =>
      refine ⟨_, [], ?_, Leaf.opening_of_tick ticks, ?_, List.Pairwise.nil⟩
      · rw [List.flatMap_nil, List.append_nil]
      · exact fun _ member => absurd member List.not_mem_nil
  | played asks handles plays =>
      have opening : Opening info body.predicate?.isSome (body.Makes context.clock) _ :=
        asks.opening fun _ made _ => .asked made
      rw [plays.evaluates] at opening
      obtain ⟨remarks, told, ticked, fits⟩ := remarks_of_handles handles plays.calm built telling
      refine ⟨_, remarks, ?_, opening, fits, ?_⟩
      · rw [Trace.marks_append, told]
      · rw [ticked]
        exact plays.ascending.ordered

/-- A tick that returns tells a phrase of the node, and of every node that is built of the same. -/
theorem phrase_of_tick {original : Node A} {status : Status}
    (built : original.pristine = node.pristine)
    (ticks : (node.tick context).Leads before trace ⟨changed, .ok status⟩ after) :
    original.Phrase context.clock trace.marks := by
  induction node using Node.rebuilding
    generalizing original context before trace status changed after with
  | step node inductionHypothesis =>
      have info : original.info = node.info := info_of_pristine built
      have kind : original.kind = node.kind := congrArg NodeInfo.kind info
      have makes := makes_of_pristine built context.clock
      have below : node.children.map pristine = original.children.map pristine := by
        rw [← children_pristine, ← children_pristine, built]
      have telling : TellPhrases D original.children := by
        intro child member other same _ _ _ _ _ _ ticks
        have listed : child.pristine ∈ node.children.map pristine := by
          rw [below]
          exact List.mem_map_of_mem member
        obtain ⟨twin, member, origin⟩ := List.mem_map.1 listed
        exact inductionHypothesis twin member other (same.trans origin.symm) same.symm ticks
      obtain ⟨_, _, _, _, _, rfl, announces, works, leaves, _⟩ := returned_of_tick ticks
      obtain ⟨opening, remarks, marks, opens, fits, ascending⟩ :=
        remarks_of_works works below telling
      have opens : Opening original.info original.kind.evaluates (original.body.Makes context.clock)
          opening := by
        rw [info, kind, makes]
        exact opens
      have phrase := phrase_of_remarks status opens fits ascending
      rw [info] at phrase
      rw [Trace.marks_append, Trace.marks_append, announces.marks, leaves.marks, marks]
      simpa using phrase

end Node

end Behavior
