import Behavior.Proofs.History
import Behavior.Proofs.Phrase.Telling
import Behavior.Proofs.Run.Effects
import Mathlib.Algebra.Group.Nat.Hom

namespace Behavior

variable {A : Agent} {D : Type}

namespace Node

variable {node other : Node A}

/-- Nodes that are built of the same have the same numbers, kinds and labels in preorder. -/
theorem infos_of_pristine (built : other.pristine = node.pristine) :
    other.preorder.map info = node.preorder.map info := by
  have infos (node : Node A) : node.pristine.preorder.map info = node.preorder.map info := by
    rw [descends_pristine.preorder, List.map_map]
    exact List.map_congr_left fun part _ => info_pristine part
  rw [← infos, built, infos]

/-- Trees that were built the same have the same number of nodes. -/
theorem length_preorder_of_pristine (built : other.pristine = node.pristine) :
    other.preorder.length = node.preorder.length := by
  have length := congrArg List.length (infos_of_pristine built)
  rwa [List.length_map, List.length_map] at length

/-- A node is told of with its number. -/
theorem numbers_eq_infos (node : Node A) :
    node.numbers = (node.preorder.map info).map fun info => info.id.value.toNat := by
  rw [List.map_map]
  rfl

/-- A tree keeps its numbers whatever it goes through. -/
theorem numbers_of_pristine (built : other.pristine = node.pristine) :
    other.numbers = node.numbers := by
  rw [numbers_eq_infos, numbers_eq_infos, infos_of_pristine built]

/-- A tree is numbered if its preorder bears the numbers from zero on. -/
def Numbered (node : Node A) : Prop := node.numbers = List.range node.preorder.length

/-- A numbered tree stays numbered. -/
theorem Numbered.of_pristine (numbered : node.Numbered) (built : other.pristine = node.pristine) :
    other.Numbered := by
  rw [Numbered, numbers_of_pristine built, length_preorder_of_pristine built]
  exact numbered

/-- Numbering from zero makes a numbered tree, unless it has too many nodes. -/
theorem numbered_number (node : Node A) (few : node.preorder.length < UInt32.size) :
    (node.number.run 0).1.Numbered := by
  obtain ⟨numbers, _⟩ := node.numbers_number 0 (by simpa using few)
  rw [Numbered, numbers, length_preorder_number, List.range_eq_range']
  rfl

end Node

namespace Tree

variable {tree changed : Tree A D} {before after : Stage A D} {trace : Trace A}

/-- No order changes what the root is built of. -/
theorem pristine_of_obey {order : Order D} {result : Except Panic (Option Status)}
    (obeys : (tree.obey order).Leads before trace ⟨changed, result⟩ after) :
    changed.root.pristine = tree.root.pristine := by
  cases order with
  | tick deltaTime =>
      obtain ⟨⟨_, _⟩, ticks, rfl, rfl⟩ := Run.leads_bind_attempt.1 obeys
      obtain ⟨_, evolves, _⟩ := Host.evolves_of_tick ticks
      exact evolves.pristine
  | reset =>
      obtain ⟨_, renewed, rfl, rfl⟩ := Run.leads_bind_attempt.1 obeys
      obtain ⟨_, resets, rfl⟩ := Run.leads_bind_pure.1 renewed
      rw [Node.cleared_of_reset resets]
      exact tree.root.pristine_cleared
  | abort =>
      obtain ⟨⟨_, _⟩, stopped, rfl, rfl⟩ := Run.leads_bind_attempt.1 obeys
      obtain ⟨⟨_, _⟩, aborts, rfl, rfl⟩ := Run.leads_bind_attempt.1 stopped
      exact Node.Undergoes.pristine (.aborted aborts)
  | setSink | clearSink =>
      obtain ⟨rfl, _⟩ := Run.leads_attempt.1 obeys
      rfl

/-- All marks of a tick of a tree are those of its root. -/
theorem marks_of_tick {deltaTime : Float32} {status : Status}
    (ticks : (tree.tick deltaTime).Leads before trace ⟨changed, .ok status⟩ after) :
    ∃ root part middle, (tree.root.tick (tree.context (tree.settings.clamp deltaTime))).Leads before
      part ⟨root, .ok status⟩ middle ∧ trace.marks = part.marks := by
  obtain ⟨⟨root, returned⟩, middle, part, _, ticked, ended, rfl⟩ := Run.leads_bind.1 ticks
  match returned with
  | .error _ =>
      obtain ⟨_, contrary, _⟩ := Run.leads_attempt.1 ended
      cases contrary
  | .ok final =>
      obtain ⟨_, _, _, _, wrote, followed, rfl⟩ := Run.leads_bind.1 ended
      obtain ⟨rfl, rfl⟩ := Run.leads_write.1 wrote
      dsimp only at followed
      split at followed
      case isTrue =>
        obtain ⟨_, resets, _, same⟩ := Run.leads_bind_attempt.1 followed
        cases same
        refine ⟨root, part, _, ticked, ?_⟩
        rw [Trace.marks_append, Trace.marks_append, Node.marks_of_reset resets]
        exact List.append_nil _
      case isFalse =>
        obtain ⟨_, same, rfl, _⟩ := Run.leads_attempt.1 followed
        cases same
        refine ⟨root, part, _, ticked, ?_⟩
        rw [Trace.marks_append]
        exact List.append_nil _

end Tree

/-- The root of a planted tree keeps the numbers that it has got when it was planted. -/
theorem Host.History.numbered {root : Node A} {host : Host A D} {past : Trace A}
    {adds : Node A → Prop} {ends : Except Panic (Option Status) → Prop}
    (history : (Host.bare (D := D) root).History adds ends past host) :
    ∀ tree, host = .planted tree → tree.root.preorder.length < UInt32.size →
      tree.root.Numbered := by
  induction history with
  | start => exact fun _ bare => nomatch bare
  | step _ steps _ inductionHypothesis =>
      intro tree planted few
      cases steps with
      | ticked | reset | aborted | extended => cases planted
      | planted builds =>
          cases planted
          obtain rfl := Tree.eq_of_build builds
          exact Node.numbered_number _ (by rwa [Node.length_preorder_number] at few)
      | obeyed obeys =>
          cases planted
          have built := Tree.pristine_of_obey obeys
          rw [Node.length_preorder_of_pristine built] at few
          exact (inductionHypothesis _ rfl few).of_pristine built

/-- The notice that a mark is, unless it is a use. -/
def Mark.notice? : Mark A → Option Notice
  | told notice => some notice
  | used _ => none

/-- The notices among some marks, in their order. -/
def tellings (marks : List (Mark A)) : List Notice := marks.filterMap Mark.notice?

/-- The marks of a trace tell its notices. -/
theorem Trace.tellings_marks (trace : Trace A) : tellings trace.marks = trace.told := by
  rw [tellings, marks, told, notices, List.filterMap_filterMap, List.map_filterMap]
  apply List.filterMap_congr
  intro entry _
  cases entry.event with
  | notice | output | cleared => rfl
  | call call => cases call <;> rfl

/-- Whatever has been done to a tree of fewer than 2³² nodes, what a tick that returns tells its sink
is one phrase of the root with the current frame, and the nodes that it enters have ever larger
numbers, from zero on. The sink of the tree hears the notices of this phrase in their order, and
nothing else. -/
theorem Tree.tells_phrase_in_order {root : Node A} {tree changed : Tree A D} {past trace : Trace A}
    {adds : Node A → Prop} {ends : Except Panic (Option Status) → Prop} {deltaTime : Float32}
    {status : Status} {before after : Stage A D}
    (history : (Host.bare (D := D) root).History adds ends past (.planted tree))
    (few : tree.root.preorder.length < 2 ^ 32)
    (ticks : (tree.tick deltaTime).Leads before trace ⟨changed, .ok status⟩ after) :
    tree.root.Phrase ⟨tree.settings.clamp deltaTime, tree.frame⟩ trace.marks ∧
      ((entries trace.marks).map fun node => node.id.value.toNat).Pairwise (· < ·) ∧
      ((entries trace.marks).map fun node => node.id.value.toNat).head? = some 0 ∧
      after.debugger = Sink.hearAll tree.sink (tellings trace.marks) before.debugger := by
  obtain ⟨_, _, _, ticked, marks⟩ := marks_of_tick ticks
  have phrase := Node.phrase_of_tick rfl ticked
  rw [← marks] at phrase
  have numbered : tree.root.Numbered := history.numbered tree rfl few
  have sublist := phrase.entries_sublist.2.map fun node => node.id.value.toNat
  rw [← Node.numbers_eq_infos, numbered] at sublist
  refine ⟨phrase, List.pairwise_lt_range.sublist sublist, ?first, ?heard⟩
  case first =>
    rw [List.head?_map, phrase.entries_sublist.1, Option.map_some]
    have first := congrArg List.head? numbered
    have nonempty : tree.root.preorder.length ≠ 0 := by
      rw [Node.preorder_eq_cons, List.length_cons]
      exact Nat.succ_ne_zero _
    rw [Node.numbers_eq, List.head?_cons, List.head?_range, if_neg nonempty] at first
    exact first
  case heard =>
    rw [Trace.tellings_marks]
    exact ((tree.carried_tick deltaTime).of_leads ticks).heard

namespace Tree

/-- The sample root in a tree with a sink of its own. -/
def watched : Tree Sample.agent Unit :=
  ⟨"main", (Sample.root.number.run 0).1, .standard, 0, some .silent⟩

/-- The same tree with a sink that collects notices. -/
def overheard : Tree Sample.agent (List Notice) :=
  ⟨"main", (Sample.root.number.run 0).1, .standard, 0, some .collecting⟩

/-- The sample root is planted, and then a sink is set. -/
theorem history_supplied (sink : Sink D) (stage : Stage Sample.agent D) : ∃ past,
    (Host.bare (D := D) Sample.root).History Node.Built Host.Calm past
      (.planted ⟨"main", (Sample.root.number.run 0).1, .standard, 0, some sink⟩) := by
  obtain ⟨_, builds⟩ : ∃ trace, (build (D := D) Sample.root .standard).Leads stage trace
      (.ok ⟨"main", (Sample.root.number.run 0).1, .standard, 0, none⟩) stage := ⟨_, rfl⟩
  have obeys : (Tree.obey ⟨"main", (Sample.root.number.run 0).1, .standard, 0, none⟩
      (.setSink sink)).Leads stage [] ⟨⟨"main", (Sample.root.number.run 0).1, .standard, 0, some sink⟩,
        .ok none⟩ stage := rfl
  refine ⟨_, .step (.step .start (.planted builds) ?_) (.obeyed obeys) ?_⟩ <;> exact Host.calm_ok none

theorem history_watched : ∃ past,
    (Host.bare (D := Unit) Sample.root).History Node.Built Host.Calm past (.planted watched) :=
  history_supplied .silent ⟨true, ()⟩

/-- The sample root is entered before the operation below it, and a sink that collects notices has heard
the whole phrase. -/
theorem watched_tells_phrase_in_order :
    (entries (overheard.tick 0 ⟨true, []⟩).trace.marks).map (fun node => node.id.value.toNat) = [0, 1] ∧
      overheard.root.Phrase ⟨overheard.settings.clamp 0, 0⟩ (overheard.tick 0 ⟨true, []⟩).trace.marks ∧
      (overheard.tick 0 ⟨true, []⟩).stage.debugger =
        tellings (overheard.tick 0 ⟨true, []⟩).trace.marks ∧
      (overheard.tick 0 ⟨true, []⟩).stage.debugger.length = 5 := by
  obtain ⟨_, history⟩ := history_supplied .collecting ⟨true, []⟩
  obtain ⟨changed, returned⟩ :
      ∃ changed, (overheard.tick 0 ⟨true, []⟩).value = ⟨changed, .ok .running⟩ := ⟨_, rfl⟩
  have ticks := Run.leads_self (overheard.tick 0) ⟨true, []⟩
  rw [returned] at ticks
  obtain ⟨phrase, _, _, heard⟩ := tells_phrase_in_order history (by decide) ticks
  refine ⟨rfl, phrase, ?_, rfl⟩
  rw [heard]
  exact Sink.hearAll_collecting _ []

end Tree

end Behavior
