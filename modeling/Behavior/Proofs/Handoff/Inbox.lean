import Behavior.Proofs.Handoff.Workplace
import Behavior.Scenario.Script

namespace Behavior.Scenario

/-- How often the completion with a number is kept in an inbox. -/
def kept (inbox : List (String × List (Option Nat))) (number : Nat) : Nat :=
  (inbox.flatMap Prod.snd).count (some number)

/-- A list of slots adds as many senders of a channel as it holds. -/
theorem kept_cons (name : String) (slots : List (Option Nat))
    (rest : List (String × List (Option Nat))) (number : Nat) :
    kept ((name, slots) :: rest) number = slots.count (some number) + kept rest number := by
  rw [kept, List.flatMap_cons, List.count_append]
  rfl

/-- What is kept under a key and what is kept under others is in the inbox. -/
theorem kept_lookup (inbox : List (String × List (Option Nat))) (key : String) (number : Nat) :
    ((inbox.lookup key).getD []).count (some number) +
      kept (inbox.filter fun entry => entry.1 != key) number ≤ kept inbox number := by
  induction inbox with
  | nil => simp [kept]
  | cons entry rest inductionHypothesis =>
      obtain ⟨name, slots⟩ := entry
      by_cases same : name = key
      · subst same
        have found : ((name, slots) :: rest).lookup name = some slots := List.lookup_cons_self
        have others : ((name, slots) :: rest).filter (fun entry => entry.1 != name) =
            rest.filter fun entry => entry.1 != name := by simp
        rw [found, others, kept_cons, Option.getD_some]
        omega
      · have found : ((name, slots) :: rest).lookup key = rest.lookup key := by
          rw [List.lookup_cons, beq_false_of_ne (Ne.symm same)]
        have others : ((name, slots) :: rest).filter (fun entry => entry.1 != key) =
            (name, slots) :: rest.filter fun entry => entry.1 != key := by simp [same]
        rw [found, others, kept_cons, kept_cons]
        omega

namespace Blackboard

variable {board : Blackboard} {key : String} {slots rest : List (Option Nat)} {number : Nat}

/-- The latest completion is no longer kept. -/
theorem count_takeLatest (taken : takeLatest slots = some (number, rest)) (other : Nat) :
    slots.count (some other) = rest.count (some other) + if other = number then 1 else 0 := by
  induction slots generalizing rest with
  | nil => cases taken
  | cons slot slots inductionHypothesis =>
      unfold takeLatest at taken
      split at taken
      next found =>
        cases taken
        rw [List.count_cons, List.count_cons, inductionHypothesis found]
        omega
      next =>
        cases taken
        by_cases same : other = number
        · simp [same]
        · simp [same, Ne.symm same]
      next => cases taken

/-- The slots of a key are replaced as a whole. -/
theorem kept_setSlots (board : Blackboard) (key : String) (slots : List (Option Nat)) (number : Nat) :
    kept (board.setSlots key slots).inbox number =
      slots.count (some number) + kept (board.inbox.filter fun entry => entry.1 != key) number :=
  kept_cons _ _ _ _

/-- The books of a blackboard are sound if each completion that it keeps is held and is kept once. -/
structure Sound (board : Blackboard) : Prop where
  single : ∀ number, kept board.inbox number ≤ 1
  held : ∀ number, 0 < kept board.inbox number →
    ∃ channel, board.channels.toList[number]? = some channel ∧ channel.Held

/-- What is done with a blackboard is fair if its books stay sound and completions are only handled. -/
def Fair (before after : Blackboard) : Prop :=
  before.Sound → after.Sound ∧ Handled before.channels.toList after.channels.toList

variable {before middle after : Blackboard} {channel next : Channel} {success : Bool}

/-- Fair steps compose. -/
theorem Fair.trans (first : Fair before middle) (second : Fair middle after) : Fair before after := by
  intro sound
  obtain ⟨kept, handled⟩ := first sound
  obtain ⟨sound, more⟩ := second kept
  exact ⟨sound, handled.trans more⟩

/-- To leave channels and inbox alone is fair. -/
theorem fair_of_eq (channels : after.channels = before.channels) (inbox : after.inbox = before.inbox) :
    Fair before after := by
  intro sound
  rw [channels]
  refine ⟨⟨?_, ?_⟩, Handled.refl _⟩
  · rw [inbox]
    exact sound.single
  · rw [inbox, channels]
    exact sound.held

theorem getD_channels (board : Blackboard) (number : Nat) :
    board.channels.toList.getD number .fresh = board.channel number := by
  simp [Blackboard.channel]

/-- A channel that is present is found by its number. -/
theorem channel_of_present (present : board.channels.toList[number]? = some channel) :
    board.channel number = channel := by
  rw [← getD_channels, List.getD_eq_getElem?_getD, present]
  rfl

/-- A channel is replaced in its place. -/
theorem channels_setChannel (board : Blackboard) (number : Nat) (next : Channel) :
    (board.setChannel number next).channels.toList = board.channels.toList.set number next := by
  simp [setChannel]

/-- A new channel comes last. -/
theorem channels_openChannel (board : Blackboard) (key : String) :
    (board.openChannel key).2.channels.toList = board.channels.toList ++ [.fresh] :=
  Array.toList_push

/-- Books stay sound if nothing new is kept and what is kept still is held. -/
theorem Sound.mono (sound : board.Sound)
    (less : ∀ number, kept after.inbox number ≤ kept board.inbox number)
    (stays : ∀ number channel, 0 < kept after.inbox number →
      board.channels.toList[number]? = some channel → channel.Held →
        ∃ next, after.channels.toList[number]? = some next ∧ next.Held) : after.Sound where
  single number := Nat.le_trans (less number) (sound.single number)
  held number owes := by
    obtain ⟨channel, present, held⟩ := sound.held number (Nat.lt_of_lt_of_le owes (less number))
    exact stays number channel owes present held

/-- A sound board stays sound if the channel is still held in case it was. -/
theorem Sound.setChannel (sound : board.Sound)
    (stays : (board.channel number).Held → next.Held) : (board.setChannel number next).Sound := by
  refine sound.mono (fun _ => Nat.le_refl _) fun other channel _ present held => ?_
  rw [channels_setChannel]
  by_cases same : number = other
  · subst same
    rw [channel_of_present present] at stays
    exact ⟨next, List.getElem?_set_self (List.getElem?_eq_some_iff.1 present).1, stays held⟩
  · exact ⟨channel, by rw [List.getElem?_set_ne same, present], held⟩

/-- The latest completion of a key is held, and it can be used up. -/
theorem Sound.takeLatest (sound : board.Sound)
    (taken : takeLatest (board.slots key) = some (number, rest)) (next : Channel) :
    board.channels.toList[number]? = some (board.channel number) ∧ (board.channel number).Held ∧
      ((board.setChannel number next).setSlots key rest).Sound := by
  have count (other : Nat) : kept ((board.setChannel number next).setSlots key rest).inbox other +
      (if other = number then 1 else 0) ≤ kept board.inbox other := by
    have split := kept_lookup board.inbox key other
    have fewer := count_takeLatest taken other
    unfold slots at fewer
    have set := kept_setSlots (board.setChannel number next) key rest other
    change _ = _ + kept (board.inbox.filter fun entry => entry.1 != key) other at set
    omega
  have mine := count number
  rw [if_pos rfl] at mine
  obtain ⟨channel, present, held⟩ := sound.held number (by omega)
  rw [channel_of_present present]
  refine ⟨present, held, sound.mono (fun other => ?_) fun other channel owes there holds => ?_⟩
  · exact Nat.le_trans (Nat.le_add_right _ _) (count other)
  · have different : number ≠ other := by
      rintro rfl
      have single := sound.single number
      omega
    have listed := channels_setChannel board number next
    exact ⟨channel, (congrArg (·[other]?) listed).trans
      ((List.getElem?_set_ne different).trans there), holds⟩

/-- The completion of a new channel is held, and its number is new. -/
theorem Sound.openChannel (sound : board.Sound) (key : String) : (board.openChannel key).2.Sound := by
  have count (number : Nat) : kept (board.openChannel key).2.inbox number ≤
      kept board.inbox number + if number = board.channels.size then 1 else 0 := by
    have split := kept_lookup board.inbox key number
    have set : kept (board.openChannel key).2.inbox number =
        (board.slots key ++ [some board.channels.size]).count (some number) +
          kept (board.inbox.filter fun entry => entry.1 != key) number := kept_setSlots _ key _ number
    have one : [some board.channels.size].count (some number) =
        if number = board.channels.size then 1 else 0 := by
      by_cases same : number = board.channels.size
      · simp [same]
      · simp [same, Ne.symm same]
    unfold slots at set
    rw [List.count_append, one] at set
    omega
  have old (number : Nat) (owes : 0 < kept board.inbox number) : number < board.channels.size := by
    obtain ⟨_, present, _⟩ := sound.held number owes
    exact (List.getElem?_eq_some_iff.1 present).1
  refine ⟨fun number => ?_, fun number owes => ?_⟩ <;> have here := count number
  · have single := sound.single number
    have before := old number
    split at here <;> omega
  · rw [channels_openChannel]
    split at here
    next new =>
      subst new
      exact ⟨.fresh, List.getElem?_concat_length, rfl⟩
    next =>
      obtain ⟨channel, present, held⟩ := sound.held number (by omega)
      have inside := (List.getElem?_eq_some_iff.1 present).1
      exact ⟨channel, (List.getElem?_append_left inside).trans present, held⟩

/-- To complete the latest operation of a key is fair. -/
theorem fair_complete (board : Blackboard) (key : String) (success : Bool) :
    Fair board (board.complete key success).2 := by
  intro sound
  unfold complete
  split
  next number slots taken =>
    obtain ⟨present, held, sound⟩ :=
      sound.takeLatest taken ((board.channel number).complete success).2
    refine ⟨sound, ?_⟩
    change Handled _ (board.setChannel _ _).channels.toList
    rw [channels_setChannel]
    exact Handled.set present (.completed held success)
  next => exact ⟨sound, Handled.refl _⟩

/-- Flags concern no channel. -/
theorem fair_setFlags (effects : List Effect) (board : Blackboard) :
    Fair board (effects.foldl (fun board effect => board.setFlag effect.flag effect.value) board) := by
  induction effects generalizing board with
  | nil => exact fair_of_eq rfl rfl
  | cons effect rest inductionHypothesis =>
      have first : Fair board (board.setFlag effect.flag effect.value) := fair_of_eq rfl rfl
      exact first.trans (inductionHypothesis _)

/-- To send a list of results is fair. -/
theorem fair_sendAll (sends : List (String × Bool)) (board : Blackboard) :
    Fair board (sendAll board sends).2 := by
  induction sends generalizing board with
  | nil => exact fair_of_eq rfl rfl
  | cons send rest inductionHypothesis =>
      exact (fair_complete board send.1 send.2).trans (inductionHypothesis _)

/-- Predicates handle channels fairly. -/
theorem fair_test (predicate : Scripted PredicatePlan) (board : Blackboard) :
    Fair board (test predicate board).state := by
  unfold test
  split
  · exact fair_of_eq rfl rfl
  · exact fair_of_eq rfl rfl
  · dsimp only
    split <;> exact fair_of_eq rfl rfl

/-- Actions handle channels fairly. -/
theorem fair_act (action : Scripted ActionPlan) (clock : Clock) (board : Blackboard) :
    Fair board (act action clock board).state := by
  obtain ⟨⟨name, source, effects, sends⟩, slot⟩ := action
  have rest (outcome : Option Status) (counted : Blackboard) (same : Fair board counted) :=
    (same.trans (fair_setFlags (effects.filter (Effect.applies · outcome)) counted)).trans
      (fair_sendAll sends _)
  cases source with
  | key key => exact rest (some (board.status key)) board (fair_of_eq rfl rfl)
  | script script =>
      have same : Fair board (board.count slot).2 := fair_of_eq rfl rfl
      exact rest (script.entry (board.count slot).1) _ same

end Blackboard

/-- The channel that an operation waits for. -/
def Operation.line? : Operation → Option Nat
  | .channel number => some number
  | .counted _ _ _ => none

/-- A poll does not use up the completion. -/
theorem held_poll {channel : Channel} (held : channel.Held) : channel.poll.2.Held := by
  unfold Channel.Held at held ⊢
  unfold Channel.poll
  rw [held]
  split
  · exact held
  · dsimp only
    split
    · rfl
    · exact held

section

variable {board : Blackboard}

/-- A call that a blackboard answers for a switchboard keeps its books sound. -/
structure Answers (board : Blackboard) (call : Call scripted) (after : Blackboard) : Prop where
  sound : after.Sound
  answers : Call.Answers Operation.line? board.channels.toList call after.channels.toList

/-- A call without an operation answers for itself if it is fair. -/
theorem answers_of_fair {after : Blackboard} {call : Call scripted} (sound : board.Sound)
    (fair : board.Fair after) (apart : call.operation?.bind Operation.line? = none) :
    Answers board call after :=
  ⟨(fair sound).1, .apart apart (fair sound).2⟩

/-- A starter opens the line of its operation. -/
theorem answers_start (starter : Scripted StarterPlan) (sound : board.Sound) :
    Answers board (.started starter (start starter board).value) (start starter board).state := by
  obtain ⟨⟨name, source⟩, slot⟩ := starter
  cases source with
  | channel =>
      refine ⟨sound.openChannel name, ?_⟩
      have line : (Operation.channel board.channels.size).line? = some board.channels.toList.length :=
        congrArg some Array.length_toList.symm
      change Call.Answers (A := scripted) _ _ (.started _ (.ok (Operation.channel board.channels.size)))
        (board.openChannel name).2.channels.toList
      rw [Blackboard.channels_openChannel]
      exact .opened (Handled.refl _) line (.kept _)
  | counted polls results =>
      refine answers_of_fair sound ?_ ?_ <;> unfold start <;> dsimp only <;> split
      · exact Blackboard.fair_of_eq rfl rfl
      · exact Blackboard.fair_of_eq rfl rfl
      · rfl
      · rfl

/-- A poll takes what the channel of its operation holds. -/
theorem answers_poll (operation : Operation) (sound : board.Sound) :
    Answers board (.polled operation (poll operation board).value) (poll operation board).state := by
  cases operation with
  | channel number =>
      refine ⟨sound.setChannel held_poll, ?_⟩
      unfold poll
      dsimp only
      rw [Blackboard.channels_setChannel]
      refine .polled rfl ?_
      rw [Blackboard.getD_channels]
  | counted => exact answers_of_fair sound (Blackboard.fair_of_eq rfl rfl) rfl

/-- A result is taken from the channel of its operation. -/
theorem answers_take (operation : Operation) (sound : board.Sound) :
    Answers board (.taken operation (take operation board).value) (take operation board).state := by
  cases operation with
  | channel number =>
      refine ⟨sound.setChannel id, ?_⟩
      unfold take
      dsimp only
      rw [Blackboard.channels_setChannel]
      refine .taken rfl ?_
      rw [Blackboard.getD_channels]
  | counted => exact answers_of_fair sound (Blackboard.fair_of_eq rfl rfl) rfl

/-- A cancellation closes the channel of its operation. -/
theorem answers_cancel (operation : Operation) (sound : board.Sound) :
    Answers board (.cancelled operation) (cancel operation board).state := by
  cases operation with
  | channel number =>
      refine ⟨sound.setChannel id, ?_⟩
      unfold cancel release
      dsimp only
      rw [Blackboard.channels_setChannel, ← Blackboard.getD_channels]
      exact .cancelled rfl
  | counted => exact answers_of_fair sound (Blackboard.fair_of_eq rfl rfl) rfl

/-- Whatever a sound board is called for, it answers as channels do. -/
theorem answers {Value : Type} {reply : scripted.State → Reply scripted.State Value}
    {describe : Value → Call scripted} (offers : scripted.Offers reply describe) (sound : board.Sound) :
    Answers board (describe (reply board).value) (reply board).state := by
  cases offers with
  | test predicate => exact answers_of_fair sound (Blackboard.fair_test predicate board) rfl
  | act action clock => exact answers_of_fair sound (Blackboard.fair_act action clock board) rfl
  | start starter => exact answers_start starter sound
  | poll operation => exact answers_poll operation sound
  | take operation => exact answers_take operation sound
  | cancel operation => exact answers_cancel operation sound

end

/-- The blackboard is the switchboard of its scripted agent. -/
def switchboard : scripted.Switchboard where
  Sound := Blackboard.Sound
  channels board := board.channels.toList
  line? := Operation.line?
  sound offers _ sound := (answers offers sound).sound
  answers offers _ sound := (answers offers sound).answers

section

variable {D : Type} {tree : Tree scripted D} {stage : Stage scripted D} {key : String} {number : Nat}
  {rest : List (Option Nat)}

/-- The latest sender of a key owes its channel a result. -/
theorem owes_of_takeLatest (sound : Blackboard.Sound stage.agent)
    (taken : Blackboard.takeLatest (Blackboard.slots stage.agent key) = some (number, rest)) :
    Workplace.Owes switchboard ⟨tree, stage⟩ number (Blackboard.channel stage.agent number) :=
  have ⟨present, held, _⟩ := sound.takeLatest taken .fresh
  ⟨present, held⟩

/-- To complete the latest completion of a key is a move. -/
theorem steps_complete (sound : Blackboard.Sound stage.agent)
    (taken : Blackboard.takeLatest (Blackboard.slots stage.agent key) = some (number, rest))
    (success : Bool) :
    Workplace.Steps switchboard ⟨tree, stage⟩
      (.completed number success ((Blackboard.channel stage.agent number).complete success).1) []
      ⟨tree, { stage with agent := (Blackboard.complete stage.agent key success).2 }⟩ := by
  refine .completed success (owes_of_takeLatest sound taken) ?_ ?_
  · exact (Blackboard.fair_complete stage.agent key success sound).1
  · unfold Blackboard.complete
    rw [taken]
    exact Blackboard.channels_setChannel _ _ _

/-- To drop the latest completion of a key is a move. -/
theorem steps_drop (sound : Blackboard.Sound stage.agent)
    (taken : Blackboard.takeLatest (Blackboard.slots stage.agent key) = some (number, rest)) :
    Workplace.Steps switchboard ⟨tree, stage⟩ (.dropped number) []
      ⟨tree, { stage with agent := (Blackboard.drop stage.agent key).2 }⟩ := by
  refine .dropped (owes_of_takeLatest sound taken) ?_ ?_ <;> unfold Blackboard.drop <;> rw [taken]
  · exact (sound.takeLatest taken _).2.2
  · exact Blackboard.channels_setChannel _ _ _

/-- To ask a completion of a key whether it is cancelled is a move. -/
theorem steps_cancelled (sound : Blackboard.Sound stage.agent)
    (member : some number ∈ Blackboard.slots stage.agent key) :
    Workplace.Steps switchboard ⟨tree, stage⟩
      (.asked number (Blackboard.channel stage.agent number).isCancelled) [] ⟨tree, stage⟩ := by
  have some : 0 < (Blackboard.slots stage.agent key).count (some number) :=
    List.count_pos_iff.2 member
  have split := kept_lookup (Blackboard.inbox stage.agent) key number
  unfold Blackboard.slots at some
  obtain ⟨channel, present, held⟩ := sound.held number (by omega)
  rw [Blackboard.channel_of_present present]
  exact .asked ⟨present, held⟩

end

end Behavior.Scenario
