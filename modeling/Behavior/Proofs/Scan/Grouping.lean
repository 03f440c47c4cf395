import Behavior.Proofs.Dual.Loops
import Behavior.Proofs.Scan.Resumption

namespace Behavior

variable {A : Agent} {D E : Type}

/-- Nodes resemble each other if they are the same but for their numbers. -/
abbrev Node.Resembles (node other : Node A) : Prop := node.unnumbered = other.unnumbered

namespace Composite

variable {context : Context D} {counter : Context E} {skip status : Status}
  {running inside resumed : Option Nat} {own group : Composite} {nodes others : List (Node A)}

/-- A composite that resumes ticks by a scan, and goes on passing over the same status. -/
theorem tick_of_resumption (resuming : own.resumption? = some (skip, running)) :
    ∃ again : Option Nat → Composite, (∀ next, (again next).resumption? = some (skip, next)) ∧
      ∀ {A : Agent} {D : Type} (context : Context D) (arms : List (Arm A D)),
        own.tick context arms = resume context again skip running arms := by
  cases own with
  | selector | sequence =>
      cases resuming
      exact ⟨_, fun _ => rfl, fun _ _ => rfl⟩
  | parallel | reactiveSelector | reactiveSequence => cases resuming

/-- A composite that resumes forgets its position when it is reset. -/
theorem forget_of_resumption (resuming : own.resumption? = some (skip, running)) :
    own.forget.resumption? = some (skip, none) := by
  cases own with
  | selector | sequence =>
      cases resuming
      rfl
  | parallel | reactiveSelector | reactiveSequence => cases resuming

/-- A scan of two lists scans the second only when it has passed over the first. -/
theorem scan_append (start : Nat) (first second : List (Arm A D)) :
    scan skip context start (first ++ second) = (do
      let scanned ← scan skip context start first
      match scanned.result with
      | .ok none => do
          let rest ← scan skip context (start + first.length) second
          pure ⟨scanned.after ++ rest.after, rest.result⟩
      | .ok (some stop) => pure ⟨scanned.after ++ second.map Part.node, .ok (some stop)⟩
      | .error panic => pure ⟨scanned.after ++ second.map Part.node, .error panic⟩) := by
  induction first generalizing start with
  | nil => simp [scan]
  | cons arm rest inductionHypothesis =>
      rw [List.cons_append, scan, scan, bind_assoc]
      refine congrArg _ (funext fun ticked => ?_)
      have next : start + (arm :: rest).length = start + 1 + rest.length := by
        rw [List.length_cons]
        omega
      match ticked.result with
      | .error panic => simp
      | .ok status =>
          dsimp only
          split
          · rw [inductionHypothesis, bind_assoc, bind_assoc, next]
            refine congrArg _ (funext fun scanned => ?_)
            match scanned.result with
            | .error panic | .ok none | .ok (some stop) => simp
          · simp

/-- Scans keep pace if both panic, if both pass over all of their children, or if both stop at the
same child with the same status, wherever the children stand. -/
inductive KeepsPace (skip : Status) (start begin count : Nat) :
    Attempt (List (Node A)) (Option Stop) → Attempt (List (Node A)) (Option Stop) → Prop
  | unwound {nodes others : List (Node A)} (panic : Panic) :
      KeepsPace skip start begin count ⟨nodes, .error panic⟩ ⟨others, .error panic⟩
  | exhausted {nodes others : List (Node A)} (alike : List.Forall₂ Node.Resembles nodes others)
      (length : nodes.length = count) :
      KeepsPace skip start begin count ⟨nodes, .ok none⟩ ⟨others, .ok none⟩
  | stopped {nodes others : List (Node A)} {offset : Nat} {status : Status}
      (alike : List.Forall₂ Node.Resembles nodes others) (length : nodes.length = count)
      (inside : offset < count) (stops : status ≠ skip) :
      KeepsPace skip start begin count ⟨nodes, .ok (some (start + offset, status))⟩
        ⟨others, .ok (some (begin + offset, status))⟩

/-- A child that both scans have passed over does not change their pace. -/
theorem KeepsPace.cons {start begin count : Nat} {node other : Node A}
    {first second : Attempt (List (Node A)) (Option Stop)}
    (pace : KeepsPace skip (start + 1) (begin + 1) count first second)
    (alike : node.Resembles other) :
    KeepsPace skip start begin (count + 1) ⟨node :: first.after, first.result⟩
      ⟨other :: second.after, second.result⟩ := by
  cases pace with
  | unwound panic => exact .unwound panic
  | exhausted below length => exact .exhausted (.cons alike below) (congrArg (· + 1) length)
  | @stopped _ _ offset _ below length inside stops =>
      rw [Nat.add_right_comm start, Nat.add_right_comm begin]
      exact .stopped (.cons alike below) (congrArg (· + 1) length) (Nat.succ_lt_succ inside) stops

/-- Scans of the same children keep pace with each other, wherever they start to count. -/
theorem echoes_pace (parallel : context.Parallel counter)
    (alike : List.Forall₂ Node.Resembles nodes others) (start begin : Nat) :
    Run.Echoes (KeepsPace skip start begin nodes.length)
      (scan skip context start (nodes.map Node.arm))
      (scan skip counter begin (others.map Node.arm)) := by
  induction alike generalizing start begin with
  | nil => exact Run.echoes_pure (.exhausted .nil rfl)
  | @cons node other nodes others first rest inductionHypothesis =>
      have ticks : Run.Echoes (Attempt.Agree Node.Resembles) (node.tick (context.child start))
          (other.tick (counter.child begin)) := echoes.tick (parallel.child start begin) first
      refine ticks.bind ?_
      rintro ⟨after, result⟩ ⟨twin, _⟩ ⟨ticked, rfl⟩
      match result with
      | .error panic => exact Run.echoes_pure (.unwound panic)
      | .ok status =>
          dsimp only
          split
          · refine (inductionHypothesis (start + 1) (begin + 1)).bind fun _ _ pace => ?_
            exact Run.echoes_pure (pace.cons ticked)
          · rename_i stops
            rw [map_node_arm, map_node_arm]
            have here : KeepsPace skip start begin (nodes.length + 1)
                ⟨after :: nodes, .ok (some (start + 0, status))⟩
                ⟨twin :: others, .ok (some (begin + 0, status))⟩ :=
              .stopped (.cons ticked rest) rfl (Nat.succ_pos _) stops
            exact Run.echoes_pure here

/-- A tick has resumed a scan if it gives the status of the scan and remembers where it has stopped. -/
structure Resumed (skip : Status) (seen : List (Node A))
    (scanned : Attempt (List (Node A)) (Option Stop)) (ticked : Attempt (Node A) Status) : Prop where
  result : ticked.result = scanned.result.map (statusOf skip)
  after : ∀ stop, scanned.result = .ok stop → ∃ tag next,
    ticked.after = ⟨tag, .composite next (seen ++ scanned.after)⟩ ∧
      next.resumption? = some (skip, runningOf stop)

/-- In a harmless context the tick of a composite that resumes is its scan. -/
theorem echoes_resumed (tag : Tag) {Value : Type}
    {Related : Attempt (List (Node A)) (Option Stop) → Value → Prop} {seen rest : List (Node A)}
    {position : Nat} {other : Run A E Value} (harmless : context.Harmless)
    (resuming : own.resumption? = some (skip, running)) (length : seen.length = position)
    (start : running.getD 0 = position)
    (scans : Run.Echoes Related (scan skip context position (rest.map Node.arm)) other) :
    Run.Echoes
      (fun ticked value => ∃ scanned, Resumed skip seen scanned ticked ∧ Related scanned value)
      (Node.tick ⟨tag, .composite own (seen ++ rest)⟩ context) other := by
  obtain ⟨again, remembers, ticks⟩ := tick_of_resumption resuming
  have inside : ¬ ((seen ++ rest).map (Node.arm (D := D))).length < running.getD 0 := by
    rw [start, List.length_map, List.length_append]
    omega
  have before : (seen.map (Node.arm (D := D))).length = position := by rw [List.length_map, length]
  refine Node.echoes_work tag harmless fun info => ?_
  change Run.Echoes _ (own.tick context ((seen ++ rest).map Node.arm) >>= fun ticked =>
    pure (ticked.map fun after => Body.composite after.1 after.2)) other
  rw [ticks, resume, if_neg inside, start, List.map_append, List.drop_left' before,
    List.take_left' before, map_node_arm, ← bind_pure other]
  dsimp only
  rw [bind_assoc]
  refine scans.bind ?_
  rintro ⟨nodes, result⟩ value related
  cases result with
  | error panic =>
      dsimp only
      rw [pure_bind]
      exact Run.echoes_pure ⟨⟨nodes, .error panic⟩, ⟨rfl, nofun⟩, related⟩
  | ok stop =>
      dsimp only
      rw [pure_bind]
      refine Run.echoes_pure ⟨⟨nodes, .ok stop⟩, ⟨rfl, ?_⟩, related⟩
      rintro _ ⟨⟩
      exact ⟨_, _, rfl, remembers _⟩

/-- The running positions of a composite and of the group in it belong to one running position of the
composite without the group. -/
inductive Nests (before inner after : Nat) : Option Nat → Option Nat → Option Nat → Prop
  | idle : Nests before inner after none none none
  | front {position : Nat} (inside : position < before) :
      Nests before inner after (some position) none (some position)
  | group {position : Nat} (inside : position < inner) :
      Nests before inner after (some before) (some position) (some (before + position))
  | back {position : Nat} (inside : position < after) :
      Nests before inner after (some (before + 1 + position)) none (some (before + inner + position))

/-- Stops at positions that belong together are remembered together, or not at all. -/
theorem Nests.stop {before inner after position final : Nat}
    (nests : Nests before inner after (some position) inside (some final)) (status : Status) :
    Nests before inner after (runningOf (some (position, status)))
      (inside.bind fun position => runningOf (some (position, status)))
      (runningOf (some (final, status))) := by
  cases status with
  | running =>
      cases inside with
      | none | some => exact nests
  | success | failure =>
      cases inside with
      | none | some => exact .idle

/-- A scan of children with a group among them regroups a scan of ungrouped children if both panic, or
if both end with the same status at positions that belong together. -/
inductive Regroups (skip : Status) (before inner after : Nat) :
    Attempt (List (Node A)) (Option Stop) → Attempt (List (Node A)) (Option Stop) → Prop
  | unwound {nodes others : List (Node A)} (panic : Panic) :
      Regroups skip before inner after ⟨nodes, .error panic⟩ ⟨others, .error panic⟩
  | ended {tag : Tag} {group : Composite} {inside : Option Nat} {stop final : Option Stop}
      {front middle back others : List (Node A)} (resuming : group.resumption? = some (skip, inside))
      (nests : Nests before inner after (runningOf stop) inside (runningOf final))
      (same : statusOf skip stop = statusOf skip final) (first : front.length = before)
      (second : middle.length = inner) (third : back.length = after)
      (alike : List.Forall₂ Node.Resembles (front ++ (middle ++ back)) others) :
      Regroups skip before inner after ⟨front ++ ⟨tag, .composite group middle⟩ :: back, .ok stop⟩
        ⟨others, .ok final⟩

section Phases

variable {before inner after : Nat}
  {front fore middle core back rear seen passed rest left : List (Node A)}

/-- Behind a group that is idle both scans keep pace. -/
theorem echoes_back (parallel : context.Parallel counter) (tag : Tag)
    (idle : group.resumption? = some (skip, none)) (fronts : List.Forall₂ Node.Resembles front fore)
    (middles : List.Forall₂ Node.Resembles middle core)
    (seens : List.Forall₂ Node.Resembles seen passed) (rests : List.Forall₂ Node.Resembles rest left)
    (first : front.length = before) (second : middle.length = inner)
    (third : seen.length + rest.length = after) :
    Run.Echoes (fun scanned other => Regroups skip before inner after
        (scanned.map fun nodes => front ++ ⟨tag, .composite group middle⟩ :: (seen ++ nodes))
        (other.map fun nodes => fore ++ (core ++ (passed ++ nodes))))
      (scan skip context (before + 1 + seen.length) (rest.map Node.arm))
      (scan skip counter (before + inner + seen.length) (left.map Node.arm)) := by
  refine (echoes_pace parallel rests _ _).imp ?_
  rintro _ _ pace
  have whole {nodes others : List (Node A)} (alike : List.Forall₂ Node.Resembles nodes others) :=
    List.rel_append fronts (List.rel_append middles (List.rel_append seens alike))
  cases pace with
  | unwound panic => exact .unwound panic
  | exhausted alike length =>
      refine .ended idle .idle rfl first second ?_ (whole alike)
      rw [List.length_append, length, third]
  | @stopped _ _ offset status alike length inside _ =>
      have position : seen.length + offset < after := by omega
      rw [Nat.add_assoc, Nat.add_assoc _ seen.length]
      refine .ended idle ((Nests.back position).stop status) rfl first second ?_ (whole alike)
      rw [List.length_append, length, third]

/-- A group scans its children from where it resumes as they are scanned without it, and then its
composite goes on behind it. -/
theorem echoes_group (parallel : context.Parallel counter) (tag : Tag)
    (resuming : group.resumption? = some (skip, inside)) (start : inside.getD 0 = seen.length)
    (fronts : List.Forall₂ Node.Resembles front fore) (seens : List.Forall₂ Node.Resembles seen passed)
    (rests : List.Forall₂ Node.Resembles rest left) (backs : List.Forall₂ Node.Resembles back rear)
    (first : front.length = before) (second : seen.length + rest.length = inner)
    (third : back.length = after) :
    Run.Echoes (fun scanned other => Regroups skip before inner after
        (scanned.map fun nodes => front ++ nodes) (other.map fun nodes => fore ++ (passed ++ nodes)))
      (scan skip context before
        ((⟨tag, .composite group (seen ++ rest)⟩ :: back : List (Node A)).map Node.arm))
      (scan skip counter (before + seen.length) ((left ++ rear).map Node.arm)) := by
  have inward : (context.child before).Parallel counter :=
    ⟨parallel.clock, parallel.left.child before, parallel.right⟩
  rw [List.map_cons, scan, List.map_append, scan_append]
  refine (echoes_resumed tag inward.left resuming rfl start
    (echoes_pace inward rests seen.length (before + seen.length))).bind ?_
  rintro ⟨ticked, _⟩ _ ⟨scanned, ⟨rfl, resumed⟩, pace⟩
  cases pace with
  | unwound panic => exact Run.echoes_pure (.unwound panic)
  | @exhausted nodes others alike length =>
      obtain ⟨tag, next, rfl, idle⟩ := resumed none rfl
      have deep : (seen ++ nodes).length = inner := by rw [List.length_append, length, second]
      have next : before + seen.length + (left.map (Node.arm (D := E))).length =
          before + inner + ([] : List (Node A)).length := by
        rw [List.length_map, ← rests.length_eq, List.length_nil]
        omega
      dsimp only [Except.map, statusOf]
      rw [if_pos rfl, next]
      refine (echoes_back parallel tag idle fronts (List.rel_append seens alike) .nil backs first deep
        ((Nat.zero_add _).trans third)).bind fun _ _ regroups => ?_
      refine Run.echoes_pure ?_
      simpa only [Attempt.map, List.append_assoc, List.nil_append] using regroups
  | @stopped nodes others offset status alike length inside stops =>
      obtain ⟨tag, next, rfl, remembered⟩ := resumed _ rfl
      dsimp only [Except.map, statusOf]
      rw [if_neg stops, map_node_arm, map_node_arm]
      have within : seen.length + offset < inner := by omega
      rw [Nat.add_assoc before]
      refine Run.echoes_pure
        (.ended remembered ((Nests.group within).stop status) rfl first ?_ third ?_)
      · rw [List.length_append, length, second]
      · simpa only [List.append_assoc] using
          List.rel_append fronts (List.rel_append seens (List.rel_append alike backs))

/-- In front of a group that is idle both scans keep pace. -/
theorem echoes_front (parallel : context.Parallel counter) (tag : Tag)
    (idle : group.resumption? = some (skip, none)) (seens : List.Forall₂ Node.Resembles seen passed)
    (rests : List.Forall₂ Node.Resembles rest left) (middles : List.Forall₂ Node.Resembles middle core)
    (backs : List.Forall₂ Node.Resembles back rear) (first : seen.length + rest.length = before)
    (second : middle.length = inner) (third : back.length = after) :
    Run.Echoes (fun scanned other => Regroups skip before inner after
        (scanned.map fun nodes => seen ++ nodes) (other.map fun nodes => passed ++ nodes))
      (scan skip context seen.length
        ((rest ++ ⟨tag, .composite group middle⟩ :: back : List (Node A)).map Node.arm))
      (scan skip counter seen.length ((left ++ (core ++ rear)).map Node.arm)) := by
  rw [List.map_append, scan_append, List.map_append, scan_append]
  refine (echoes_pace parallel rests seen.length seen.length).bind ?_
  rintro _ _ pace
  cases pace with
  | unwound panic => exact Run.echoes_pure (.unwound panic)
  | @exhausted nodes others alike length =>
      have wide : (seen ++ nodes).length = before := by rw [List.length_append, length, first]
      have near : seen.length + (rest.map (Node.arm (D := D))).length = before := by
        rw [List.length_map, first]
      have far : seen.length + (left.map (Node.arm (D := E))).length =
          before + ([] : List (Node A)).length := by
        rw [List.length_map, ← rests.length_eq, first, List.length_nil, Nat.add_zero]
      dsimp only
      rw [near, far]
      refine (echoes_group parallel tag idle rfl (List.rel_append seens alike) .nil middles backs wide
        ((Nat.zero_add _).trans second) third).bind fun _ _ regroups => ?_
      refine Run.echoes_pure ?_
      simpa only [Attempt.map, List.append_assoc, List.nil_append] using regroups
  | @stopped nodes others offset status alike length inside stops =>
      have within : seen.length + offset < before := by omega
      dsimp only
      rw [map_node_arm, map_node_arm]
      refine Run.echoes_pure ?_
      rw [Attempt.map, ← List.append_assoc]
      refine .ended idle ((Nests.front within).stop status) rfl ?_ second third ?_
      · rw [List.length_append, length, first]
      · simpa only [List.append_assoc] using
          List.rel_append seens (List.rel_append alike (List.rel_append middles backs))

end Phases

end Composite

end Behavior
