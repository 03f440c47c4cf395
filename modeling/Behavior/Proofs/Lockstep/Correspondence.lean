import Behavior.Node.Reset
import Mathlib.Data.List.Forall2

namespace Behavior

variable {A : Agent}

/-- Two bodies correspond if they are the same but for their children, which are related. -/
inductive Body.Corresponds {Child Other : Type} (Related : Child → Other → Prop) :
    Body A Child → Body A Other → Prop
  | leaf (own : Leaf A) : Corresponds Related (.leaf own) (.leaf own)
  | decorator (own : Decorator A) {child : Child} {other : Other} (related : Related child other) :
      Corresponds Related (.decorator own child) (.decorator own other)
  | choice (own : Choice A) {yes : Child} {otherYes : Other} {no : Option Child}
      {otherNo : Option Other} (relatedYes : Related yes otherYes)
      (relatedNo : Option.Rel Related no otherNo) :
      Corresponds Related (.choice own yes no) (.choice own otherYes otherNo)
  | composite (own : Composite) {children : List Child} {others : List Other}
      (related : List.Forall₂ Related children others) :
      Corresponds Related (.composite own children) (.composite own others)

namespace Body

variable {Child Other Changed Twin : Type} {Related : Child → Other → Prop}
  {Final : Changed → Twin → Prop} {body : Body A Child} {twin : Body A Other}

/-- Bodies that correspond are of one kind. -/
theorem Corresponds.kind (bodies : body.Corresponds Related twin) : body.kind = twin.kind := by
  cases bodies <;> rfl

/-- Lists that correspond are changed to lists that correspond. -/
theorem forall₂_map {children : List Child} {others : List Other} {change : Child → Changed}
    {vary : Other → Twin} (related : List.Forall₂ Related children others)
    (relates : ∀ child ∈ children, ∀ other, Related child other → Final (change child) (vary other)) :
    List.Forall₂ Final (children.map change) (others.map vary) := by
  induction related with
  | nil => exact .nil
  | cons first _ inductionHypothesis =>
      obtain ⟨here, below⟩ := List.forall_mem_cons.1 relates
      exact .cons (here _ first) (inductionHypothesis below)

/-- Bodies that correspond still do so when they have forgotten their own state. -/
theorem Corresponds.forget (bodies : body.Corresponds Related twin) :
    body.forget.Corresponds Related twin.forget := by
  cases bodies with
  | leaf own => exact .leaf own
  | decorator own related => exact .decorator own.forget related
  | choice own relatedYes relatedNo => exact .choice own.forget relatedYes relatedNo
  | composite own related => exact .composite own.forget related

/-- Bodies that correspond still do so after a change of their children. -/
theorem Corresponds.map {change : Child → Changed} {vary : Other → Twin}
    (bodies : body.Corresponds Related twin)
    (relates : ∀ child ∈ body.children, ∀ other, Related child other →
      Final (change child) (vary other)) :
    (body.map change).Corresponds Final (twin.map vary) := by
  cases bodies with
  | leaf own => exact .leaf own
  | decorator own related => exact .decorator own (relates _ List.mem_cons_self _ related)
  | choice own relatedYes relatedNo =>
      obtain ⟨yes, no⟩ := List.forall_mem_cons.1 relates
      refine .choice own (yes _ relatedYes) ?_
      cases relatedNo with
      | none => exact .none
      | some related => exact .some (no _ (by simp) _ related)
  | composite own related => exact .composite own (forall₂_map related relates)

/-- Bodies correspond by any relation that follows for their children. -/
theorem Corresponds.imp {Kept : Child → Other → Prop} (bodies : body.Corresponds Related twin)
    (implies : ∀ child ∈ body.children, ∀ other, Related child other → Kept child other) :
    body.Corresponds Kept twin := by
  have mapped : (body.map id).Corresponds Kept (twin.map id) := bodies.map implies
  rwa [map_id, map_id] at mapped

/-- A body that is its own twin corresponds as far as its children are their own twins. -/
theorem corresponds_self {Kept : Child → Child → Prop}
    (keeps : ∀ child ∈ body.children, Kept child child) : body.Corresponds Kept body := by
  cases body with
  | leaf own => exact .leaf own
  | decorator own child => exact .decorator own (keeps child List.mem_cons_self)
  | choice own yes no =>
      obtain ⟨keepsYes, keepsNo⟩ := List.forall_mem_cons.1 keeps
      refine .choice own keepsYes ?_
      cases no with
      | none => exact .none
      | some no => exact .some (keepsNo no (by simp))
  | composite own children => exact .composite own (List.forall₂_same.2 keeps)

/-- Bodies have the same image exactly if they correspond by their images. -/
theorem map_eq_iff {Image : Type} {view : Child → Image} {look : Other → Image} :
    body.map view = twin.map look ↔ body.Corresponds (fun child other => view child = look other) twin := by
  constructor
  · intro same
    cases body with
    | leaf own =>
        cases twin with
        | leaf => cases same; exact .leaf own
        | decorator | choice | composite => cases same
    | decorator own child =>
        cases twin with
        | decorator =>
            obtain ⟨rfl, related⟩ := Body.decorator.inj same
            exact .decorator own related
        | leaf | choice | composite => cases same
    | choice own yes no =>
        cases twin with
        | choice _ otherYes otherNo =>
            obtain ⟨rfl, first, second⟩ := Body.choice.inj same
            refine .choice own first ?_
            cases no <;> cases otherNo <;> simp_all
        | leaf | decorator | composite => cases same
    | composite own children =>
        cases twin with
        | composite _ others =>
            obtain ⟨rfl, related⟩ := Body.composite.inj same
            refine .composite own ?_
            have images : List.Forall₂ Eq (children.map view) (others.map look) := by
              rw [related]
              exact List.forall₂_same.2 fun _ _ => rfl
            rwa [List.forall₂_map_left_iff, List.forall₂_map_right_iff] at images
        | leaf | decorator | choice => cases same
  · intro bodies
    cases bodies with
    | leaf own => rfl
    | decorator own related => exact congrArg (Body.decorator own) related
    | choice own relatedYes relatedNo =>
        cases relatedNo with
        | none => exact congrArg (Body.choice own · none) relatedYes
        | some related => exact congrArg₂ (fun yes no => Body.choice own yes (some no)) relatedYes related
    | composite own related =>
        refine congrArg (Body.composite own) ?_
        induction related with
        | nil => rfl
        | cons first _ inductionHypothesis => exact congrArg₂ List.cons first inductionHypothesis

/-- Bodies whose children are equal are equal. -/
theorem corresponds_eq_iff {body twin : Body A Child} : body.Corresponds Eq twin ↔ body = twin := by
  have images : body.map id = twin.map id ↔
      body.Corresponds (fun child other => id child = id other) twin := map_eq_iff
  rw [map_id, map_id] at images
  exact images.symm

end Body

/-- Attempts agree if they have the same result and leave related subjects. -/
structure Attempt.Agree {Subject Other Value : Type} (Related : Subject → Other → Prop)
    (first : Attempt Subject Value) (second : Attempt Other Value) : Prop where
  after : Related first.after second.after
  result : first.result = second.result

/-- Pairs stand alongside each other if they share their own part and relate the other. -/
def Alongside {Own Subject Other : Type} (Related : Subject → Other → Prop)
    (first : Own × Subject) (second : Own × Other) : Prop :=
  first.1 = second.1 ∧ Related first.2 second.2

end Behavior
