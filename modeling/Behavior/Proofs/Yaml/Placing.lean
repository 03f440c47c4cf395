import Behavior.Yaml.Token

namespace Behavior.Yaml

/-- Inline characters neither end a text nor a line. -/
def IsInline (character : Char) : Prop := character ≠ Glyph.finish ∧ character ≠ '\n'

instance (character : Char) : Decidable (IsInline character) := inferInstanceAs (Decidable (_ ∧ _))

/-- What has been checked of each character holds of all of them. -/
theorem forall_of_all {holds : Char → Prop} [DecidablePred holds] {text : List Char}
    (checked : (text.all fun character => decide (holds character)) = true) :
    ∀ character ∈ text, holds character := by
  simpa using checked

/-- What is solid starts with a character of a token, unless it is the end of a text. -/
def IsSolid (text : List Char) : Prop :=
  ∀ character ∈ text.head?, isGap character = false ∧ character ≠ '#'

theorem isSolid_nil : IsSolid [] := nofun

/-- What starts a token is solid. -/
theorem isSolid_cons {character : Char} {rest : List Char} (token : isGap character = false)
    (noComment : character ≠ '#') : IsSolid (character :: rest) := by
  rintro _ ⟨⟩
  exact ⟨token, noComment⟩

/-- The character of a token is neither blank nor the end of anything. -/
theorem isGap_eq_false {character : Char} (token : isGap character = false) :
    isBlank character = false ∧ isBreak character = false ∧ isFinish character = false := by
  simpa [isGap, isLineEnd, Bool.or_eq_false_iff] using token

theorem ne_finish_of_token {character : Char} (token : isGap character = false) :
    character ≠ Glyph.finish := by
  rintro rfl
  exact absurd token (by decide)

/-- The character of a token stays within its line. -/
theorem isInline_of_token {character : Char} (token : isGap character = false) :
    IsInline character := by
  refine ⟨ne_finish_of_token token, ?_⟩
  rintro rfl
  exact absurd token (by decide)

namespace Glyph

variable {line column index : Nat} {character : Char} {first rest text : List Char}

/-- A character takes one column. -/
theorem place_cons (inline : IsInline character) :
    place line column index (character :: rest) =
      ⟨character, line, column, index⟩ :: place line (column + 1) (index + 1) rest := by
  rw [place, if_neg inline.1, if_neg inline.2]

/-- A line break starts a new line. -/
theorem place_newline :
    place line column index ('\n' :: rest) =
      ⟨'\n', line, column, index⟩ :: place (line + 1) 0 (index + 1) rest := by
  rw [place, if_neg (by decide), if_pos rfl]

/-- A text always shows a glyph at its front, even at its end. -/
theorem exists_place (line column index : Nat) (text : List Char) :
    ∃ more, place line column index text = ⟨text.headD finish, line, column, index⟩ :: more := by
  cases text with
  | nil => exact ⟨[], rfl⟩
  | cons character rest =>
      unfold place
      split
      case isTrue ended =>
        subst ended
        exact ⟨[], rfl⟩
      case isFalse => exact ⟨_, rfl⟩

@[simp] theorem first_place :
    Glyph.first (place line column index text) = ⟨text.headD finish, line, column, index⟩ := by
  obtain ⟨more, placed⟩ := exists_place line column index text
  rw [placed]
  rfl

@[simp] theorem peek_zero_place : peek (place line column index text) 0 = text.headD finish := by
  rw [peek, List.drop_zero, first_place]

/-- Behind an inline character stands the rest of the text. -/
theorem drop_succ_place (inline : IsInline character) (count : Nat) :
    (place line column index (character :: rest)).drop (count + 1) =
      (place line (column + 1) (index + 1) rest).drop count := by
  rw [place_cons inline, List.drop_succ_cons]

/-- What has been read moves the rest along its line. -/
theorem drop_place (inline : ∀ character ∈ first, IsInline character) :
    (place line column index (first ++ rest)).drop first.length =
      place line (column + first.length) (index + first.length) rest := by
  induction first generalizing column index with
  | nil => rfl
  | cons character first inductionHypothesis =>
      obtain ⟨here, after⟩ := List.forall_mem_cons.1 inline
      rw [List.cons_append, List.length_cons, drop_succ_place here, inductionHypothesis after,
        Nat.add_right_comm, Nat.add_right_comm index]
      rfl

/-- The characters are read as they are written. -/
theorem texts_take_place (inline : ∀ character ∈ first, IsInline character) :
    texts ((place line column index (first ++ rest)).take first.length) = first := by
  induction first generalizing column index with
  | nil => rfl
  | cons character first inductionHypothesis =>
      obtain ⟨here, after⟩ := List.forall_mem_cons.1 inline
      rw [List.cons_append, place_cons here, List.length_cons, List.take_succ_cons, texts,
        List.map_cons]
      exact congrArg _ (inductionHypothesis after)

/-- To look ahead is to look from the next column. -/
theorem peek_succ_place (inline : IsInline character) (distance : Nat) :
    peek (place line column index (character :: rest)) (distance + 1) =
      peek (place line (column + 1) (index + 1) rest) distance := by
  rw [peek, drop_succ_place inline, peek]

/-- No document mark stands behind the start of a line. -/
theorem atDocumentMark_place (inside : 0 < column) :
    atDocumentMark (place line column index text) = false := by
  simp [atDocumentMark, atMark, Nat.pos_iff_ne_zero.1 inside]

/-- Nor does one stand where a text starts with another character. -/
theorem atDocumentMark_cons (noDash : character ≠ '-') (noDot : character ≠ '.') :
    atDocumentMark (place line column index (character :: rest)) = false := by
  simp [atDocumentMark, atMark, noDash, noDot]

theorem length_place_pos : 0 < (place line column index text).length := by
  obtain ⟨more, placed⟩ := exists_place line column index text
  rw [placed]
  exact Nat.succ_pos _

/-- Where a text stands does not matter for its length. -/
theorem length_place (line column index : Nat) (text : List Char) :
    (place line column index text).length = (text.takeWhile (· != finish)).length + 1 := by
  induction text generalizing line column index with
  | nil => rfl
  | cons character rest inductionHypothesis =>
      unfold place
      split
      case isTrue ended =>
        subst ended
        rfl
      case isFalse goesOn =>
        rw [List.takeWhile_cons_of_pos (by simpa using goesOn)]
        split <;> exact congrArg (· + 1) (inductionHypothesis _ _ _)

/-- A part of a text that does not end it is gone through character by character. -/
theorem length_place_append (goesOn : ∀ character ∈ first, character ≠ finish)
    (line' column' index' : Nat) :
    (place line column index (first ++ rest)).length =
      first.length + (place line' column' index' rest).length := by
  have kept : ∀ character ∈ first, (character != finish) = true := by simpa using goesOn
  rw [length_place, length_place, List.takeWhile_append_of_pos kept, List.length_append]
  exact Nat.add_assoc _ _ _

end Glyph

end Behavior.Yaml
