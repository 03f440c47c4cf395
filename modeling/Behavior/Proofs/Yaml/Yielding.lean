import Behavior.Proofs.Yaml.Scanning

namespace Behavior.Yaml.Progress

open Glyph

variable {column : Nat} {text rest word : List Char} {tokens result opening : List Token}
  {keyAllowed : Bool} {indentation : Int} {indentations inner : List Int}

/-- Wherever a text stands behind some tokens, the scan ends with the result. Each token uses up some
glyphs, so the number of those that are left bounds the number of steps. -/
def Yields (column : Nat) (text : List Char) (tokens : List Token) (keyAllowed : Bool)
    (indentations : List Int) (result : List Token) : Prop :=
  ∀ line index touching fuel, (place line column index text).length ≤ fuel →
    (standing line column index text tokens keyAllowed indentations touching).run fuel = some result

/-- A space in front of a text changes its column alone. -/
theorem Yields.space (yields : Yields (column + 1) text tokens keyAllowed indentations result) :
    Yields column (' ' :: text) tokens keyAllowed indentations result := by
  intro line index touching fuel enough
  rw [place_cons (by decide)] at enough
  rw [run_of_same_step step_space]
  exact yields _ _ _ _ (Nat.le_of_succ_le enough)

/-- A line break in front of a text starts it at the first column. -/
theorem Yields.newline (yields : Yields 0 text tokens true indentations result) :
    Yields column ('\n' :: text) tokens keyAllowed indentations result := by
  intro line index touching fuel enough
  rw [place_newline] at enough
  rw [run_of_same_step step_newline]
  exact yields _ _ _ _ (Nat.le_of_succ_le enough)

/-- Spaces in front of a text change its column alone. -/
theorem Yields.spaces {count : Nat}
    (yields : Yields (column + count) text tokens keyAllowed indentations result) :
    Yields column (List.replicate count ' ' ++ text) tokens keyAllowed indentations result := by
  induction count generalizing column with
  | zero => exact yields
  | succ count inductionHypothesis =>
      refine .space (inductionHypothesis ?_)
      rwa [Nat.add_assoc, Nat.add_comm 1]

/-- What stands on the next line, behind some spaces. -/
def nextLine (count : Nat) (text : List Char) : List Char := '\n' :: (List.replicate count ' ' ++ text)

/-- What follows a line follows its text. -/
theorem nextLine_append (count : Nat) (text rest : List Char) :
    nextLine count text ++ rest = nextLine count (text ++ rest) := by
  rw [nextLine, List.cons_append, List.append_assoc]
  rfl

/-- A text yields the same on the next line. -/
theorem Yields.onNextLine {count : Nat} (yields : Yields count text tokens true indentations result) :
    Yields column (nextLine count text) tokens keyAllowed indentations result :=
  .newline (.spaces (by rwa [Nat.zero_add]))

/-- A token to the left of a block collection closes it. -/
theorem Yields.close (solid : IsSolid text) (left : (column : Int) < indentation)
    (yields : Yields column text (tokens ++ [.blockEnd]) keyAllowed indentations result) :
    Yields column text tokens keyAllowed (indentation :: indentations) result := by
  intro line index touching fuel enough
  rw [← yields line index touching fuel enough]
  refine run_of_same_step ?_ fuel
  rw [step_standing solid, step_standing solid]
  simp [unroll, standing, inFlow, unrollList, left, ← List.toArray_replicate, List.replicate_succ]

/-- Steps that use up a part of the text lead to what the text behind it yields. -/
theorem Yields.of_run {first : List Char} {tokens' : List Token} {keyAllowed' : Bool}
    {indentations' : List Int} (steps : Nat) (shape : text = first ++ rest)
    (goesOn : ∀ character ∈ first, character ≠ Glyph.finish) (few : steps ≤ first.length)
    (runs : ∀ line index touching, ∃ line' column' index' touching',
      Yields column' rest tokens' keyAllowed' indentations' result ∧ ∀ fuel,
        (standing line column index text tokens keyAllowed indentations touching).run (fuel + steps) =
          (standing line' column' index' rest tokens' keyAllowed' indentations' touching').run fuel) :
    Yields column text tokens keyAllowed indentations result := by
  intro line index touching fuel enough
  obtain ⟨line', column', index', touching', yields, runs⟩ := runs line index touching
  rw [shape, length_place_append goesOn line' column' index'] at enough
  obtain ⟨fuel, rfl⟩ := Nat.exists_eq_add_of_le' (Nat.le_trans few (Nat.le_of_add_right_le enough))
  rw [runs]
  exact yields _ _ _ _ (by omega)

theorem unfinished_append {token : Token} (other : token ≠ .streamEnd) :
    (tokens ++ [token]).toArray.back? ≠ some .streamEnd := by
  simpa using other

/-- The mark at its start yields the start of a document. -/
theorem Yields.documentStart (gap : isGap (text.headD Glyph.finish) = true)
    (yields : Yields 3 text (tokens ++ [.documentStart]) false [-1] result) :
    Yields 0 ("---".toList ++ text) tokens keyAllowed [-1] result := by
  have dashes : ∀ character ∈ "---".toList, IsInline character := forall_of_all rfl
  refine .of_run 1 rfl (fun dash member => (dashes dash member).1) (by decide)
    fun line index touching =>
      ⟨line, 3, index + 3, touching, yields, run_of_step ?_ (unfinished_append nofun)⟩
  have behind : (place line 0 index ("---".toList ++ text)).drop 3 = place line 3 (index + 3) text :=
    drop_place dashes
  have solid : IsSolid ("---".toList ++ text) := isSolid_cons rfl (by decide)
  rw [step_settled solid (by decide), fetch_mark rfl gap]
  simpa [fetchDocumentMark, standing, unroll, inFlow, unrollList, dropCandidate, push, advance] using
    behind

/-- A dash and a space yield an entry, the first of which opens the sequence. -/
theorem Yields.entry (opens : Opens column .blockSequenceStart indentations opening inner)
    (yields : Yields (column + 2) text (tokens ++ opening ++ [.blockEntry]) true inner result) :
    Yields column ('-' :: ' ' :: text) tokens true indentations result := by
  have dash : IsInline '-' := by decide
  refine .of_run 1 List.singleton_append.symm (List.forall_mem_singleton.2 dash.1) (by decide)
    fun line index touching => ⟨line, column + 1, index + 1, touching, yields.space,
      run_of_step ?_ (unfinished_append nofun)⟩
  have solid : IsSolid ('-' :: ' ' :: text) := isSolid_cons rfl (by decide)
  rw [step_settled solid opens.settled, fetch_dash rfl, fetchBlockEntry]
  simp only [standing, inFlow, first_place, List.isEmpty_nil, Bool.not_true, Bool.or_self,
    Bool.false_eq_true, if_false, List.size_toArray]
  rw [roll_of_opens opens rfl rfl (congrArg _ (List.append_nil tokens).symm)]
  simp [dropCandidate, push, advance, place_cons dash]

/-- A plain scalar behind a key ends at the end of its line. -/
theorem Yields.plain {count : Nat} {next : List Char} (plain : Lexeme.IsPlain text)
    (inside : indentations.headD (-1) < column) (shallow : count ≤ indentations.headD (-1))
    (solid : IsSolid next)
    (yields : Yields count next (tokens ++ [.scalar .plain (String.ofList text)]) true indentations
      result) :
    Yields column (text ++ nextLine count next) tokens false indentations result := by
  have goesOn : ∀ character ∈ text ++ '\n' :: List.replicate count ' ',
      character ≠ Glyph.finish := by
    rw [List.forall_mem_append, List.forall_mem_cons]
    refine ⟨fun character member => (isBare_spec (plain.bare character member)).1.1, by decide,
      fun character member => ?_⟩
    rw [List.eq_of_mem_replicate member]
    decide
  have solid' : IsSolid (text ++ nextLine count next) := plain.isSolid _
  have shape : text ++ nextLine count next =
      (text ++ '\n' :: List.replicate count ' ') ++ next := by
    rw [List.append_assoc, List.cons_append, nextLine]
  apply Yields.of_run 1 shape goesOn (by rw [List.length_append]; exact Nat.le_add_left _ _)
  intro line index touching
  obtain ⟨later, read⟩ := @Lexeme.plain_place line column index text (indentations.headD (-1) + 1)
    count next plain.toReadable (by omega) inside (by omega) solid
  refine ⟨line + 1, count, later, touching, yields, run_of_step ?_ (unfinished_append nofun)⟩
  have saves := @saveCandidate_value line column index (text ++ nextLine count next) tokens
    indentations touching
  obtain ⟨first, text, rfl⟩ := List.exists_cons_of_ne_nil plain.nonempty
  obtain ⟨noIndicator, noDot⟩ := plain.lead first rfl
  rw [step_settled solid' (Int.le_of_lt inside), fetch_bare rfl (plain.bare first List.mem_cons_self)
    noIndicator noDot, fetchPlain_of_plain saves read, push, standing, List.push_toArray]
  rfl

/-- A scalar in double quotes yields the text that its escapes stand for. -/
theorem Yields.quoted (settled : indentations.headD (-1) ≤ column)
    (yields : ∀ column, Yields column rest (tokens ++ [.scalar .quoted (String.ofList text)]) false
      indentations result) :
    Yields column ('"' :: (text.flatMap escape ++ '"' :: rest)) tokens false indentations result := by
  have solid : IsSolid ('"' :: (text.flatMap escape ++ '"' :: rest)) := isSolid_cons rfl (by decide)
  have goesOn : ∀ character ∈ '"' :: (text.flatMap escape ++ ['"']), character ≠ Glyph.finish := by
    rw [List.forall_mem_cons, List.forall_mem_append]
    exact ⟨by decide, fun letter member => (Lexeme.inline_escapes text letter member).1,
      List.forall_mem_singleton.2 (by decide)⟩
  have shape : '"' :: (text.flatMap escape ++ '"' :: rest) =
      ('"' :: (text.flatMap escape ++ ['"'])) ++ rest := by
    rw [List.cons_append, List.append_assoc, List.singleton_append]
  apply Yields.of_run 1 shape goesOn (by simp)
  intro line index touching
  obtain ⟨column', index', read⟩ := @Lexeme.quoted_place line column index text rest
  refine ⟨line, column', index', some index', yields column', run_of_step ?_
    (unfinished_append nofun)⟩
  rw [step_settled solid settled, fetch_quote rfl, fetchQuoted_of_quoted saveCandidate_value read, push,
    first_place, standing, List.push_toArray]
  rfl

/-- A short word in front of a colon yields a key, the first of which opens the mapping. -/
theorem Yields.key (name : Lexeme.IsName word) (gap : isGap (text.headD Glyph.finish) = true)
    (opens : Opens column .blockMappingStart indentations opening inner)
    (yields : Yields (column + word.length + 1) text
      (tokens ++ opening ++ [.key, .scalar .plain (String.ofList word), .value]) false inner result) :
    Yields column (word ++ ':' :: text) tokens true indentations result := by
  have shape : word ++ ':' :: text = word ++ [':'] ++ text := by
    rw [List.append_assoc, List.singleton_append]
  have goesOn : ∀ character ∈ word ++ [':'], character ≠ Glyph.finish := by
    rw [List.forall_mem_append]
    exact ⟨fun character member => (isBare_spec (name.bare character member)).1.1,
      List.forall_mem_singleton.2 (by decide)⟩
  have long : 2 ≤ (word ++ [':']).length := by
    rw [List.length_append]
    exact Nat.succ_le_succ (List.length_pos_iff.2 name.nonempty)
  refine .of_run 2 shape goesOn long fun line index touching =>
    ⟨line, column + word.length + 1, index + word.length + 1, touching, yields, fun fuel => ?_⟩
  rw [run_of_step (step_name name gap opens.settled) (unfinished_append nofun),
    run_of_step (step_colon name.short gap opens)]
  simp [standing]

/-- The end of a text closes the collection at its left margin. -/
theorem yields_finish : Yields 0 [] tokens keyAllowed [0, -1] (tokens ++ [.blockEnd, .streamEnd]) := by
  intro line index touching fuel enough
  match fuel with
  | 0 => exact absurd enough (Nat.not_le.2 length_place_pos)
  | fuel + 1 =>
      rw [run, step_settled isSolid_nil (by decide)]
      simp [fetch, standing, isFinish, Progress.finish, unroll, inFlow, unrollList, dropCandidate,
        push]

end Behavior.Yaml.Progress
