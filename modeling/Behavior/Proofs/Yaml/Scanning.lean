import Behavior.Proofs.Yaml.Quoted

namespace Behavior.Yaml

namespace Progress

open Glyph

variable {line column index : Nat} {text : List Char} {tokens : List Token} {keyAllowed : Bool}
  {indentations : List Int} {touching : Option Nat} {progress : Progress}

section

variable {glyph : Glyph} {bound : List Glyph}

/-- A space is skipped. -/
theorem skipGap_of_space (front : peek progress.rest 0 = ' ') :
    skipGap (glyph :: bound) progress = skipGap bound (progress.advance 1) := by
  rw [skipGap, if_pos front]

/-- A line break is skipped, and a key may follow it. -/
theorem skipGap_of_newline (front : peek progress.rest 0 = '\n') :
    skipGap (glyph :: bound) progress = skipGap bound
      { progress with
        rest := skipBreak progress.rest, keyAllowed := progress.keyAllowed || !progress.inFlow } := by
  simp [skipGap, front, isBreak]

/-- Nothing is skipped in front of a token. -/
theorem skipGap_of_solid (placed : progress.rest = place line column index text)
    (solid : IsSolid text) : skipGap bound progress = progress := by
  have noComment : text.headD Glyph.finish ≠ '#' := by
    cases text with
    | nil => decide
    | cons character rest => exact (solid character rfl).2
  obtain ⟨blank, unbroken⟩ := Bool.or_eq_false_iff.1 (isWhite_of_isSolid solid)
  obtain ⟨noSpace, noTab⟩ := Bool.or_eq_false_iff.1 blank
  cases bound with
  | nil => rfl
  | cons glyph bound =>
      rw [skipGap, placed, peek_zero_place]
      simp_all

end

/-- A column that is not left of the innermost collection closes nothing. -/
theorem unroll_settled (settled : progress.indentation ≤ column) :
    progress.unroll column = progress := by
  unfold unroll
  split
  case isTrue => rfl
  case isFalse =>
    unfold indentation at settled
    cases shape : progress.indentations with
    | nil => simp [unrollList, ← shape]
    | cons indentation outer =>
        rw [shape] at settled
        have kept : ¬ (column : Int) < indentation := Int.not_lt.2 settled
        simp [unrollList, kept, ← shape]

/-- A step in front of a token closes what the column closes, and fetches the token. -/
theorem step_of_solid (placed : progress.rest = place line column index text)
    (solid : IsSolid text) (unbracketed : progress.outer = [])
    (fresh : refresh ⟨text.headD Glyph.finish, line, column, index⟩ progress.candidate =
      some progress.candidate) :
    progress.step = (progress.unroll column).fetch := by
  have same : refreshAll progress = some progress := by
    have front := congrArg Glyph.first placed
    rw [first_place] at front
    have outer : progress.outer.mapM (refresh (Glyph.first progress.rest)) = some progress.outer := by
      rw [unbracketed]
      rfl
    rw [refreshAll, outer, front, fresh]
    rfl
  rw [step, skipGap_of_solid placed solid, same, Option.bind_eq_bind, Option.bind_some, placed,
    first_place]

/-- Progress outside of brackets, without a candidate for a key. -/
def standing (line column index : Nat) (text : List Char) (tokens : List Token) (keyAllowed : Bool)
    (indentations : List Int) (touching : Option Nat) : Progress :=
  ⟨place line column index text, tokens.toArray, keyAllowed, none, [], indentations, touching⟩

/-- In front of a token the blocks that it closes are closed first. -/
theorem step_standing (solid : IsSolid text) :
    (standing line column index text tokens keyAllowed indentations touching).step =
      ((standing line column index text tokens keyAllowed indentations touching).unroll
        column).fetch :=
  step_of_solid rfl solid rfl rfl

/-- Nothing is closed in front of a token that stands deep enough. -/
theorem step_settled (solid : IsSolid text) (settled : indentations.headD (-1) ≤ column) :
    (standing line column index text tokens keyAllowed indentations touching).step =
      (standing line column index text tokens keyAllowed indentations touching).fetch := by
  rw [step_standing solid]
  exact congrArg fetch (@unroll_settled column (standing _ _ _ _ _ _ _ _) settled)

/-- The step does not tell apart what stands in front of a space and behind it. -/
theorem step_space :
    (standing line column index (' ' :: text) tokens keyAllowed indentations touching).step =
      (standing line (column + 1) (index + 1) text tokens keyAllowed indentations touching).step := by
  have space : IsInline ' ' := by decide
  have after : (standing line column index (' ' :: text) tokens keyAllowed indentations
      touching).advance 1 =
        standing line (column + 1) (index + 1) text tokens keyAllowed indentations touching := by
    simp only [advance, standing, drop_succ_place space, List.drop_zero]
  rw [step, step, show (standing line column index (' ' :: text) tokens keyAllowed indentations
    touching).rest = _ from place_cons space, skipGap_of_space peek_zero_place, after]
  rfl

/-- On a new line a key is allowed. -/
theorem step_newline :
    (standing line column index ('\n' :: text) tokens keyAllowed indentations touching).step =
      (standing (line + 1) 0 (index + 1) text tokens true indentations touching).step := by
  rw [step, step, show (standing line column index ('\n' :: text) tokens keyAllowed indentations
    touching).rest = _ from place_newline, skipGap_of_newline peek_zero_place]
  simp only [standing, place_newline, skipBreak, inFlow, isBreak]
  simp

/-- A step that does not end the text is the first one of a run. -/
theorem run_of_step {next : Progress} (steps : progress.step = some next)
    (unfinished : next.tokens.back? ≠ some .streamEnd) (fuel : Nat) :
    progress.run (fuel + 1) = next.run fuel := by
  rw [run, steps]
  simp only [Option.bind_eq_bind, Option.bind_some]
  rw [if_neg (by simpa using unfinished)]

/-- Progress that takes the same step runs the same. -/
theorem run_of_same_step {other : Progress} (same : progress.step = other.step) (fuel : Nat) :
    progress.run fuel = other.run fuel := by
  cases fuel with
  | zero => rfl
  | succ fuel => rw [run, run, same]

/-- Three dashes at the start of a line start a document. -/
theorem fetch_mark (placed : progress.rest = place line 0 index ("---".toList ++ text))
    (gap : isGap (text.headD Glyph.finish) = true) :
    progress.fetch = progress.fetchDocumentMark .documentStart := by
  have dash : IsInline '-' := by decide
  have marked : atMark (place line 0 index ("---".toList ++ text)) '-' = true := by
    simpa [atMark, peek_succ_place dash] using gap
  rw [fetch, placed, marked]
  simp [show isFinish '-' = false from rfl]

/-- A dash in front of a space starts an entry. -/
theorem fetch_dash (placed : progress.rest = place line column index ('-' :: ' ' :: text)) :
    progress.fetch = progress.fetchBlockEntry := by
  have dash : IsInline '-' := by decide
  simp [fetch, placed, atMark, peek_succ_place dash, show isFinish '-' = false from rfl,
    show isGap ' ' = true from rfl]

/-- A quote starts a quoted scalar. -/
theorem fetch_quote (placed : progress.rest = place line column index ('"' :: text)) :
    progress.fetch = progress.fetchQuoted '"' := by
  simp [fetch, placed, atMark, show isFinish '"' = false from rfl]

/-- A colon in front of a gap starts a value. -/
theorem fetch_colon (placed : progress.rest = place line column index (':' :: text))
    (gap : isGap (text.headD Glyph.finish) = true) :
    progress.fetch = progress.fetchValue := by
  have colon : IsInline ':' := by decide
  have next : isGap (peek (place line column index (':' :: text)) 1) = true := by
    rwa [peek_succ_place colon, peek_zero_place]
  simp [fetch, placed, atMark, next, show isFinish ':' = false from rfl]

/-- A bare character that is neither an indicator nor a point starts a plain scalar. -/
theorem fetch_bare {character : Char}
    (placed : progress.rest = place line column index (character :: text)) (bare : IsBare character)
    (noIndicator : isIndicator character = false) (noDot : character ≠ '.') :
    progress.fetch = progress.fetchPlain := by
  obtain ⟨inline, _, _, noColon, _, unreserved⟩ := isBare_spec bare
  have unfinished : isFinish character = false := by simp [isFinish, inline.1]
  simp [isIndicator] at noIndicator unreserved
  simp [fetch, placed, atMark, unfinished, noIndicator, unreserved, noDot, noColon]

/-- A value does not start on the line of its key what could be another key. -/
theorem saveCandidate_value :
    (standing line column index text tokens false indentations touching).saveCandidate =
      some (standing line column index text tokens false indentations touching) :=
  rfl

/-- A plain scalar becomes one token. -/
theorem fetchPlain_of_plain {saved : Progress} {broken : Bool} {after : List Glyph}
    (saves : progress.saveCandidate = some saved)
    (read : Lexeme.plain saved.inFlow (saved.indentation + 1) saved.rest = some ⟨text, broken, after⟩) :
    progress.fetchPlain = some { saved.push (.scalar .plain (String.ofList text)) with
      rest := after, keyAllowed := broken } := by
  rw [fetchPlain, saves, Option.bind_eq_bind, Option.bind_some, read]
  rfl

/-- A quoted scalar becomes one token. -/
theorem fetchQuoted_of_quoted {saved : Progress} {quote : Char} {after : List Glyph}
    (saves : progress.saveCandidate = some saved)
    (read : Lexeme.quoted quote saved.rest = some (text, after)) :
    progress.fetchQuoted quote = some { saved.push (.scalar .quoted (String.ofList text)) with
      rest := after, keyAllowed := false, touching := some (Glyph.first after).index } := by
  rw [fetchQuoted, saves, Option.bind_eq_bind, Option.bind_some, read]
  rfl

/-- A colon makes a key of what has been waiting to be one. -/
theorem fetchValue_of_candidate {candidate : KeyCandidate}
    (waits : progress.candidate = some candidate) :
    progress.fetchValue = some { ((progress.insert candidate.position .key).roll
        candidate.start.column candidate.position .blockMappingStart).push .value |>.advance 1 with
      candidate := none, keyAllowed := false } := by
  rw [fetchValue, waits]

/-- A token opens a block collection at its column unless one is open there. -/
inductive Opens (column : Nat) (token : Token) (indentations : List Int) :
    List Token → List Int → Prop
  | already (same : indentations.headD (-1) = column) : Opens column token indentations [] indentations
  | deeper (left : indentations.headD (-1) < column) :
      Opens column token indentations [token] (column :: indentations)

variable {opening : List Token} {inner : List Int} {token : Token}

/-- A block opens no further left than the one around it. -/
theorem Opens.settled (opens : Opens column token indentations opening inner) :
    indentations.headD (-1) ≤ column := by
  cases opens with
  | already same => exact Int.le_of_eq same
  | deeper left => exact Int.le_of_lt left

/-- The collection at the column is then the innermost one. -/
theorem Opens.headD (opens : Opens column token indentations opening inner) :
    inner.headD (-1) = column := by
  cases opens with
  | already same => exact same
  | deeper => rfl

theorem insertIdx_append (token : Token) (tokens more : List Token) :
    (tokens ++ more).insertIdx tokens.length token = tokens ++ token :: more := by
  induction tokens with
  | nil => rfl
  | cons first tokens inductionHypothesis => exact congrArg (first :: ·) inductionHypothesis

/-- Tokens that wait behind the position of the opening one keep their order. -/
theorem roll_of_opens {more : List Token} (opens : Opens column token indentations opening inner)
    (unbracketed : progress.outer = []) (shape : progress.indentations = indentations)
    (listed : progress.tokens = (tokens ++ more).toArray) :
    progress.roll column tokens.length token =
      { progress with tokens := (tokens ++ opening ++ more).toArray, indentations := inner } := by
  cases opens with
  | already same =>
      have stays : (progress.inFlow || decide ((column : Int) ≤ progress.indentation)) = true := by
        simp only [Progress.indentation, shape, same, Int.le_refl, decide_true, Bool.or_true]
      rw [roll, if_pos stays, List.append_nil, ← listed, ← shape]
  | deeper left =>
      have goesDeeper : ¬ (column : Int) ≤ progress.indentation := by
        rw [Progress.indentation, shape]
        exact Int.not_le.2 left
      rw [roll, if_neg (by simp [inFlow, unbracketed, goesDeeper]), Progress.insert, listed,
        List.insertIdxIfInBounds_toArray, insertIdx_append, shape, List.append_assoc]
      rfl

/-- Progress behind a word that a colon makes a key. -/
def waiting (line column index : Nat) (word text : List Char) (tokens : List Token)
    (indentations : List Int) (touching : Option Nat) : Progress :=
  { standing line (column + word.length) (index + word.length) text
      (tokens ++ [.scalar .plain (String.ofList word)]) false indentations touching with
    candidate := some ⟨tokens.length, ⟨word.headD Glyph.finish, line, column, index⟩, false⟩ }

variable {word : List Char}

/-- A name that a colon follows is scanned as a plain scalar, and may become a key. -/
theorem step_name (name : Lexeme.IsName word) (gap : isGap (text.headD Glyph.finish) = true)
    (settled : indentations.headD (-1) ≤ column) :
    (standing line column index (word ++ ':' :: text) tokens true indentations touching).step =
      some (waiting line column index word (':' :: text) tokens indentations touching) := by
  have solid : IsSolid (word ++ ':' :: text) := name.isSolid _
  have read (unmarked : atDocumentMark (place line column index (word ++ ':' :: text)) = false) :=
    @Lexeme.plain_key line column index word (indentations.headD (-1) + 1) text unmarked name.bare
      name.visible name.nonempty gap
  obtain ⟨first, word, rfl⟩ := List.exists_cons_of_ne_nil name.nonempty
  obtain ⟨noIndicator, noDot⟩ := name.lead first rfl
  have noDash : first ≠ '-' := by
    rintro rfl
    exact absurd noIndicator (by decide)
  have saves : (standing line column index (first :: word ++ ':' :: text) tokens true indentations
      touching).saveCandidate = some { standing line column index (first :: word ++ ':' :: text) tokens
        true indentations touching with
          candidate := some ⟨tokens.length, ⟨first, line, column, index⟩, false⟩ } := by
    simp [saveCandidate, dropCandidate, standing, inFlow]
  rw [step_settled solid settled,
    fetch_bare rfl (name.bare first List.mem_cons_self) noIndicator noDot,
    fetchPlain_of_plain saves (read (atDocumentMark_cons noDash noDot)), push, standing,
    List.push_toArray]
  rfl

/-- The colon puts the mark of a key in front of the name, and opens the mapping if there is none. -/
theorem step_colon (short : word.length ≤ 1024) (gap : isGap (text.headD Glyph.finish) = true)
    (opens : Opens column .blockMappingStart indentations opening inner) :
    (waiting line column index word (':' :: text) tokens indentations touching).step =
      some (standing line (column + word.length + 1) (index + word.length + 1) text
        (tokens ++ opening ++ [.key, .scalar .plain (String.ofList word), .value]) false inner
          touching) := by
  have solid : IsSolid (':' :: text) := isSolid_cons rfl (by decide)
  have colon : IsInline ':' := by decide
  let progress := waiting line column index word (':' :: text) tokens indentations touching
  have fresh : refresh ⟨':', line, column + word.length, index + word.length⟩ progress.candidate =
      some progress.candidate := by
    have recent : ¬ index + 1024 < index + word.length := by omega
    simp [progress, waiting, refresh, isStale, recent]
  have settled : progress.indentation ≤ (column + word.length : Nat) :=
    Int.le_trans opens.settled (Int.ofNat_le.2 (Nat.le_add_right _ _))
  have marked : progress.insert tokens.length .key = { progress with
      tokens := (tokens ++ [Token.key, .scalar .plain (String.ofList word)]).toArray } := by
    simp only [progress, waiting, standing, Progress.insert, List.insertIdxIfInBounds_toArray,
      insertIdx_append]
  rw [step_of_solid rfl solid rfl fresh, unroll_settled settled, fetch_colon rfl gap,
    fetchValue_of_candidate rfl, marked, roll_of_opens opens rfl rfl rfl]
  simp [progress, waiting, push, advance, standing, place_cons colon]

end Progress

end Behavior.Yaml
