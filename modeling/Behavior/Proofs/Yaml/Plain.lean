import Behavior.Proofs.Yaml.Placing
import Behavior.Yaml.Writing

namespace Behavior.Yaml

/-- Bare characters stand for themselves in a plain scalar. -/
def IsBare (character : Char) : Prop := isReserved character = false

instance (character : Char) : Decidable (IsBare character) := inferInstanceAs (Decidable (_ = _))

/-- A bare character means nothing else to a scanner. -/
theorem isBare_spec {character : Char} (bare : IsBare character) :
    IsInline character ∧ isBreak character = false ∧ character ≠ '\t' ∧ character ≠ ':' ∧
      character ≠ '#' ∧ character ∉ ",[]\x7b\x7d\"\x27\x60\\".toList := by
  have avoids (other : Char) (reserved : isReserved other = true) : character ≠ other := by
    rintro rfl
    exact absurd bare (by simp [IsBare, reserved])
  refine ⟨⟨avoids _ (by decide), avoids _ (by decide)⟩, ?_, avoids _ (by decide),
    avoids _ (by decide), avoids _ (by decide), ?_⟩
  · simp [isBreak, avoids '\n' (by decide), avoids '\r' (by decide)]
  · simp [avoids ',' (by decide), avoids '[' (by decide), avoids ']' (by decide),
      avoids '\x7b' (by decide), avoids '\x7d' (by decide), avoids '"' (by decide),
      avoids '\x27' (by decide), avoids '\x60' (by decide), avoids '\\' (by decide)]

/-- The only bare gaps are spaces. -/
theorem isGap_of_isBare {character : Char} (bare : IsBare character) (visible : character ≠ ' ') :
    isGap character = false := by
  obtain ⟨inline, unbroken, noTab, _⟩ := isBare_spec bare
  simp [isGap, isBlank, isLineEnd, isFinish, unbroken, visible, noTab, inline.1]

/-- A text is a word, or starts with a word and some spaces. -/
inductive Words : List Char → Prop
  | one {word : List Char} (visible : ' ' ∉ word) : Words word
  | more {word text : List Char} (visible : ' ' ∉ word) (count : Nat)
      (next : text.head? ≠ some ' ') (rest : Words text) :
      Words (word ++ (List.replicate (count + 1) ' ' ++ text))

/-- Every text consists of words and spaces. -/
theorem Words.of_text (text : List Char) : Words text := by
  induction text with
  | nil => exact .one List.not_mem_nil
  | cons character text inductionHypothesis =>
      by_cases space : character = ' '
      · subst space
        have apart {word : List Char} (visible : ' ' ∉ word) : word.head? ≠ some ' ' :=
          fun starts => visible (List.mem_of_head? starts)
        cases inductionHypothesis with
        | one visible => exact @more [] _ List.not_mem_nil 0 (apart visible) (.one visible)
        | @more word text visible count next rest =>
            match word with
            | [] => exact @more [] _ List.not_mem_nil (count + 1) next rest
            | first :: word =>
                have start : ((first :: word) ++ (List.replicate (count + 1) ' ' ++ text)).head? ≠
                    some ' ' := fun same => visible (Option.some.inj same ▸ List.mem_cons_self)
                exact @more [] _ List.not_mem_nil 0 start (.more visible count next rest)
      · have visible {word : List Char} (kept : ' ' ∉ word) : ' ' ∉ character :: word :=
          List.not_mem_cons_of_ne_of_not_mem (Ne.symm space) kept
        cases inductionHypothesis with
        | one kept => exact .one (visible kept)
        | more kept count next rest => exact .more (visible kept) count next rest

namespace Glyph

variable {line column index : Nat} {text : List Char}

theorem isWhite_of_isSolid (solid : IsSolid text) : isWhite (text.headD finish) = false := by
  cases text with
  | nil => rfl
  | cons character rest =>
      obtain ⟨blank, unbroken, _⟩ := isGap_eq_false (solid character rfl).1
      simp [isWhite, blank, unbroken]

/-- No white space stands in front of a visible character. -/
theorem white_visible (visible : isWhite (text.headD finish) = false) :
    (place line column index text).takeWhile (isIn isWhite) = [] ∧
      (place line column index text).dropWhile (isIn isWhite) = place line column index text := by
  obtain ⟨more, placed⟩ := exists_place line column index text
  rw [placed]
  exact ⟨List.takeWhile_cons_of_neg (ne_true_of_eq_false visible),
    List.dropWhile_cons_of_neg (ne_true_of_eq_false visible)⟩

/-- Spaces are white up to the next visible character. -/
theorem white_spaces (line column index count : Nat)
    (visible : isWhite (text.headD finish) = false) :
    texts ((place line column index (List.replicate count ' ' ++ text)).takeWhile (isIn isWhite)) =
        List.replicate count ' ' ∧
      (place line column index (List.replicate count ' ' ++ text)).dropWhile (isIn isWhite) =
        place line (column + count) (index + count) text := by
  induction count generalizing column index with
  | zero =>
      obtain ⟨none, same⟩ := @white_visible line column index text visible
      rw [List.replicate_zero, List.nil_append, none, same]
      exact ⟨rfl, rfl⟩
  | succ count inductionHypothesis =>
      have inline : IsInline ' ' := by decide
      obtain ⟨taken, dropped⟩ := inductionHypothesis (column + 1) (index + 1)
      rw [List.replicate_succ, List.cons_append, place_cons inline,
        List.takeWhile_cons_of_pos (by rfl), List.dropWhile_cons_of_pos (by rfl), dropped,
        Nat.add_right_comm, Nat.add_right_comm index, texts, List.map_cons]
      exact ⟨congrArg _ taken, rfl⟩

/-- A line break and the indentation of the next line are white as well. -/
theorem white_newline (line column index count : Nat)
    (visible : isWhite (text.headD finish) = false) :
    texts ((place line column index ('\n' :: (List.replicate count ' ' ++ text))).takeWhile
        (isIn isWhite)) = '\n' :: List.replicate count ' ' ∧
      (place line column index ('\n' :: (List.replicate count ' ' ++ text))).dropWhile
        (isIn isWhite) = place (line + 1) count (index + 1 + count) text := by
  obtain ⟨taken, dropped⟩ := white_spaces (line + 1) 0 (index + 1) count visible
  rw [place_newline, List.takeWhile_cons_of_pos (by rfl), List.dropWhile_cons_of_pos (by rfl),
    dropped, Nat.zero_add, texts, List.map_cons]
  exact ⟨congrArg _ taken, rfl⟩

/-- A line has no breaks within. -/
theorem countBreaks_eq_zero {glyphs : List Glyph}
    (unbroken : ∀ glyph ∈ glyphs, isBreak glyph.character = false) : countBreaks glyphs = 0 := by
  induction glyphs with
  | nil => rfl
  | cons glyph rest inductionHypothesis =>
      obtain ⟨here, after⟩ := List.forall_mem_cons.1 unbroken
      have visible : glyph.character ≠ '\r' := by
        intro same
        rw [same] at here
        cases here
      rw [countBreaks, if_neg (by simp [visible]), if_neg (by simp [here]), inductionHypothesis after]

/-- Every line break counts. -/
theorem countBreaks_newline {glyph : Glyph} {rest : List Glyph} (breaks : glyph.character = '\n') :
    countBreaks (glyph :: rest) = countBreaks rest + 1 := by
  rw [countBreaks, if_neg (by simp [breaks]), if_pos (by simp [breaks, isBreak])]

end Glyph

namespace Lexeme

open Glyph

variable {line column index : Nat} {word text : List Char}

/-- A word of a plain scalar ends at a gap, or at a colon in front of one. -/
def EndsWord (text : List Char) : Prop :=
  isGap (text.headD finish) = true ∨ ∃ rest, text = ':' :: rest ∧ isGap (rest.headD finish) = true

/-- A word is read up to its end. -/
theorem plainWord_place (bare : ∀ character ∈ word, IsBare character) (visible : ' ' ∉ word)
    (ends : EndsWord text) :
    plainWord false (place line column index (word ++ text)) =
      (word, place line (column + word.length) (index + word.length) text) := by
  induction word generalizing column index with
  | nil =>
      obtain ⟨more, placed⟩ := exists_place line column index text
      have stops : (isGap (text.headD finish) ||
          endsPlain false (text.headD finish) (peek more 0)) = true := by
        rcases ends with gap | ⟨rest, rfl, gap⟩
        · rw [gap, Bool.true_or]
        · rw [place_cons (by decide)] at placed
          obtain ⟨_, rfl⟩ := List.cons.inj placed
          rw [peek_zero_place]
          simp only [endsPlain, gap]
          rfl
      rw [List.nil_append, placed, plainWord, if_pos stops, List.length_nil, Nat.add_zero,
        Nat.add_zero, placed]
  | cons character word inductionHypothesis =>
      obtain ⟨here, after⟩ := List.forall_mem_cons.1 bare
      obtain ⟨apart, rest⟩ := List.ne_and_not_mem_of_not_mem_cons visible
      obtain ⟨inline, _, _, noColon, _⟩ := isBare_spec here
      have goesOn : ¬ (isGap character || endsPlain false character
          (peek (place line (column + 1) (index + 1) (word ++ text)) 0)) = true := by
        simp [endsPlain, isGap_of_isBare here (Ne.symm apart), noColon]
      rw [List.cons_append, place_cons inline, plainWord, if_neg goesOn,
        inductionHypothesis after rest, List.length_cons, Nat.add_right_comm column,
        Nat.add_right_comm index]
      rfl

/-- A plain scalar goes on with a word, and with what the white space behind the word allows. -/
theorem plainFrom_word {indentation : Int} {pending : List Char} {broken : Bool} {glyph : Glyph}
    {bound : Text} (unmarked : atDocumentMark (place line column index (word ++ text)) = false)
    (bare : ∀ character ∈ word, IsBare character) (visible : ' ' ∉ word) (nonempty : word ≠ [])
    (ends : EndsWord text) :
    let rest := place line (column + word.length) (index + word.length) text
    plainFrom false indentation (glyph :: bound) pending broken
        (place line column index (word ++ text)) =
      if (rest.takeWhile (isIn isWhite)).isEmpty then some ⟨pending ++ word, false, rest⟩
      else if hasMisplacedTab indentation (rest.takeWhile (isIn isWhite)) then none
      else if (Glyph.first (rest.dropWhile (isIn isWhite))).column < indentation then
        some ⟨pending ++ word, countBreaks (rest.takeWhile (isIn isWhite)) != 0,
          rest.dropWhile (isIn isWhite)⟩
      else (do
        let more ← plainFrom false indentation bound (separator (rest.takeWhile (isIn isWhite)))
          (countBreaks (rest.takeWhile (isIn isWhite)) != 0) (rest.dropWhile (isIn isWhite))
        some { more with text := pending ++ word ++ more.text }) := by
  obtain ⟨first, word, rfl⟩ := List.exists_cons_of_ne_nil nonempty
  have noComment : first ≠ '#' := (isBare_spec (bare first List.mem_cons_self)).2.2.2.2.1
  have goesOn : ¬ (atDocumentMark (place line column index (first :: word ++ text)) ||
      decide (peek (place line column index (first :: word ++ text)) 0 = '#')) = true := by
    rw [unmarked, List.cons_append, peek_zero_place]
    simpa using noComment
  rw [plainFrom, if_neg goesOn]
  simp only [plainWord_place bare visible ends, List.isEmpty_cons, Bool.and_false, Bool.not_false,
    Bool.true_and, Bool.false_eq_true, if_false, decide_eq_true_eq]

/-- A text is readable as a plain scalar if it holds bare characters alone, and a space neither at its
start nor at its end. -/
structure Readable (text : List Char) : Prop where
  bare : ∀ character ∈ text, IsBare character
  nonempty : text ≠ []
  starts : text.head? ≠ some ' '
  ends : text.getLast? ≠ some ' '

/-- Without tabs none is misplaced. -/
theorem hasMisplacedTab_eq_false {white : List Glyph} {indentation : Int} (noTab : '\t' ∉ texts white) :
    hasMisplacedTab indentation white = false := by
  rw [hasMisplacedTab, List.any_eq_false]
  intro glyph member misplaced
  have tab : glyph.character = '\t' := by
    simpa using (Bool.and_eq_true_iff.1 misplaced).1
  have listed := (List.dropWhile_sublist (isIn isBlank)).subset member
  exact noTab (tab ▸ List.mem_map_of_mem listed)

/-- What follows the first word of a readable text and some spaces is readable as well. -/
theorem Readable.of_more {count : Nat}
    (readable : Readable (word ++ (List.replicate (count + 1) ' ' ++ text)))
    (starts : text.head? ≠ some ' ') : word ≠ [] ∧ Readable text := by
  have nonempty : text ≠ [] := by
    rintro rfl
    refine readable.ends ?_
    rw [List.append_nil, List.replicate_succ', ← List.append_assoc, List.getLast?_concat]
  refine ⟨?_, fun character member => ?_, nonempty, starts, ?_⟩
  · rintro rfl
    exact readable.starts rfl
  · exact readable.bare character (List.mem_append_right _ (List.mem_append_right _ member))
  · intro space
    refine readable.ends ?_
    rw [List.getLast?_append, List.getLast?_append, space]
    rfl

/-- Spaces separate words as they are. -/
theorem separator_spaces {white : List Glyph} {count : Nat}
    (taken : texts white = List.replicate count ' ') :
    countBreaks white = 0 ∧ separator white = List.replicate count ' ' := by
  have unbroken : countBreaks white = 0 := countBreaks_eq_zero fun glyph member => by
    have listed : glyph.character ∈ texts white := List.mem_map_of_mem member
    rw [taken] at listed
    rw [List.eq_of_mem_replicate listed]
    rfl
  exact ⟨unbroken, by rw [separator, if_pos unbroken, taken]⟩

/-- A bound for a text that is not empty is not empty. -/
theorem exists_bound {bound : Text} (nonempty : text ≠ []) (enough : text.length ≤ bound.length) :
    ∃ glyph more, bound = glyph :: more := by
  refine List.exists_cons_of_ne_nil fun empty => nonempty ?_
  rw [empty] at enough
  exact List.eq_nil_of_length_eq_zero (Nat.le_zero.1 enough)

/-- A plain scalar is read up to the end of its line if the next line is indented less. -/
theorem plainFrom_place {indentation : Int} {count : Nat} {next : List Char}
    (readable : Readable text) (inside : 0 < column) (deep : indentation ≤ (column : Int))
    (shallow : (count : Int) < indentation) (solid : IsSolid next) (pending : List Char)
    (broken : Bool) (bound : Text) (enough : text.length ≤ bound.length) :
    ∃ later, plainFrom false indentation bound pending broken (place line column index
        (text ++ '\n' :: (List.replicate count ' ' ++ next))) =
      some ⟨pending ++ text, true, place (line + 1) count later next⟩ := by
  -- The white space behind the last word holds the line break.
  induction Words.of_text text generalizing column index pending broken bound with
  | @one word visible =>
      obtain ⟨glyph, bound, rfl⟩ := exists_bound readable.nonempty enough
      have stops : EndsWord ('\n' :: (List.replicate count ' ' ++ next)) := .inl rfl
      obtain ⟨taken, dropped⟩ := white_newline line (column + word.length) (index + word.length)
        count (isWhite_of_isSolid solid)
      rw [plainFrom_word (atDocumentMark_place inside) readable.bare visible readable.nonempty stops,
        dropped]
      generalize List.takeWhile _ _ = white at taken
      obtain ⟨lineBreak, spaces, rfl, breaks, _⟩ := List.map_eq_cons_iff.1 taken
      have noTab : '\t' ∉ texts (lineBreak :: spaces) := by
        rw [taken]
        simp
      refine ⟨index + word.length + 1 + count, ?_⟩
      rw [if_neg (by simp), if_neg (by simp [hasMisplacedTab_eq_false noTab]),
        if_pos (by simpa using shallow), countBreaks_newline breaks]
      rfl
  | @more word text visible spaces starts rest inductionHypothesis =>
      obtain ⟨glyph, bound, rfl⟩ := exists_bound readable.nonempty enough
      obtain ⟨nonempty, readable'⟩ := readable.of_more starts
      obtain ⟨first, more, rfl⟩ := List.exists_cons_of_ne_nil readable'.nonempty
      have bare := readable.bare
      rw [List.forall_mem_append] at bare
      have apart : first ≠ ' ' := fun same => starts (congrArg some same)
      have token := isGap_of_isBare (readable'.bare first List.mem_cons_self) apart
      have noComment := (isBare_spec (readable'.bare first List.mem_cons_self)).2.2.2.2.1
      have solid' : IsSolid (first :: more ++ '\n' :: (List.replicate count ' ' ++ next)) :=
        isSolid_cons token noComment
      obtain ⟨taken, dropped⟩ := white_spaces line (column + word.length) (index + word.length)
        (spaces + 1) (isWhite_of_isSolid solid')
      rw [List.append_assoc, List.append_assoc, plainFrom_word (atDocumentMark_place inside) bare.1
        visible nonempty (.inl rfl), dropped]
      generalize List.takeWhile _ _ = white at taken
      obtain ⟨unbroken, separates⟩ := separator_spaces taken
      have noTab : '\t' ∉ texts white := by
        rw [taken]
        simp
      have some' : white ≠ [] := by
        rintro rfl
        cases taken
      have deeper : indentation ≤ ((column + word.length + (spaces + 1) : Nat) : Int) := by omega
      have shorter : (first :: more).length ≤ bound.length := by
        simp only [List.length_append, List.length_cons, List.length_replicate] at enough ⊢
        omega
      have inside' : 0 < column + word.length + (spaces + 1) := by omega
      obtain ⟨later, read⟩ := @inductionHypothesis _ (index + word.length + (spaces + 1)) readable'
        inside' deeper (List.replicate (spaces + 1) ' ') false bound shorter
      refine ⟨later, ?_⟩
      rw [if_neg (by simp [some']), if_neg (by simp [hasMisplacedTab_eq_false noTab]),
        if_neg (by rw [first_place]; exact Int.not_lt.2 deeper), separates, unbroken,
        show ((0 : Nat) != 0) = false from rfl, read]
      simp

/-- A readable text is plain if no other token starts like it. -/
structure IsPlain (text : List Char) : Prop extends Readable text where
  lead : ∀ character ∈ text.head?, isIndicator character = false ∧ character ≠ '.'

/-- A name is a plain word that is short enough for a key. -/
structure IsName (word : List Char) : Prop extends IsPlain word where
  visible : ' ' ∉ word
  short : word.length ≤ 1024

instance (text : List Char) : Decidable (IsPlain text) :=
  decidable_of_iff ((text.all fun character => decide (IsBare character)) = true ∧ text ≠ [] ∧
      text.head? ≠ some ' ' ∧ text.getLast? ≠ some ' ' ∧
      (text.head?.all fun character => !isIndicator character && character != '.') = true)
    ⟨fun ⟨bare, nonempty, starts, ends, lead⟩ =>
        ⟨⟨forall_of_all bare, nonempty, starts, ends⟩, by simpa [Option.all_eq_true] using lead⟩,
      fun ⟨⟨bare, nonempty, starts, ends⟩, lead⟩ =>
        ⟨by simpa using bare, nonempty, starts, ends, by simpa [Option.all_eq_true] using lead⟩⟩

instance (word : List Char) : Decidable (IsName word) :=
  decidable_of_iff (IsPlain word ∧ ' ' ∉ word ∧ word.length ≤ 1024)
    ⟨fun ⟨plain, visible, short⟩ => ⟨plain, visible, short⟩,
      fun ⟨plain, visible, short⟩ => ⟨plain, visible, short⟩⟩

/-- A readable text starts a token. -/
theorem Readable.isSolid (readable : Readable text) (rest : List Char) : IsSolid (text ++ rest) := by
  obtain ⟨first, text, rfl⟩ := List.exists_cons_of_ne_nil readable.nonempty
  have bare := readable.bare first List.mem_cons_self
  have visible : first ≠ ' ' := fun same => readable.starts (congrArg some same)
  exact isSolid_cons (isGap_of_isBare bare visible) (isBare_spec bare).2.2.2.2.1

/-- A readable text is read as it is, up to the end of its line. -/
theorem plain_place {indentation : Int} {count : Nat} {next : List Char} (readable : Readable text)
    (inside : 0 < column) (deep : indentation ≤ (column : Int)) (shallow : (count : Int) < indentation)
    (solid : IsSolid next) :
    ∃ later, plain false indentation (place line column index
        (text ++ '\n' :: (List.replicate count ' ' ++ next))) =
      some ⟨text, true, place (line + 1) count later next⟩ := by
  refine plainFrom_place readable inside deep shallow solid [] false _ ?_
  rw [length_place_append (fun character member =>
    (isBare_spec (readable.bare character member)).1.1) line column index]
  exact Nat.le_add_right _ _

/-- A key is read up to its colon. -/
theorem plain_key {indentation : Int} {rest : List Char}
    (unmarked : atDocumentMark (place line column index (word ++ ':' :: rest)) = false)
    (bare : ∀ character ∈ word, IsBare character) (visible : ' ' ∉ word) (nonempty : word ≠ [])
    (gap : isGap (rest.headD finish) = true) :
    plain false indentation (place line column index (word ++ ':' :: rest)) =
      some ⟨word, false, place line (column + word.length) (index + word.length) (':' :: rest)⟩ := by
  obtain ⟨none, _⟩ := @white_visible line (column + word.length) (index + word.length) (':' :: rest)
    rfl
  have read (glyph : Glyph) (bound : Text) := @plainFrom_word line column index word _ indentation []
    false glyph bound unmarked bare visible nonempty (.inr ⟨rest, rfl, gap⟩)
  obtain ⟨more, placed⟩ := exists_place line column index (word ++ ':' :: rest)
  rw [plain]
  refine Eq.trans (congrArg (plainFrom false indentation · [] false _) placed) ?_
  rw [read, none]
  rfl

end Lexeme

end Behavior.Yaml
