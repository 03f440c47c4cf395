import Behavior.Proofs.Yaml.Plain

namespace Behavior.Yaml.Lexeme

open Glyph

variable {line column index : Nat} {character : Char} {word text rest : List Char}

/-- The digits of a control character denote it. -/
theorem radixNatural?_hexDigits {number : Nat} (small : number < 128) :
    (hexDigits 4 number).length = 4 ∧
      Value.radixNatural? 16 (hexDigits 4 number) = some number ∧
      ∀ digit ∈ hexDigits 4 number, IsInline digit := by
  have checked : ∀ number < 128, (hexDigits 4 number).length = 4 ∧
      Value.radixNatural? 16 (hexDigits 4 number) = some number ∧
      ((hexDigits 4 number).all fun digit => decide (IsInline digit)) = true := by
    decide
  obtain ⟨four, denotes, inline⟩ := checked number small
  exact ⟨four, denotes, forall_of_all inline⟩

/-- Every character has its code point. -/
theorem codePoint?_toNat (character : Char) : codePoint? character.toNat = some character := by
  have valid : character.toNat.isValidChar := character.valid
  rw [codePoint?, dif_pos valid]
  rfl

/-- A letter behind a backslash is read as what it stands for. -/
theorem escaped_letter {letter : Char} (known : escapeOf? letter = some character)
    (inline : IsInline letter) :
    escaped (place line column index (letter :: rest)) =
      some (character, place line (column + 1) (index + 1) rest) := by
  rw [escaped, peek_zero_place, List.headD_cons, known, drop_succ_place inline]
  rfl

/-- A number in hexadecimal digits stands for the character with that code. -/
theorem escaped_number (small : character.toNat < 128) :
    escaped (place line column index ('u' :: (hexDigits 4 character.toNat ++ rest))) =
      some (character, place line (column + 5) (index + 5) rest) := by
  obtain ⟨four, denotes, inline⟩ := radixNatural?_hexDigits small
  have taken := @texts_take_place line (column + 1) (index + 1) _ rest inline
  have dropped := @drop_place line (column + 1) (index + 1) _ rest inline
  rw [four] at taken dropped
  have letter : IsInline 'u' := by decide
  rw [escaped, peek_zero_place, List.headD_cons]
  simp only [escapeOf?, codeWidth?, Option.bind_eq_bind, Option.bind_some,
    drop_succ_place letter, List.drop_zero, taken, denotes, codePoint?_toNat]
  exact congrArg (fun after => some (character, after)) dropped

/-- What is written for a character is the character itself, or a backslash and its code. -/
inductive Escapes (character : Char) : List Char → Prop
  | literal (visible : character = ' ' ∨ isGap character = false) (noQuote : character ≠ '"')
      (noBackslash : character ≠ '\\') : Escapes character [character]
  | coded {letter : Char} {digits : List Char} (unbroken : isBreak letter = false)
      (inline : ∀ other ∈ letter :: digits, IsInline other)
      (reads : ∀ {line column index rest},
        escaped (place line column index (letter :: digits ++ rest)) = some (character,
          place line (column + (digits.length + 1)) (index + (digits.length + 1)) rest)) :
      Escapes character ('\\' :: letter :: digits)

/-- A backslash and a known letter escape a character. -/
theorem Escapes.of_letter {letter : Char} (known : escapeOf? letter = some character)
    (inline : IsInline letter) (unbroken : isBreak letter = false) :
    Escapes character ['\\', letter] :=
  .coded unbroken (List.forall_mem_singleton.2 inline) (escaped_letter known inline)

/-- Whatever is written for a character escapes it. -/
theorem escapes (character : Char) : Escapes character (escape character) := by
  unfold escape
  split
  iterate 7 exact .of_letter rfl (by decide) (by decide)
  case _ noQuote noBackslash _ noTab noFeed _ noReturn =>
    split
    case isTrue control =>
      have small : character.toNat < 128 := by
        simp only [Bool.or_eq_true, decide_eq_true_eq] at control
        omega
      obtain ⟨four, _, inline⟩ := radixNatural?_hexDigits small
      refine .coded rfl (List.forall_mem_cons.2 ⟨by decide, inline⟩) ?_
      rw [four]
      exact escaped_number small
    case isFalse visible =>
      refine .literal ?_ noQuote noBackslash
      have noFinish : character ≠ finish := by
        rintro rfl
        exact visible rfl
      by_cases space : character = ' '
      · exact .inl space
      · refine .inr ?_
        simpa [isGap, isBlank, isLineEnd, isBreak, isFinish, space, noFinish] using
          And.intro noTab (And.intro noFeed noReturn)

/-- Nothing that is written for a character ends the line. -/
theorem Escapes.inline {code : List Char} (escapes : Escapes character code) :
    ∀ letter ∈ code, IsInline letter := by
  cases escapes with
  | literal visible =>
      refine List.forall_mem_singleton.2 ?_
      rcases visible with rfl | token
      · decide
      · exact isInline_of_token token
  | coded _ inline _ => exact List.forall_mem_cons.2 ⟨by decide, inline⟩

theorem Escapes.length_pos {code : List Char} (escapes : Escapes character code) :
    0 < code.length := by
  cases escapes <;> exact Nat.succ_pos _

/-- A word within quotes is read character by character. -/
theorem doubleWord_character {glyph : Glyph} {bound : Text} {code : List Char}
    (escapes : Escapes character code) (visible : character ≠ ' ') :
    doubleWord (glyph :: bound) (place line column index (code ++ rest)) = (do
      let word ← doubleWord bound
        (place line (column + code.length) (index + code.length) rest)
      some { word with text := character :: word.text }) := by
  cases escapes with
  | literal token noQuote noBackslash =>
      replace token : isGap character = false := token.resolve_left visible
      rw [List.singleton_append, doubleWord, peek_zero_place, List.headD_cons,
        if_neg (by simp [token, noQuote]), if_neg noBackslash,
        drop_succ_place (isInline_of_token token)]
      rfl
  | @coded letter digits unbroken inline reads =>
      have backslash : IsInline '\\' := by decide
      rw [List.cons_append, doubleWord, peek_zero_place, List.headD_cons, if_neg (by decide),
        if_pos rfl, peek_succ_place backslash, peek_zero_place, List.cons_append, List.headD_cons,
        if_neg (by simp [unbroken]), drop_succ_place backslash, List.drop_zero,
        ← List.cons_append, reads, List.length_cons, List.length_cons, Nat.add_right_comm column,
        Nat.add_right_comm index]
      rfl

/-- A word of a quoted scalar ends at a space or at the closing quote. -/
theorem doubleWord_place (visible : ' ' ∉ word) (bound : Text) (enough : word.length < bound.length)
    (ends : rest.headD finish = ' ' ∨ rest.headD finish = '"') :
    doubleWord bound (place line column index (word.flatMap escape ++ rest)) =
      some ⟨word, false, place line (column + (word.flatMap escape).length)
        (index + (word.flatMap escape).length) rest⟩ := by
  induction word generalizing column index bound with
  | nil =>
      match bound, enough with
      | _ :: _, _ =>
      have stops : (isGap (rest.headD finish) || decide (rest.headD finish = '"')) = true := by
        rcases ends with space | quote
        · rw [space]
          rfl
        · rw [quote]
          rfl
      rw [List.flatMap_nil, List.nil_append, doubleWord, peek_zero_place, if_pos stops]
      rfl
  | cons character word inductionHypothesis =>
      match bound, enough with
      | _ :: bound, enough =>
      obtain ⟨apart, after⟩ := List.ne_and_not_mem_of_not_mem_cons visible
      rw [List.flatMap_cons, List.append_assoc, doubleWord_character (escapes character) (Ne.symm apart),
        inductionHypothesis after bound (Nat.lt_of_succ_lt_succ enough), List.length_append,
        Nat.add_assoc, Nat.add_assoc]
      rfl

/-- A text within quotes stays on its line. -/
theorem inline_escapes (text : List Char) : ∀ letter ∈ text.flatMap escape, IsInline letter := by
  intro letter member
  obtain ⟨character, _, listed⟩ := List.mem_flatMap.1 member
  exact (escapes character).inline letter listed

/-- What is written is not shorter than the text. -/
theorem length_le_escapes (text : List Char) : text.length ≤ (text.flatMap escape).length := by
  induction text with
  | nil => exact Nat.le_refl 0
  | cons character text inductionHypothesis =>
      have some := (escapes character).length_pos
      rw [List.flatMap_cons, List.length_append, List.length_cons]
      omega

theorem length_lt_escapes (text rest : List Char) :
    text.length < (place line column index (text.flatMap escape ++ rest)).length := by
  have positive := @length_place_pos line column index rest
  have escaped := length_le_escapes text
  rw [length_place_append (fun letter member => (inline_escapes text letter member).1)
    line column index]
  omega

/-- Spaces stand for themselves. -/
theorem flatMap_escape_spaces (count : Nat) :
    (List.replicate count ' ').flatMap escape = List.replicate count ' ' := by
  induction count with
  | zero => rfl
  | succ count inductionHypothesis =>
      rw [List.replicate_succ, List.flatMap_cons, inductionHypothesis]
      rfl

/-- What is written for a character starts with an inline character, which is visible unless the
character is a space. -/
theorem Escapes.headD {code : List Char} (escapes : Escapes character code) :
    isFinish ((code ++ rest).headD finish) = false ∧
      (character ≠ ' ' → isWhite ((code ++ rest).headD finish) = false) := by
  cases escapes with
  | coded => exact ⟨rfl, fun _ => rfl⟩
  | literal visible =>
      rcases visible with rfl | token
      · exact ⟨rfl, fun apart => absurd rfl apart⟩
      · obtain ⟨blank, unbroken, more⟩ := isGap_eq_false token
        exact ⟨more, fun _ => by simp [isWhite, blank, unbroken]⟩

/-- A quoted scalar goes on with a word, and ends with it or goes on behind some white space. -/
theorem quotedFrom_word {glyph : Glyph} {bound : Text} (inside : 0 < column) (visible : ' ' ∉ word)
    (ends : text.headD finish = ' ' ∨ text.headD finish = '"') :
    let rest := place line (column + (word.flatMap escape).length)
      (index + (word.flatMap escape).length) text
    quotedFrom '"' (glyph :: bound) (place line column index (word.flatMap escape ++ text)) =
      if text.headD finish = '"' then some (word, rest.drop 1)
      else (do
        let (more, after) ← quotedFrom '"' bound (rest.dropWhile (isIn isWhite))
        some (word ++ separator (rest.takeWhile (isIn isWhite)) ++ more, after)) := by
  have enough : word.length < (place line column index (word.flatMap escape ++ text)).length := by
    exact length_lt_escapes word text
  have started : isFinish ((word.flatMap escape ++ text).headD finish) = false := by
    cases word with
    | nil =>
        rcases ends with space | quote
        · exact congrArg isFinish space
        · exact congrArg isFinish quote
    | cons character word =>
        rw [List.flatMap_cons, List.append_assoc]
        exact (escapes character).headD.1
  have goesOn : ¬ (atDocumentMark (place line column index (word.flatMap escape ++ text)) ||
      isFinish (peek (place line column index (word.flatMap escape ++ text)) 0)) = true := by
    rw [atDocumentMark_place inside, peek_zero_place, started]
    decide
  rw [quotedFrom, if_neg goesOn, if_pos rfl, doubleWord_place visible _ enough ends]
  simp only [Option.bind_eq_bind, Option.bind_some, peek_zero_place, Bool.false_eq_true, if_false]

/-- A quoted scalar is read up to its closing quote. -/
theorem quotedFrom_place (inside : 0 < column) (bound : Text) (enough : text.length < bound.length) :
    ∃ column' index', quotedFrom '"' bound
        (place line column index (text.flatMap escape ++ '"' :: rest)) =
      some (text, place line column' index' rest) := by
  have quote : IsInline '"' := by decide
  induction Words.of_text text generalizing column index bound with
  | @one word visible =>
      match bound, enough with
      | _ :: bound, _ =>
      rw [quotedFrom_word inside visible (.inr rfl), List.headD_cons, if_pos rfl, drop_succ_place quote]
      exact ⟨_, _, rfl⟩
  | @more word text visible count starts _ inductionHypothesis =>
      match bound, enough with
      | _ :: bound, enough =>
      have visible' : isWhite ((text.flatMap escape ++ '"' :: rest).headD finish) = false := by
        cases text with
        | nil => rfl
        | cons character text =>
            rw [List.flatMap_cons, List.append_assoc]
            exact (escapes character).headD.2 fun same => starts (congrArg some same)
      rw [List.flatMap_append, List.flatMap_append, flatMap_escape_spaces, List.append_assoc,
        List.append_assoc, quotedFrom_word inside visible (.inl rfl), List.replicate_succ,
        List.cons_append, List.headD_cons, if_neg (by decide), ← List.cons_append,
        ← List.replicate_succ]
      obtain ⟨taken, dropped⟩ := white_spaces line (column + (word.flatMap escape).length)
        (index + (word.flatMap escape).length) (count + 1) visible'
      rw [dropped, (separator_spaces taken).2]
      have shorter : text.length < bound.length := by
        simp only [List.length_append, List.length_cons, List.length_replicate] at enough
        omega
      obtain ⟨column', index', read⟩ := @inductionHypothesis
        (column + (word.flatMap escape).length + (count + 1))
        (index + (word.flatMap escape).length + (count + 1)) (by omega) bound shorter
      rw [read]
      exact ⟨column', index', by simp⟩

/-- A text in double quotes is read back as it has been before it was escaped. -/
theorem quoted_place :
    ∃ column' index', quoted '"' (place line column index
        ('"' :: (text.flatMap escape ++ '"' :: rest))) =
      some (text, place line column' index' rest) := by
  have quote : IsInline '"' := by decide
  rw [quoted, drop_succ_place quote, List.drop_zero]
  refine quotedFrom_place (Nat.succ_pos column) _ ?_
  rw [place_cons quote]
  exact Nat.lt_succ_of_lt (length_lt_escapes text _)

end Behavior.Yaml.Lexeme
