import Behavior.Proofs.Yaml.Plain
import Behavior.Yaml.Decoder

namespace Behavior.Yaml

open Lexeme

variable {text : String}

/-- What needs no quotes is plain, and no word that stands for an absent value. -/
theorem plain_of_unquoted (unquoted : needsQuotes text = false) :
    IsPlain text.toList ∧ text ≠ "~" ∧ text ≠ "null" := by
  unfold needsQuotes at unquoted
  split at unquoted
  case h_1 => cases unquoted
  case h_2 first rest shape =>
    simp only [Bool.or_eq_false_iff, beq_eq_false_iff_ne] at unquoted
    obtain ⟨⟨⟨⟨⟨⟨⟨starts, ends⟩, noIndicator⟩, noDot⟩, bare⟩, noWord⟩, _⟩, _⟩ := unquoted
    rw [shape]
    refine ⟨⟨⟨?_, List.cons_ne_nil _ _, ?_, ends⟩, ?_⟩, ?_, ?_⟩
    · intro character member
      exact eq_false_of_ne_true (List.any_eq_false.1 bare character member)
    · simpa using starts
    · rintro _ ⟨⟩
      exact ⟨noIndicator, noDot⟩
    · rintro rfl
      exact absurd noWord (by decide)
    · rintro rfl
      exact absurd noWord (by decide)

/-- What holds of the ten digits holds of every digit. -/
theorem forall_of_isDigit {holds : Char → Prop}
    (all : ∀ value < 10, holds (Char.ofNat (48 + value))) {digit : Char}
    (decimal : digit.isDigit = true) : holds digit := by
  simp only [Char.isDigit, Bool.and_eq_true, decide_eq_true_eq, UInt32.le_iff_toNat_le] at decimal
  have bounds : 48 ≤ digit.toNat ∧ digit.toNat ≤ 57 := decimal
  have same := all (digit.toNat - 48) (by omega)
  rwa [Nat.add_sub_cancel' bounds.1, Char.ofNat_toNat] at same

variable {digits : List Char}

/-- Digits carry no sign. -/
theorem splitSign_digits (decimal : ∀ digit ∈ digits, digit.isDigit = true) :
    Decimal.splitSign digits = (false, digits) := by
  unfold Decimal.splitSign
  split
  case h_1 => exact absurd (decimal '+' List.mem_cons_self) (by decide)
  case h_2 => exact absurd (decimal '-' List.mem_cons_self) (by decide)
  case h_3 => rfl

/-- Digits carry no mark of another base. -/
theorem radixMark?_digits (decimal : ∀ digit ∈ digits, digit.isDigit = true) :
    Value.radixMark? digits = none := by
  have second {first letter : Char} {rest : List Char} (shape : digits = first :: letter :: rest) :
      letter.isDigit = true := decimal letter (by simp [shape])
  unfold Value.radixMark?
  split
  case h_4 => rfl
  all_goals exact absurd (second rfl) (by decide)

variable {number : Nat}

theorem toList_toString (number : Nat) : (toString number).toList = Nat.toDigits 10 number := by
  rw [Nat.toString_eq_ofList_toDigits, String.toList_ofList]

theorem isDigit_toDigits : ∀ digit ∈ Nat.toDigits 10 number, digit.isDigit = true :=
  fun _ => Nat.isDigit_of_mem_toDigits (by decide) (by decide)

/-- The digits of a positive number do not start with a zero. -/
theorem head?_toDigits (positive : 0 < number) : (Nat.toDigits 10 number).head? ≠ some '0' := by
  induction number using Nat.strongRecOn with
  | ind number inductionHypothesis =>
    by_cases small : number < 10
    · have nonzero : ∀ number < 10, 0 < number → Nat.digitChar number ≠ '0' := by decide
      rw [Nat.toDigits_of_lt_base small]
      simpa using nonzero number small positive
    · rw [Nat.toDigits_of_base_le (by decide) (Nat.not_lt.1 small), List.head?_append,
        Option.or_of_isSome (by simp [Nat.toDigits_ne_nil])]
      exact inductionHypothesis (number / 10) (by omega) (by omega)

/-- The digits of a number are not padded with zeros. -/
theorem isPadded_toDigits : Value.isPadded (Nat.toDigits 10 number) = false := by
  rw [Value.isPadded, splitSign_digits isDigit_toDigits]
  split
  case h_1 second rest shape =>
    replace shape : Nat.toDigits 10 number = '0' :: second :: rest := shape
    rcases Nat.eq_zero_or_pos number with rfl | positive
    · cases shape
    · exact absurd (congrArg List.head? shape) (head?_toDigits positive)
  case h_2 => rfl

/-- The digits of a number are read as the number. -/
theorem integer?_toDigits : Decimal.integer? (Nat.toDigits 10 number) = some (number : Int) := by
  have decimal : (Nat.toDigits 10 number).all Char.isDigit = true :=
    List.all_eq_true.2 isDigit_toDigits
  have denotes : Decimal.digitsValue (Nat.toDigits 10 number) = number :=
    Nat.ofDigitChars_toDigits (by decide) (by decide)
  rw [Decimal.integer?, splitSign_digits isDigit_toDigits]
  simp [Decimal.natural?, Nat.toDigits_ne_nil, decimal, denotes]

/-- The digits of a number are read as the number. -/
theorem ofUntyped_digits (digits : text.toList = Nat.toDigits 10 number)
    (small : number < UInt32.size) :
    Value.ofUntyped text = .integer number := by
  have apart {word : String} (noDigits : word.toList.all Char.isDigit = false) : text ≠ word := by
    rintro rfl
    rw [digits, List.all_eq_false] at noDigits
    obtain ⟨digit, member, noDigit⟩ := noDigits
    exact noDigit (isDigit_toDigits digit member)
  have noNull : ¬ (decide (text = "~") || decide (text = "null")) = true := by
    simp [@apart "~" rfl, @apart "null" rfl]
  have unmarked : Value.marked? (Nat.toDigits 10 number) = none := by
    rw [Value.marked?, splitSign_digits isDigit_toDigits]
    simp [radixMark?_digits isDigit_toDigits]
  have fits : Value.isWord number = true := by
    have bound : UInt32.size = 4294967296 := rfl
    rw [Value.isWord, Value.wordHalf, Bool.and_eq_true]
    exact ⟨decide_eq_true (by omega), decide_eq_true (by omega)⟩
  rw [Value.ofUntyped]
  simp only [digits, unmarked, isPadded_toDigits, integer?_toDigits, fits]
  rw [if_neg noNull, if_neg (apart rfl), if_neg (apart rfl)]
  rfl

/-- Digits are written without quotes. -/
theorem isPlain_digits (digits : text.toList = Nat.toDigits 10 number) : IsPlain text.toList := by
  have each {holds : Char → Prop} (all : ∀ value < 10, holds (Char.ofNat (48 + value))) :
      ∀ digit ∈ Nat.toDigits 10 number, holds digit :=
    fun digit member => forall_of_isDigit all (isDigit_toDigits digit member)
  rw [digits]
  refine ⟨⟨@each IsBare (by decide), Nat.toDigits_ne_nil, fun space => ?_, fun space => ?_⟩,
    fun digit first => ?_⟩
  · exact absurd (isDigit_toDigits ' ' (List.mem_of_head? space)) (by decide)
  · exact absurd (isDigit_toDigits ' ' (List.mem_of_getLast? space)) (by decide)
  · exact @each (fun digit => isIndicator digit = false ∧ digit ≠ '.') (by decide) digit
      (List.mem_of_head? first)

end Behavior.Yaml
