import Mathlib

namespace Behavior.Binary

open Float.Model (UnpackedFloat Format)
open Float.Model.UnpackedFloat (unpack)

/-- A mantissa is canonical at an exponent if it has at most 24 bits, and all of them unless the
exponent is the least one. -/
structure Canonical (mantissa : Nat) (exponent : Int) : Prop where
  narrow : mantissa < 2 ^ 24
  low : -149 ≤ exponent
  full : 2 ^ 23 ≤ mantissa ∨ exponent = -149

/-- The magnitude of a mantissa at an exponent is its number of units. -/
def magnitude (mantissa : Nat) (exponent : Int) : Nat := mantissa * 2 ^ (exponent + 149).toNat

/-- Infinity counts as the least magnitude beyond those of all finite numbers. -/
def beyond : Nat := 2 ^ 128 * 2 ^ 149

variable {mantissa other : Nat} {exponent power : Int}

/-- Of two canonical mantissas the one at the higher exponent has the greater magnitude. -/
theorem magnitude_lt (canonical : Canonical mantissa exponent) (counterpart : Canonical other power)
    (less : exponent < power) : magnitude mantissa exponent < magnitude other power := by
  have low := canonical.low
  have wide : 2 ^ 23 ≤ other := counterpart.full.resolve_right (by omega)
  have above : (exponent + 149).toNat + 1 ≤ (power + 149).toNat := by omega
  calc mantissa * 2 ^ (exponent + 149).toNat
      < 2 ^ 24 * 2 ^ (exponent + 149).toNat :=
        Nat.mul_lt_mul_of_pos_right canonical.narrow (Nat.two_pow_pos _)
    _ = 2 ^ 23 * 2 ^ ((exponent + 149).toNat + 1) := by ring
    _ ≤ other * 2 ^ (power + 149).toNat :=
        Nat.mul_le_mul wide (Nat.pow_le_pow_right (by decide) above)

/-- Finite magnitudes stay below infinity. -/
theorem magnitude_lt_beyond (canonical : Canonical mantissa exponent) (finite : exponent ≤ 104) :
    magnitude mantissa exponent < beyond := by
  have above : (exponent + 149).toNat ≤ 253 := by omega
  calc mantissa * 2 ^ (exponent + 149).toNat
      < 2 ^ 24 * 2 ^ (exponent + 149).toNat :=
        Nat.mul_lt_mul_of_pos_right canonical.narrow (Nat.two_pow_pos _)
    _ ≤ 2 ^ 24 * 2 ^ 253 := Nat.mul_le_mul_left _ (Nat.pow_le_pow_right (by decide) above)

/-- What overflows reaches infinity. -/
theorem beyond_le_magnitude (canonical : Canonical mantissa exponent) (overflows : 104 < exponent) :
    beyond ≤ magnitude mantissa exponent := by
  have wide : 2 ^ 23 ≤ mantissa := canonical.full.resolve_right (by omega)
  have above : 254 ≤ (exponent + 149).toNat := by omega
  calc beyond = 2 ^ 23 * 2 ^ 254 := rfl
    _ ≤ mantissa * 2 ^ (exponent + 149).toNat :=
        Nat.mul_le_mul wide (Nat.pow_le_pow_right (by decide) above)

/-- At one exponent the mantissas decide. -/
theorem compare_magnitude (canonical : Canonical mantissa exponent)
    (counterpart : Canonical other power) :
    compare (magnitude mantissa exponent : Int) (magnitude other power) =
      (compare exponent power).then (compare mantissa other) := by
  rcases lt_trichotomy exponent power with less | rfl | greater
  · rw [compare_lt_iff_lt.2 less]
    exact compare_lt_iff_lt.2 (Int.ofNat_lt.2 (magnitude_lt canonical counterpart less))
  · have scaled : (0 : Int) < 2 ^ (exponent + 149).toNat := Int.pow_pos (by decide)
    rw [compare_eq_iff_eq.2 rfl]
    simp only [magnitude, Nat.cast_mul, Nat.cast_pow, Nat.cast_ofNat]
    rcases lt_trichotomy mantissa other with less | rfl | greater
    · rw [compare_lt_iff_lt.2 less]
      exact compare_lt_iff_lt.2 (Int.mul_lt_mul_of_pos_right (Int.ofNat_lt.2 less) scaled)
    · rw [compare_eq_iff_eq.2 rfl, compare_eq_iff_eq.2 rfl]
      rfl
    · rw [compare_gt_iff_gt.2 greater]
      exact compare_gt_iff_gt.2 (Int.mul_lt_mul_of_pos_right (Int.ofNat_lt.2 greater) scaled)
  · rw [compare_gt_iff_gt.2 greater]
    exact compare_gt_iff_gt.2 (Int.ofNat_lt.2 (magnitude_lt counterpart canonical greater))

/-- The units that an unpacked number stands for. -/
def units : UnpackedFloat → Int
  | .infinity sign => sign.apply beyond
  | .notANumber => 0
  | .zero _ => 0
  | .finite sign mantissa exponent _ => sign.apply (magnitude mantissa exponent)

/-- An unpacked number is proper if it is canonical and can be packed. -/
def Proper : UnpackedFloat → Prop
  | .finite _ mantissa exponent _ => Canonical mantissa exponent ∧ exponent ≤ 104
  | _ => True

/-- Positive numbers stand for positive units. -/
theorem units_positive (positive : 0 < mantissa) :
    0 < units (.finite .positive mantissa exponent positive) :=
  Int.ofNat_lt.2 (Nat.mul_pos positive (Nat.two_pow_pos _))

/-- Negative numbers stand for negative units. -/
theorem units_negative (positive : 0 < mantissa) :
    units (.finite .negative mantissa exponent positive) < 0 :=
  have opposite : 0 < units (.finite .positive mantissa exponent positive) := units_positive positive
  Int.neg_neg_of_pos opposite

/-- Only infinities have as many units as infinities. -/
theorem units_within {number : UnpackedFloat} (proper : Proper number)
    (bounded : ∀ sign, number ≠ .infinity sign) :
    -(beyond : Int) < units number ∧ units number < beyond := by
  have infinite : (0 : Int) < beyond := by decide
  cases number with
  | infinity sign => exact absurd rfl (bounded sign)
  | notANumber | zero =>
      dsimp only [units]
      omega
  | finite sign mantissa exponent =>
      have below := magnitude_lt_beyond proper.1 proper.2
      cases sign <;> dsimp only [units, UnpackedFloat.Sign.apply] <;> omega

theorem compare_neg (first second : Int) :
    compare (-first) (-second) = (compare first second).swap := by
  rcases lt_trichotomy first second with less | rfl | greater
  · rw [compare_lt_iff_lt.2 less, compare_gt_iff_gt.2 (Int.neg_lt_neg less)]
    rfl
  · rw [compare_eq_iff_eq.2 rfl, compare_eq_iff_eq.2 rfl]
    rfl
  · rw [compare_gt_iff_gt.2 greater, compare_lt_iff_lt.2 (Int.neg_lt_neg greater)]
    rfl

/-- Proper numbers compare as their units do. -/
theorem compare_eq {first second : UnpackedFloat} (proper : Proper first)
    (counterpart : Proper second) (known : first ≠ .notANumber) (given : second ≠ .notANumber) :
    first.compare second = some (compare (units first) (units second)) := by
  have less (below : units first < units second) :
      some .lt = some (compare (units first) (units second)) :=
    congrArg some (compare_lt_iff_lt.2 below).symm
  have greater (above : units second < units first) :
      some .gt = some (compare (units first) (units second)) :=
    congrArg some (compare_gt_iff_gt.2 above).symm
  fun_cases UnpackedFloat.compare first second with
  | case1 => exact absurd rfl known
  | case2 => exact absurd rfl given
  | case3 sign other => cases sign <;> cases other <;> decide
  | case4 _ _ bounded => exact greater (units_within counterpart bounded).2
  | case5 _ _ bounded => exact less (units_within counterpart bounded).1
  | case6 _ _ bounded => exact less (units_within proper bounded).2
  | case7 _ _ bounded => exact greater (units_within proper bounded).1
  | case8 _ _ positive => exact greater (units_positive positive)
  | case9 _ _ positive => exact less (units_negative positive)
  | case10 _ _ _ positive => exact less (units_positive positive)
  | case11 _ _ _ positive => exact greater (units_negative positive)
  | case12 => rfl
  | case13 =>
      dsimp only [units, UnpackedFloat.Sign.apply]
      rw [compare_neg, compare_magnitude proper.1 counterpart.1]
  | case14 _ _ positive _ _ strict =>
      exact less (lt_trans (units_negative positive) (units_positive strict))
  | case15 _ _ positive _ _ strict =>
      exact greater (lt_trans (units_negative strict) (units_positive positive))
  | case16 => exact congrArg some (compare_magnitude proper.1 counterpart.1).symm

/-- The hidden bit counts. -/
theorem toNat_append_one (rest : BitVec 23) : (1#1 ++ rest).toNat = 2 ^ 23 + rest.toNat := by
  rw [BitVec.toNat_append, ← Nat.shiftLeft_add_eq_or_of_lt rest.isLt]
  rfl

/-- Whatever is unpacked is proper. -/
theorem proper_unpack (bits : BitVec Format.binary32.numBits) : Proper (unpack .binary32 bits) := by
  fun_cases unpack Format.binary32 bits with
  | case1 | case2 | case3 => trivial
  | case4 mantissa field exponent _ _ _ least =>
      have narrow : mantissa.toNat < 2 ^ 23 := mantissa.isLt
      have lowest : exponent + 1 = -149 := by
        dsimp only [exponent]
        rw [least]
        rfl
      exact ⟨⟨by omega, by omega, .inr lowest⟩, by omega⟩
  | case5 mantissa field exponent _ _ bounded above =>
      have narrow : mantissa.toNat < 2 ^ 23 := mantissa.isLt
      have within : field.toNat < 2 ^ 8 := field.isLt
      have positive : field.toNat ≠ 0 := fun zero => above (BitVec.eq_of_toNat_eq zero)
      have below : field.toNat ≠ 255 := fun full => bounded (BitVec.eq_of_toNat_eq full)
      have unbiased : exponent = field.toNat - 150 := rfl
      have wide : (1#1 ++ mantissa).toNat = 2 ^ 23 + mantissa.toNat := toNat_append_one mantissa
      exact ⟨⟨by omega, by omega, .inl (by omega)⟩, by omega⟩

/-- The units that a number stands for. -/
def value (number : Float32) : Int := units number.toModel.unpack

/-- A number is one if it is unpacked as one. -/
theorem isNaN_iff (number : Float32) :
    number.isNaN = false ↔ number.toModel.unpack ≠ .notANumber := by
  change number.toModel.unpack.isNaN = false ↔ _
  rw [ne_eq, ← UnpackedFloat.isNaN_iff, Bool.not_eq_true]

variable {first second third : Float32}

/-- Numbers compare as their units do, unless there is none. -/
theorem compare_unpack :
    first.toModel.unpack.compare second.toModel.unpack =
      if first.isNaN ∨ second.isNaN then none else some (compare (value first) (value second)) := by
  split
  case isTrue unknown =>
    have missing (number : Float32) (none : number.isNaN = true) :
        number.toModel.unpack = .notANumber := by
      by_contra known
      rw [(isNaN_iff number).2 known] at none
      cases none
    rcases unknown with unknown | unknown
    · rw [missing first unknown]
      rfl
    · rw [missing second unknown]
      cases first.toModel.unpack with
      | notANumber | zero | infinity | finite => rfl
  case isFalse known =>
    rw [not_or, Bool.not_eq_true, Bool.not_eq_true, isNaN_iff, isNaN_iff] at known
    exact compare_eq (proper_unpack _) (proper_unpack _) known.1 known.2

/-- Numbers are ordered as their units are. -/
theorem le_iff : first ≤ second ↔
    first.isNaN = false ∧ second.isNaN = false ∧ value first ≤ value second := by
  refine decide_eq_true_iff.trans ?_
  change (first.toModel.unpack.compare second.toModel.unpack).any (·.isLE) = true ↔ _
  rw [compare_unpack]
  cases first.isNaN <;> cases second.isNaN <;> simp [← compare_le_iff_le, Ordering.isLE_iff_ne_gt]

/-- Numbers are strictly ordered as their units are. -/
theorem lt_iff : first < second ↔
    first.isNaN = false ∧ second.isNaN = false ∧ value first < value second := by
  refine decide_eq_true_iff.trans ?_
  change (first.toModel.unpack.compare second.toModel.unpack == some .lt) = true ↔ _
  rw [compare_unpack]
  cases first.isNaN <;> cases second.isNaN <;> simp [compare_lt_iff_lt]

end Behavior.Binary
