import Behavior.Proofs.Time.Binary

namespace Behavior.Binary

open Float.Model (UnpackedFloat Format totalExponent)
open Float.Model.UnpackedFloat (Accuracy ExtendedMantissa unpack pack packComponents
  shiftToTargetExponent roundWithAccuracy decreaseExponent)

variable {mantissa other shift rounded exact : Nat} {exponent target : Int}
  {sign : UnpackedFloat.Sign} {number : UnpackedFloat}

/-- A magnitude is rounded to another one if no magnitude of a finite number lies between them. -/
def Rounds (exact rounded : Nat) : Prop :=
  ∀ mantissa exponent, Canonical mantissa exponent → exponent ≤ 104 →
    (magnitude mantissa exponent ≤ exact → magnitude mantissa exponent ≤ rounded) ∧
      (exact ≤ magnitude mantissa exponent → rounded ≤ magnitude mantissa exponent)

/-- A shifted mantissa makes up for a greater exponent. -/
theorem magnitude_shift (low : -149 ≤ exponent) (mantissa shift : Nat) :
    magnitude mantissa (exponent + shift) = magnitude (mantissa * 2 ^ shift) exponent := by
  have split : (exponent + shift + 149).toNat = shift + (exponent + 149).toNat := by omega
  rw [magnitude, magnitude, split, pow_add, Nat.mul_assoc]

/-- At one exponent magnitudes are ordered as their mantissas. -/
theorem magnitude_le_iff : magnitude mantissa exponent ≤ magnitude other exponent ↔
    mantissa ≤ other :=
  Nat.mul_le_mul_right_iff (Nat.two_pow_pos _)

/-- The bits that a shift drops decide between the quotient and its successor, and there are none
to decide if the division leaves no remainder. -/
structure Shifted (mantissa shift rounded : Nat) : Prop where
  least : mantissa / 2 ^ shift ≤ rounded
  most : rounded ≤ mantissa / 2 ^ shift + 1
  exact : 2 ^ shift ∣ mantissa → rounded = mantissa / 2 ^ shift

/-- A shift that leaves a full mantissa, or ends at the least exponent, rounds. -/
theorem Shifted.rounds (shifted : Shifted mantissa shift rounded) (low : -149 ≤ exponent)
    (full : 2 ^ 23 ≤ mantissa / 2 ^ shift ∨ exponent + shift = -149) :
    Rounds (magnitude mantissa exponent) (magnitude rounded (exponent + shift)) := by
  intro other power canonical _
  have positive : 0 < 2 ^ shift := Nat.two_pow_pos shift
  by_cases below : power < exponent + shift
  · -- The quotient is full at a higher exponent, so it exceeds the other mantissa.
    have wide : 2 ^ 23 ≤ mantissa / 2 ^ shift := full.resolve_right (by have := canonical.low; omega)
    have less : magnitude other power < magnitude (2 ^ 23) (exponent + shift) :=
      magnitude_lt canonical ⟨by decide, by omega, .inl (Nat.le_refl _)⟩ below
    have floor : magnitude (2 ^ 23) (exponent + shift) ≤ magnitude mantissa exponent := by
      rw [magnitude_shift low, magnitude_le_iff]
      exact (Nat.le_div_iff_mul_le positive).1 wide
    have grown : magnitude (2 ^ 23) (exponent + shift) ≤ magnitude rounded (exponent + shift) :=
      magnitude_le_iff.2 (Nat.le_trans wide shifted.least)
    omega
  · -- The other number lies on the grid of the quotient.
    obtain ⟨steps, rfl⟩ := Int.le.dest (Int.not_lt.1 below)
    rw [magnitude_shift (by omega) other steps, magnitude_le_iff, magnitude_le_iff,
      magnitude_shift low, magnitude_le_iff, magnitude_le_iff]
    refine ⟨fun least => ?_, fun most => ?_⟩
    · exact Nat.le_trans ((Nat.le_div_iff_mul_le positive).2 least) shifted.least
    · by_cases divides : 2 ^ shift ∣ mantissa
      · rw [shifted.exact divides]
        exact Nat.div_le_of_le_mul (by rwa [Nat.mul_comm])
      · have remains : mantissa / 2 ^ shift < other * 2 ^ steps := by
          refine (Nat.div_lt_iff_lt_mul positive).2 (Nat.lt_of_le_of_ne most ?_)
          rintro rfl
          exact divides (Nat.dvd_mul_left _ _)
        exact Nat.le_trans shifted.most remains

/-- A shift to the right divides by a power of two. -/
theorem mantissa_shiftRight (extended : ExtendedMantissa) (shift : Nat) :
    (extended >>> shift).mantissa = extended.mantissa / 2 ^ shift := by
  induction shift with
  | zero => exact (Nat.div_one _).symm
  | succ shift inductionHypothesis =>
      change (extended >>> shift).mantissa / 2 = _
      rw [inductionHypothesis, Nat.div_div_eq_div_mul, ← Nat.pow_succ]

/-- A shift that divides without a remainder drops no bit. -/
theorem shiftRight_of_dvd (divides : 2 ^ shift ∣ mantissa) :
    (⟨mantissa, false, false⟩ : ExtendedMantissa) >>> shift =
      ⟨mantissa / 2 ^ shift, false, false⟩ := by
  induction shift with
  | zero => exact congrArg (ExtendedMantissa.mk · false false) (Nat.div_one _).symm
  | succ shift inductionHypothesis =>
      have fewer : 2 ^ shift ∣ mantissa := Nat.dvd_trans (Nat.pow_dvd_pow 2 (Nat.le_succ _)) divides
      change ((⟨mantissa, false, false⟩ : ExtendedMantissa) >>> shift).shiftRightOne = _
      obtain ⟨multiple, rfl⟩ := divides
      have even : 2 ^ (shift + 1) * multiple / 2 ^ shift = 2 * multiple := by
        rw [Nat.pow_succ, Nat.mul_assoc, Nat.mul_div_cancel_left _ (Nat.two_pow_pos shift)]
      rw [inductionHypothesis fewer, even, Nat.mul_div_cancel_left _ (Nat.two_pow_pos _)]
      simp [ExtendedMantissa.shiftRightOne]

/-- A mantissa is rounded to itself or to the next one. -/
theorem roundedMantissa_bounds (extended : ExtendedMantissa) :
    extended.mantissa ≤ extended.roundedMantissa ∧
      extended.roundedMantissa ≤ extended.mantissa + 1 := by
  obtain ⟨mantissa, roundBit, stickyBit⟩ := extended
  cases roundBit <;> cases stickyBit <;>
    simp only [ExtendedMantissa.roundedMantissa, ExtendedMantissa.accuracy,
      Accuracy.roundToNearestEven] <;> omega

/-- A mantissa that is shifted and rounded has been shifted by the rule. -/
theorem shifted_roundedMantissa (mantissa shift : Nat) :
    Shifted mantissa shift
      ((⟨mantissa, false, false⟩ : ExtendedMantissa) >>> shift).roundedMantissa := by
  obtain ⟨least, most⟩ := roundedMantissa_bounds
    ((⟨mantissa, false, false⟩ : ExtendedMantissa) >>> shift)
  rw [mantissa_shiftRight] at least most
  refine ⟨least, most, fun divides => ?_⟩
  rw [shiftRight_of_dvd divides]
  rfl

/-- An unpacked number stands for a magnitude of its sign if it is zero or a canonical number of
that magnitude. Its exponent may be too high to be packed. -/
inductive Stands (sign : UnpackedFloat.Sign) : Nat → UnpackedFloat → Prop
  | zero : Stands sign 0 (.zero sign)
  | finite {mantissa : Nat} {exponent : Int} (positive : 0 < mantissa)
      (canonical : Canonical mantissa exponent) :
      Stands sign (magnitude mantissa exponent) (.finite sign mantissa exponent positive)

/-- The exponent leaves 24 bits of the mantissa, unless it is the least one. -/
theorem targetExponent_eq (mantissa : Nat) (exponent : Int) :
    Format.binary32.targetExponent (totalExponent mantissa exponent) =
      max (mantissa.log2 + exponent - 23) (-149) := by
  simp only [Format.targetExponent, totalExponent, Format.mantissaBits, Format.minExponent]
  omega

/-- A narrow mantissa has 24 bits at most. -/
theorem log2_le_of_lt (narrow : mantissa < 2 ^ 24) : mantissa.log2 ≤ 23 := by
  by_cases zero : mantissa = 0
  · rw [zero]
    decide
  · exact Nat.le_of_lt_succ ((Nat.log2_lt zero).2 narrow)

/-- The mantissa is shifted by as much as the exponent grows. -/
theorem shiftToTargetExponent_eq
    (shifts : (max (mantissa.log2 + exponent - 23) (-149) - exponent).toNat = shift) :
    shiftToTargetExponent .binary32 mantissa exponent .exact =
      ((⟨mantissa, false, false⟩ : ExtendedMantissa) >>> shift, exponent + shift) := by
  subst shifts
  rw [shiftToTargetExponent, targetExponent_eq]
  rfl

/-- The number that a rounding ends with once its mantissa has been rounded. -/
def carried (sign : UnpackedFloat.Sign) (mantissa : Nat) (exponent : Int) : UnpackedFloat :=
  let (extended, final) := shiftToTargetExponent .binary32 mantissa exponent .exact
  if zero : extended.mantissa = 0 then .zero sign
  else .finite sign extended.mantissa final (Nat.pos_of_ne_zero zero)

/-- If its rounding has made a mantissa one bit too wide, the bit that is dropped for it is zero. -/
theorem stands_carried (narrow : mantissa ≤ 2 ^ 24) (low : -149 ≤ exponent)
    (full : 2 ^ 23 ≤ mantissa ∨ exponent = -149) :
    Stands sign (magnitude mantissa exponent) (carried sign mantissa exponent) := by
  rcases Nat.lt_or_eq_of_le narrow with narrow | rfl
  · have short := log2_le_of_lt narrow
    have still : (max (mantissa.log2 + exponent - 23) (-149) - exponent).toNat = 0 := by omega
    have kept : shiftToTargetExponent .binary32 mantissa exponent .exact =
        (⟨mantissa, false, false⟩, exponent) := by
      rw [shiftToTargetExponent_eq still, Int.natCast_zero, Int.add_zero]
      rfl
    rw [carried, kept]
    dsimp only
    split
    case isTrue zero =>
      rw [zero, magnitude, Nat.zero_mul]
      exact .zero
    case isFalse => exact .finite _ ⟨narrow, by omega, by omega⟩
  · have once : (max ((2 ^ 24 : Nat).log2 + exponent - 23) (-149) - exponent).toNat = 1 := by
      rw [Nat.log2_two_pow]
      omega
    have dropped : shiftToTargetExponent .binary32 (2 ^ 24) exponent .exact =
        (⟨2 ^ 23, false, false⟩, exponent + (1 : Nat)) := shiftToTargetExponent_eq once
    have scaled : magnitude (2 ^ 24) exponent = magnitude (2 ^ 23) (exponent + (1 : Nat)) :=
      (magnitude_shift low (2 ^ 23) 1).symm
    rw [carried, dropped, scaled]
    exact .finite (by decide) ⟨by decide, by omega, .inl (Nat.le_refl _)⟩

/-- A rounding shifts once, and then carries. -/
theorem roundWithAccuracy_eq
    (shifts : (max (mantissa.log2 + exponent - 23) (-149) - exponent).toNat = shift) :
    roundWithAccuracy .binary32 sign mantissa exponent .exact =
      carried sign ((⟨mantissa, false, false⟩ : ExtendedMantissa) >>> shift).roundedMantissa
        (exponent + shift) := by
  unfold roundWithAccuracy
  rw [shiftToTargetExponent_eq shifts]
  rfl

/-- A mantissa that is not spread over lower exponents than it may be is rounded. -/
theorem stands_roundWithAccuracy (positive : 0 < mantissa) (low : -149 ≤ exponent)
    (raised : exponent ≤ max (mantissa.log2 + exponent - 23) (-149)) :
    ∃ rounded, Rounds (magnitude mantissa exponent) rounded ∧
      Stands sign rounded (roundWithAccuracy .binary32 sign mantissa exponent .exact) := by
  obtain ⟨shift, shifts⟩ :
      ∃ shift, (max (mantissa.log2 + exponent - 23) (-149) - exponent).toNat = shift := ⟨_, rfl⟩
  have shifted := shifted_roundedMantissa mantissa shift
  have scale : 0 < 2 ^ shift := Nat.two_pow_pos shift
  have full : 2 ^ 23 ≤ mantissa / 2 ^ shift ∨ exponent + shift = -149 := by
    by_cases least : exponent + shift = -149
    · exact .inr least
    · have bits : mantissa.log2 = 23 + shift := by omega
      refine .inl ((Nat.le_div_iff_mul_le scale).2 ?_)
      rw [← pow_add, ← bits]
      exact Nat.log2_self_le (by omega)
  have narrow : mantissa / 2 ^ shift < 2 ^ 24 := by
    rw [Nat.div_lt_iff_lt_mul scale, ← pow_add]
    exact Nat.lt_of_lt_of_le Nat.lt_log2_self (Nat.pow_le_pow_right (by decide) (by omega))
  refine ⟨_, shifted.rounds low full, ?_⟩
  rw [roundWithAccuracy_eq shifts]
  have least := shifted.least
  have most := shifted.most
  exact stands_carried (by omega) (by omega) (full.imp_left fun wide => by omega)

/-- A shift to the left adds bits. -/
theorem log2_shiftLeft (positive : 0 < mantissa) (shift : Nat) :
    (mantissa <<< shift).log2 = mantissa.log2 + shift := by
  have scale : 0 < 2 ^ shift := Nat.two_pow_pos shift
  rw [Nat.log2_eq_iff (Nat.shiftLeft_pos_iff.2 positive).ne', Nat.shiftLeft_eq, Nat.add_right_comm,
    pow_add, pow_add, Nat.mul_le_mul_right_iff scale, Nat.mul_lt_mul_right scale]
  exact ⟨Nat.log2_self_le positive.ne', Nat.lt_log2_self⟩

/-- A mantissa that is spread over lower exponents keeps its magnitude. -/
theorem magnitude_shiftLeft (low : -149 ≤ target) (above : target ≤ exponent) :
    magnitude (mantissa <<< (exponent - target).toNat) target = magnitude mantissa exponent := by
  have reached : target + ((exponent - target).toNat : Int) = exponent := by omega
  rw [Nat.shiftLeft_eq, ← magnitude_shift low, reached]

/-- Whatever is rounded stands for the rounded magnitude. -/
theorem stands_round (sign : UnpackedFloat.Sign) (positive : 0 < mantissa)
    (low : -149 ≤ exponent) :
    ∃ rounded, Rounds (magnitude mantissa exponent) rounded ∧
      Stands sign rounded (UnpackedFloat.round .binary32 sign mantissa exponent) := by
  obtain ⟨shift, shifts⟩ :
      ∃ shift, (exponent - max (mantissa.log2 + exponent - 23) (-149)).toNat = shift := ⟨_, rfl⟩
  have steps : (exponent - (exponent - shift)).toNat = shift := by omega
  have kept : magnitude (mantissa <<< (exponent - (exponent - shift)).toNat) (exponent - shift) =
      magnitude mantissa exponent := magnitude_shiftLeft (by omega) (by omega)
  have bits := log2_shiftLeft positive shift
  rw [← kept, steps, UnpackedFloat.round, targetExponent_eq, decreaseExponent, shifts]
  exact stands_roundWithAccuracy (Nat.shiftLeft_pos_iff.2 positive) (by omega) (by omega)

/-- A normal number is unpacked with its hidden bit. -/
theorem unpack_normal {field : BitVec 8} {rest : BitVec 23} (above : field.toNat ≠ 0)
    (below : field.toNat ≠ 255) :
    unpack .binary32 (packComponents .binary32 sign field rest) =
      .finite sign (1#1 ++ rest).toNat (field.toNat - 150) (by rw [toNat_append_one]; omega) := by
  have bounded : field ≠ -1#8 := fun full => below (congrArg BitVec.toNat full)
  have positive : field ≠ 0#8 := fun zero => above (congrArg BitVec.toNat zero)
  simp only [unpack, UnpackedFloat.unpackExponent_packComponents,
    UnpackedFloat.unpackMantissa_packComponents, UnpackedFloat.unpackSign_packComponents,
    UnpackedFloat.Sign.ofBitVec_toBitVec, bounded, positive, if_false]
  rfl

/-- A subnormal number is unpacked without one. -/
theorem unpack_subnormal {rest : BitVec 23} (positive : 0 < rest.toNat) :
    unpack .binary32 (packComponents .binary32 sign 0 rest) =
      .finite sign rest.toNat (-149) positive := by
  have nonzero : rest ≠ 0#23 := fun zero => positive.ne' (congrArg BitVec.toNat zero)
  simp only [unpack, UnpackedFloat.unpackExponent_packComponents,
    UnpackedFloat.unpackMantissa_packComponents, UnpackedFloat.unpackSign_packComponents,
    UnpackedFloat.Sign.ofBitVec_toBitVec, nonzero]
  rfl

/-- Infinity is packed with its sign. -/
theorem unpack_pack_infinity (sign : UnpackedFloat.Sign) :
    unpack .binary32 (pack .binary32 (.infinity sign)) = .infinity sign := by
  cases sign <;> rfl

/-- Zero is packed with its sign. -/
theorem unpack_pack_zero (sign : UnpackedFloat.Sign) :
    unpack .binary32 (pack .binary32 (.zero sign)) = .zero sign := by
  cases sign <;> rfl

/-- A canonical number is packed without loss, or as an infinity if its exponent is too high. -/
theorem unpack_pack_finite (positive : 0 < mantissa) (canonical : Canonical mantissa exponent) :
    unpack .binary32 (pack .binary32 (.finite sign mantissa exponent positive)) =
      if exponent ≤ 104 then .finite sign mantissa exponent positive else .infinity sign := by
  have low := canonical.low
  have narrow := canonical.narrow
  have short := log2_le_of_lt narrow
  have biased : (exponent + (127 : Nat) + (23 : Nat)).toNat = (exponent + 150).toNat := by omega
  change unpack .binary32 (if 2 ^ 8 ≤ (exponent + (127 : Nat) + (23 : Nat)).toNat + 1 then
      pack .binary32 (.infinity sign)
    else if mantissa.log2 + 1 = 24 then
      packComponents .binary32 sign (BitVec.ofNat 8 (exponent + (127 : Nat) + (23 : Nat)).toNat)
        (BitVec.ofNat 23 mantissa)
    else packComponents .binary32 sign 0 (BitVec.ofNat 23 mantissa)) = _
  rw [biased]
  by_cases finite : exponent ≤ 104
  · rw [if_pos finite, if_neg (by omega)]
    by_cases wide : 2 ^ 23 ≤ mantissa
    · have bits : 23 ≤ mantissa.log2 := (Nat.le_log2 positive.ne').2 wide
      have field : (BitVec.ofNat 8 (exponent + 150).toNat).toNat = (exponent + 150).toNat :=
        Nat.mod_eq_of_lt (by omega)
      have rest : (1#1 ++ BitVec.ofNat 23 mantissa).toNat = mantissa := by
        rw [toNat_append_one, BitVec.toNat_ofNat]
        omega
      rw [if_pos (by omega)]
      generalize BitVec.ofNat 8 (exponent + 150).toNat = biasedField at field ⊢
      refine (unpack_normal (by omega) (by omega)).trans ?_
      congr 1
      omega
    · have bits : mantissa.log2 < 23 := (Nat.log2_lt positive.ne').2 (Nat.lt_of_not_le wide)
      have rest : (BitVec.ofNat 23 mantissa).toNat = mantissa :=
        Nat.mod_eq_of_lt (Nat.lt_of_not_le wide)
      obtain rfl : exponent = -149 := canonical.full.resolve_left wide
      rw [if_neg (by omega)]
      generalize BitVec.ofNat 23 mantissa = bits at rest ⊢
      refine (unpack_subnormal (by omega)).trans ?_
      congr 1
  · rw [if_neg finite, if_pos (by omega)]
    exact unpack_pack_infinity sign

/-- What a number stands for is packed without loss, as far as it is finite. -/
theorem Stands.unpack_pack (stands : Stands sign rounded number) :
    unpack .binary32 (pack .binary32 number) ≠ .notANumber ∧
      units (unpack .binary32 (pack .binary32 number)) = sign.apply (min rounded beyond : Nat) := by
  cases stands with
  | zero =>
      rw [unpack_pack_zero]
      exact ⟨nofun, by cases sign <;> rfl⟩
  | @finite mantissa exponent positive canonical =>
      rw [unpack_pack_finite positive canonical]
      by_cases finite : exponent ≤ 104
      · rw [if_pos finite, Nat.min_eq_left (magnitude_lt_beyond canonical finite).le]
        exact ⟨nofun, rfl⟩
      · rw [if_neg finite, Nat.min_eq_right (beyond_le_magnitude canonical (by omega))]
        exact ⟨nofun, rfl⟩

/-- What is rounded and packed is rounded, whether or not it becomes infinite. -/
theorem packed_round (sign : UnpackedFloat.Sign) (positive : 0 < mantissa)
    (low : -149 ≤ exponent) :
    ∃ packed : Nat, Rounds (magnitude mantissa exponent) packed ∧
      unpack .binary32 (pack .binary32 (UnpackedFloat.round .binary32 sign mantissa exponent)) ≠
        .notANumber ∧
      units (unpack .binary32
        (pack .binary32 (UnpackedFloat.round .binary32 sign mantissa exponent))) =
          sign.apply packed := by
  obtain ⟨rounded, rounds, stands⟩ := stands_round sign positive low
  refine ⟨min rounded beyond, fun other power canonical finite => ?_, stands.unpack_pack⟩
  obtain ⟨least, most⟩ := rounds other power canonical finite
  have below := magnitude_lt_beyond canonical finite
  omega

/-- A proper number is packed without loss. -/
theorem unpack_pack (proper : Proper number) :
    unpack .binary32 (pack .binary32 number) = number := by
  cases number with
  | notANumber => rfl
  | zero sign => exact unpack_pack_zero sign
  | infinity sign => exact unpack_pack_infinity sign
  | finite sign mantissa exponent positive =>
      rw [unpack_pack_finite positive proper.1, if_pos proper.2]

/-- A positive total is rounded as its magnitude. -/
theorem normalize_of_pos {total : Int} (positive : 0 < total) (zeroSign : UnpackedFloat.Sign) :
    UnpackedFloat.normalize .binary32 total exponent zeroSign =
      UnpackedFloat.round .binary32 .positive total.toNat exponent := by
  rw [UnpackedFloat.normalize, compare_gt_iff_gt.2 positive]

/-- A negative total is rounded as its magnitude, and keeps its sign. -/
theorem normalize_of_neg {total : Int} (negative : total < 0) (zeroSign : UnpackedFloat.Sign) :
    UnpackedFloat.normalize .binary32 total exponent zeroSign =
      UnpackedFloat.round .binary32 .negative (-total).toNat exponent := by
  rw [UnpackedFloat.normalize, compare_lt_iff_lt.2 negative]

/-- An exact number of units is rounded to another one if no finite number lies between them. -/
def Nearest (exact rounded : Int) : Prop :=
  ∀ number, Proper number → (∀ sign, number ≠ .infinity sign) →
    (units number ≤ exact → units number ≤ rounded) ∧
      (exact ≤ units number → rounded ≤ units number)

/-- The units that a signed mantissa stands for. -/
def scaled (total exponent : Int) : Int := total * 2 ^ (exponent + 149).toNat

theorem apply_magnitude (sign : UnpackedFloat.Sign) (mantissa : Nat) (exponent : Int) :
    sign.apply (magnitude mantissa exponent) = scaled (sign.apply mantissa) exponent := by
  cases sign <;> simp [UnpackedFloat.Sign.apply, magnitude, scaled]

/-- A magnitude that is rounded to the nearest is so under either sign. -/
theorem nearest_of_rounds {packed : Nat} (rounds : Rounds exact packed)
    (sign : UnpackedFloat.Sign) : Nearest (sign.apply exact) (sign.apply packed) := by
  intro number proper bounded
  cases number with
  | infinity other => exact absurd rfl (bounded other)
  | notANumber | zero =>
      have floor := rounds 0 (-149) ⟨by decide, by decide, .inr rfl⟩ (by decide)
      rw [magnitude, Nat.zero_mul] at floor
      cases sign <;> dsimp only [units, UnpackedFloat.Sign.apply] <;> omega
  | finite other mantissa exponent positive =>
      have side := rounds mantissa exponent proper.1 proper.2
      cases sign <;> cases other <;> dsimp only [units, UnpackedFloat.Sign.apply] <;> omega

/-- A signed mantissa is rounded and packed to a number that is nearest to it. -/
theorem nearest_normalize (low : -149 ≤ exponent) (total : Int) (zeroSign : UnpackedFloat.Sign) :
    unpack .binary32 (pack .binary32 (UnpackedFloat.normalize .binary32 total exponent zeroSign)) ≠
        .notANumber ∧
      Nearest (scaled total exponent) (units (unpack .binary32
        (pack .binary32 (UnpackedFloat.normalize .binary32 total exponent zeroSign)))) := by
  rcases lt_trichotomy total 0 with negative | rfl | positive
  · have strict : 0 < (-total).toNat := by omega
    have whole : total = UnpackedFloat.Sign.negative.apply (-total).toNat := by
      dsimp only [UnpackedFloat.Sign.apply]
      omega
    obtain ⟨packed, rounds, known, packs⟩ := packed_round .negative strict low
    rw [normalize_of_neg negative, packs]
    refine ⟨known, ?_⟩
    conv in scaled total exponent => rw [whole, ← apply_magnitude]
    exact nearest_of_rounds rounds .negative
  · have zero : UnpackedFloat.normalize .binary32 0 exponent zeroSign = .zero zeroSign := rfl
    rw [zero, unpack_pack_zero, scaled, Int.zero_mul]
    exact ⟨nofun, fun _ _ _ => ⟨id, id⟩⟩
  · have strict : 0 < total.toNat := by omega
    have whole : total = UnpackedFloat.Sign.positive.apply total.toNat := by
      dsimp only [UnpackedFloat.Sign.apply]
      omega
    obtain ⟨packed, rounds, known, packs⟩ := packed_round .positive strict low
    rw [normalize_of_pos positive, packs]
    refine ⟨known, ?_⟩
    conv in scaled total exponent => rw [whole, ← apply_magnitude]
    exact nearest_of_rounds rounds .positive

end Behavior.Binary
