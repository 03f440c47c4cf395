import Behavior.Proofs.Time.Rounding

namespace Behavior.Binary

open Float.Model (UnpackedFloat)
open Float.Model.UnpackedFloat (unpack pack)

section Unpacked

variable {first second : UnpackedFloat}

/-- What a number becomes when it is stored. -/
def stored (number : UnpackedFloat) : UnpackedFloat := unpack .binary32 (pack .binary32 number)

/-- A proper number is stored as it is. -/
theorem stored_of_proper (proper : Proper first) : stored first = first := unpack_pack proper

theorem stored_infinity (sign : UnpackedFloat.Sign) : stored (.infinity sign) = .infinity sign :=
  unpack_pack_infinity sign

/-- A number is nearest to itself. -/
theorem nearest_units (number : UnpackedFloat) : Nearest (units number) (units number) :=
  fun _ _ _ => ⟨id, id⟩

theorem apply_neg (sign : UnpackedFloat.Sign) (total : Int) :
    (-sign).apply total = -sign.apply total := by
  cases sign with
  | positive => rfl
  | negative => exact (Int.neg_neg total).symm

/-- The opposite number stands for the opposite units. -/
theorem units_neg (number : UnpackedFloat) : units number.neg = -units number := by
  cases number with
  | notANumber | zero => rfl
  | infinity sign => exact apply_neg sign _
  | finite sign => exact apply_neg sign _

/-- The opposite of a proper number is proper. -/
theorem proper_neg (proper : Proper first) : Proper first.neg := by
  cases first with
  | notANumber | zero | infinity | finite => exact proper

/-- A difference is the sum with the opposite number. -/
theorem sub_eq_add_neg (first second : UnpackedFloat) :
    UnpackedFloat.sub .binary32 first second = UnpackedFloat.add .binary32 first second.neg := by
  cases first with
  | notANumber => rfl
  | infinity => cases second with
    | notANumber | infinity | zero | finite => rfl
  | zero sign => cases second with
    | notANumber | infinity | zero | finite => rfl
  | finite => cases second with
    | notANumber | infinity | zero => rfl
    | finite other =>
        simp only [UnpackedFloat.sub, UnpackedFloat.add, UnpackedFloat.neg, apply_neg,
          Int.sub_eq_add_neg]

/-- A sum of mantissas at a lower exponent has the units of both numbers. -/
theorem scaled_add {mantissa other : Nat} {exponent power target : Int} (low : -149 ≤ target)
    (above : target ≤ exponent) (higher : target ≤ power) (sign opposed : UnpackedFloat.Sign) :
    scaled (sign.apply (mantissa <<< (exponent - target).toNat : Nat) +
        opposed.apply (other <<< (power - target).toNat : Nat)) target =
      sign.apply (magnitude mantissa exponent) + opposed.apply (magnitude other power) := by
  have kept : magnitude (mantissa <<< (exponent - target).toNat) target = magnitude mantissa exponent :=
    magnitude_shiftLeft low above
  have held : magnitude (other <<< (power - target).toNat) target = magnitude other power :=
    magnitude_shiftLeft low higher
  rw [← kept, ← held, apply_magnitude, apply_magnitude, scaled, Int.add_mul]
  rfl

/-- The sum of two finite numbers is rounded. -/
theorem nearest_add (proper : Proper first) (counterpart : Proper second)
    (finite : first.isFinite) (bounded : second.isFinite) :
    stored (UnpackedFloat.add .binary32 first second) ≠ .notANumber ∧
      Nearest (units first + units second)
        (units (stored (UnpackedFloat.add .binary32 first second))) := by
  cases first with
  | notANumber | infinity => cases finite
  | zero sign => cases second with
    | notANumber | infinity => cases bounded
    | zero opposed =>
        cases sign <;> cases opposed <;> exact ⟨nofun, nearest_units (.zero .positive)⟩
    | finite opposed other power strict =>
        rw [show units (.zero sign) = 0 from rfl, Int.zero_add]
        change stored (.finite opposed other power strict) ≠ _ ∧
          Nearest _ (units (stored (.finite opposed other power strict)))
        rw [stored_of_proper counterpart]
        exact ⟨nofun, nearest_units _⟩
  | finite sign mantissa exponent positive => cases second with
    | notANumber | infinity => cases bounded
    | zero opposed =>
        rw [show units (.zero opposed) = 0 from rfl, Int.add_zero]
        change stored (.finite sign mantissa exponent positive) ≠ _ ∧
          Nearest _ (units (stored (.finite sign mantissa exponent positive)))
        rw [stored_of_proper proper]
        exact ⟨nofun, nearest_units _⟩
    | finite opposed other power strict =>
        have low : -149 ≤ min exponent power := le_min proper.1.low counterpart.1.low
        dsimp only [units]
        rw [← scaled_add low (Int.min_le_left _ _) (Int.min_le_right _ _)]
        exact nearest_normalize low _ .positive

/-- A number is finite or infinite. -/
theorem finite_or_infinite (known : first ≠ .notANumber) :
    first.isFinite ∨ ∃ sign, first = .infinity sign := by
  cases first with
  | notANumber => exact absurd rfl known
  | infinity sign => exact .inr ⟨sign, rfl⟩
  | zero | finite => exact .inl rfl

/-- Nothing finite changes infinity. -/
theorem add_infinity (finite : first.isFinite) (sign : UnpackedFloat.Sign) :
    UnpackedFloat.add .binary32 first (.infinity sign) = .infinity sign := by
  cases first with
  | notANumber | infinity => cases finite
  | zero | finite => rfl

theorem bounded_of_finite (finite : first.isFinite) (sign : UnpackedFloat.Sign) :
    first ≠ .infinity sign := by
  rintro rfl
  cases finite

/-- A number that is not negative is added to another one. -/
theorem units_le_add (proper : Proper first) (counterpart : Proper second)
    (known : first ≠ .notANumber) (given : second ≠ .notANumber) (least : 0 ≤ units first)
    (grows : 0 ≤ units second) :
    stored (UnpackedFloat.add .binary32 first second) ≠ .notANumber ∧
      units first ≤ units (stored (UnpackedFloat.add .binary32 first second)) := by
  rcases finite_or_infinite known with finite | ⟨sign, rfl⟩
  · have bounded := bounded_of_finite finite
    rcases finite_or_infinite given with reached | ⟨opposed, rfl⟩
    · obtain ⟨number, nearest⟩ := nearest_add proper counterpart finite reached
      exact ⟨number, (nearest first proper bounded).1 (by omega)⟩
    · have below := (units_within proper bounded).2
      rw [add_infinity finite, stored_infinity]
      cases opposed with
      | negative => exact absurd grows (by decide)
      | positive => exact ⟨nofun, below.le⟩
  · cases sign with
    | negative => exact absurd least (by decide)
    | positive =>
        have unlimited : UnpackedFloat.add .binary32 (.infinity .positive) second =
            .infinity .positive := by
          cases second with
          | notANumber => exact absurd rfl given
          | infinity opposed => cases opposed with
            | negative => exact absurd grows (by decide)
            | positive => rfl
          | zero | finite => rfl
        rw [unlimited, stored_infinity]
        exact ⟨nofun, Int.le_refl _⟩

/-- A number that is not negative is subtracted from a finite one. -/
theorem sub_le_units (proper : Proper first) (counterpart : Proper second) (finite : first.isFinite)
    (given : second ≠ .notANumber) (grows : 0 ≤ units second) :
    stored (UnpackedFloat.sub .binary32 first second) ≠ .notANumber ∧
      units (stored (UnpackedFloat.sub .binary32 first second)) ≤ units first := by
  have bounded := bounded_of_finite finite
  have falls := units_neg second
  rw [sub_eq_add_neg]
  rcases finite_or_infinite given with reached | ⟨opposed, rfl⟩
  · have opposite : second.neg.isFinite := by
      cases second with
      | notANumber | infinity => cases reached
      | zero | finite => rfl
    obtain ⟨number, nearest⟩ := nearest_add proper (proper_neg counterpart) finite opposite
    exact ⟨number, (nearest first proper bounded).2 (by omega)⟩
  · have above := (units_within proper bounded).1
    cases opposed with
    | negative => exact absurd grows (by decide)
    | positive =>
        have unlimited : UnpackedFloat.add .binary32 first (.infinity .negative) =
            .infinity .negative := add_infinity finite .negative
        rw [UnpackedFloat.neg, show -UnpackedFloat.Sign.positive = .negative from rfl, unlimited,
          stored_infinity]
        exact ⟨nofun, above.le⟩

end Unpacked

variable {first second third : Float32}

/-- Every number is at most itself. -/
theorem le_refl_of_number (known : first.isNaN = false) : first ≤ first :=
  le_iff.2 ⟨known, known, Int.le_refl _⟩

/-- The order is transitive, for what is no number is not ordered at all. -/
theorem le_trans (below : first ≤ second) (above : second ≤ third) : first ≤ third := by
  rw [le_iff] at below above ⊢
  exact ⟨below.1, above.2.1, below.2.2.trans above.2.2⟩

/-- What is less is at most as much. -/
theorem le_of_lt (below : first < second) : first ≤ second := by
  rw [lt_iff] at below
  exact le_iff.2 ⟨below.1, below.2.1, below.2.2.le⟩

/-- Numbers are ordered totally. -/
theorem lt_of_not_le (known : first.isNaN = false) (given : second.isNaN = false)
    (above : ¬second ≤ first) : first < second :=
  lt_iff.2 ⟨known, given, Int.not_le.1 fun below => above (le_iff.2 ⟨given, known, below⟩)⟩

/-- Of two numbers one is at most the other. -/
theorem le_of_not_lt (known : first.isNaN = false) (given : second.isNaN = false)
    (above : ¬second < first) : first ≤ second :=
  le_iff.2 ⟨known, given, Int.not_lt.1 fun below => above (lt_iff.2 ⟨given, known, below⟩)⟩

/-- What is finite is a number. -/
theorem number_of_finite (finite : first.isFinite) : first.isNaN = false := by
  rw [isNaN_iff]
  intro missing
  change first.toModel.unpack.isFinite = true at finite
  rw [missing] at finite
  cases finite

/-- Only numbers are ordered. -/
theorem number_of_le (below : first ≤ second) : first.isNaN = false ∧ second.isNaN = false :=
  ⟨(le_iff.1 below).1, (le_iff.1 below).2.1⟩

/-- A number between zero and a finite one is finite. -/
theorem finite_of_between (least : 0 ≤ first) (below : first ≤ second) (finite : second.isFinite) :
    first.isFinite := by
  obtain ⟨-, known, low⟩ := le_iff.1 least
  obtain ⟨-, -, high⟩ := le_iff.1 below
  have bounded : value second < beyond :=
    (units_within (proper_unpack _) (bounded_of_finite finite)).2
  rcases finite_or_infinite ((isNaN_iff first).1 known) with finite | ⟨sign, infinite⟩
  · exact finite
  · have whole : value first = sign.apply beyond := congrArg units infinite
    rw [whole] at low high
    cases sign with
    | negative => exact absurd low (by decide)
    | positive => exact absurd (lt_of_le_of_lt high bounded) (lt_irrefl _)

/-- Adding a number that is not negative to another one does not make it less. -/
theorem le_add (least : 0 ≤ first) (grows : 0 ≤ second) : first ≤ first + second := by
  obtain ⟨-, known, least⟩ := le_iff.1 least
  obtain ⟨-, given, grows⟩ := le_iff.1 grows
  obtain ⟨number, above⟩ := units_le_add (proper_unpack _) (proper_unpack _)
    ((isNaN_iff first).1 known) ((isNaN_iff second).1 given) least grows
  exact le_iff.2 ⟨known, (isNaN_iff _).2 number, above⟩

/-- Subtracting a number that is not negative from a finite one does not make it greater. -/
theorem sub_le (finite : first.isFinite) (grows : 0 ≤ second) : first - second ≤ first := by
  obtain ⟨-, given, grows⟩ := le_iff.1 grows
  obtain ⟨number, below⟩ := sub_le_units (proper_unpack _) (proper_unpack _) finite
    ((isNaN_iff second).1 given) grows
  exact le_iff.2 ⟨(isNaN_iff _).2 number, number_of_finite finite, below⟩

end Behavior.Binary
