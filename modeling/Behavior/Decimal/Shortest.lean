namespace Behavior.Decimal

/-- A scaled number is its coefficient times a power of ten. -/
structure Scaled where
  coefficient : Nat
  exponent : Int
  deriving DecidableEq, Repr

/-- A tie is broken between two equally near decimals. -/
inductive Tie where
  | up
  | even
  deriving DecidableEq, Repr

/-- A power with an integral exponent is a quotient of naturals. -/
def power (base : Nat) (exponent : Int) : Nat × Nat :=
  if 0 ≤ exponent then (Nat.pow base exponent.toNat, 1) else (1, Nat.pow base (-exponent).toNat)

/-- A span holds a positive number and the bounds of the reals that round to it, all in units
of a power of two. The bounds belong to the span if it is closed. -/
structure Span where
  lower : Nat
  value : Nat
  upper : Nat
  exponent : Int
  closed : Bool

namespace Span

/-- The number of fractions between two powers of two. -/
def fractions : Nat := 0x800000

/-- The bounds lie halfway to the neighbouring numbers. Below a power of two the lower
neighbour is nearer. -/
def ofBits (bits : UInt32) : Span :=
  let field : Nat := (bits.toNat / fractions) % 256
  let fraction := bits.toNat % fractions
  let mantissa : Nat := if field = 0 then fraction else fraction + fractions
  let exponent : Int := if field = 0 then -149 else (field : Int) - 150
  let gap : Nat := if fraction = 0 ∧ 1 < field then 1 else 2
  ⟨4 * mantissa - gap, 4 * mantissa, 4 * mantissa + 2, exponent - 2, mantissa % 2 == 0⟩

/-- The grid of a power of ten measures the span: one unit of the span is `unit` and one step
of the grid is `step`, over a common denominator. -/
def measure (span : Span) (exponent : Int) : Nat × Nat :=
  let binary := power 2 span.exponent
  let decimal := power 10 exponent
  (binary.1 * decimal.2, decimal.1 * binary.2)

/-- A multiple of the step is inside if it lies between the bounds. -/
def contains (span : Span) (unit step multiple : Nat) : Bool :=
  if span.closed then span.lower * unit ≤ multiple * step && multiple * step ≤ span.upper * unit
  else span.lower * unit < multiple * step && multiple * step < span.upper * unit

/-- Of the two grid neighbours of the value the nearer one inside the span is taken. -/
def nearest? (span : Span) (tie : Tie) (exponent : Int) : Option Nat :=
  let (unit, step) := span.measure exponent
  let below := span.value * unit / step
  let above := below + 1
  let distance := span.value * unit - below * step
  match span.contains unit step below, span.contains unit step above with
  | true, true =>
      if 2 * distance < step then some below
      else if step < 2 * distance then some above
      else if tie = .up || below % 2 = 1 then some above
      else some below
  | true, false => some below
  | false, true => some above
  | false, false => none

/-- The grids are searched from the coarse to the fine ones. Grids coarser than the value
are passed over. -/
def search (span : Span) (tie : Tie) : Nat → Int → Scaled
  | 0, exponent => ⟨0, exponent⟩
  | grids + 1, exponent =>
      let (unit, step) := span.measure exponent
      if span.value * unit < step then search span tie grids (exponent - 1)
      else
        match span.nearest? tie exponent with
        | some 10 => ⟨1, exponent + 1⟩
        | some coefficient => ⟨coefficient, exponent⟩
        | none => search span tie grids (exponent - 1)

end Span

/-- The largest number is below ten to the power 39, and nine digits always suffice for
the smallest one, which is above ten to the power minus 45. -/
def shortest (tie : Tie) (bits : UInt32) : Scaled :=
  (Span.ofBits bits).search tie 94 38

end Behavior.Decimal
