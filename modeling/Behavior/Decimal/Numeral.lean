namespace Behavior.Decimal

/-- A numeral is a sign and a coefficient times a power of ten. -/
structure Numeral where
  negative : Bool
  coefficient : Nat
  exponent : Int
  deriving DecidableEq, Repr

/-- At most one sign stands in front of a number. -/
def splitSign : List Char → Bool × List Char
  | '+' :: rest => (false, rest)
  | '-' :: rest => (true, rest)
  | text => (false, text)

def digitsValue (digits : List Char) : Nat :=
  digits.foldl (fun value digit => 10 * value + (digit.toNat - '0'.toNat)) 0

/-- A natural number is a nonempty run of digits. -/
def natural? (text : List Char) : Option Nat :=
  if !text.isEmpty && text.all Char.isDigit then some (digitsValue text) else none

/-- An integer may carry a sign. -/
def integer? (text : List Char) : Option Int :=
  let (negative, rest) := splitSign text
  (natural? rest).map fun value => if negative then -(value : Int) else value

/-- An exponent follows the letter e. Without the letter it is zero. -/
def exponent? : List Char → Option Int
  | [] => some 0
  | letter :: rest => if letter = 'e' || letter = 'E' then integer? rest else none

namespace Numeral

/-- The point may stand first or last, but some digit has to be there. -/
def parse? (text : List Char) : Option Numeral := do
  let (negative, unsigned) := splitSign text
  let whole := unsigned.takeWhile Char.isDigit
  let rest := unsigned.dropWhile Char.isDigit
  let (fraction, rest) := match rest with
    | '.' :: after => (after.takeWhile Char.isDigit, after.dropWhile Char.isDigit)
    | _ => ([], rest)
  if whole.isEmpty && fraction.isEmpty then none
  else do
    let exponent ← exponent? rest
    pure ⟨negative, digitsValue (whole ++ fraction), exponent - fraction.length⟩

/-- The position of the decimal point behind the first digit. -/
def point (numeral : Numeral) : Int := (toString numeral.coefficient).length + numeral.exponent

/-- The nearest double-precision number, with a tie going to the even one. Numbers from 10³¹⁰
on are beyond all finite ones, and those below 10⁻³³⁰ are nearer to zero than to any other. -/
def magnitude (numeral : Numeral) : Float :=
  if numeral.coefficient = 0 ∨ numeral.point < -330 then 0
  else if 310 < numeral.point then 1 / 0
  else Float.ofScientific numeral.coefficient (numeral.exponent < 0) numeral.exponent.natAbs

def toFloat (numeral : Numeral) : Float :=
  if numeral.negative then -numeral.magnitude else numeral.magnitude

end Numeral

/-- The names of infinities and of no number count as numeric, in any case. -/
def isNumeric (text : String) : Bool :=
  let (_, unsigned) := splitSign text.toList
  (Numeral.parse? text.toList).isSome ||
    ["inf", "infinity", "nan"].contains (String.ofList (unsigned.map Char.toLower))

end Behavior.Decimal
