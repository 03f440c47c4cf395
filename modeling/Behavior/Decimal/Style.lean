import Behavior.Decimal.Shortest

namespace Behavior.Decimal

/-- A style fixes the written form of a number. The position of the decimal point counts from
the first digit. -/
structure Style where
  tie : Tie
  positional : Int → Bool
  wholeEnding : String
  infinity : String
  notANumber : String

namespace Style

/-- Plain numbers are always positional and end at their last digit. -/
def plain : Style := ⟨.up, fun _ => true, "", "inf", "NaN"⟩

/-- Exact numbers show a fraction, and an exponent below 10⁻⁴ and from 10¹⁶ on. -/
def exact : Style := ⟨.up, fun point => -3 ≤ point && point ≤ 16, ".0", "inf", "NaN"⟩

/-- Numbers in documents show a fraction, and an exponent below 10⁻⁶ and from 10¹³ on.
A tie goes to the even digit. -/
def document : Style := ⟨.even, fun point => -5 ≤ point && point ≤ 13, ".0", ".inf", ".nan"⟩

def zeros (count : Nat) : List Char := List.replicate count '0'

/-- The point stands in front of, within or behind the digits. -/
def writePositional (style : Style) (digits : List Char) (point : Int) : String :=
  if point ≤ 0 then String.ofList (['0', '.'] ++ zeros (-point).toNat ++ digits)
  else if point.toNat < digits.length then
    String.ofList (digits.take point.toNat ++ ['.'] ++ digits.drop point.toNat)
  else String.ofList (digits ++ zeros (point.toNat - digits.length)) ++ style.wholeEnding

/-- One digit stands in front of the point, and the exponent counts from there. -/
def writeScientific (digits : List Char) (point : Int) : String :=
  let mantissa := match digits with
    | first :: second :: rest => first :: '.' :: second :: rest
    | short => short
  String.ofList mantissa ++ "e" ++ toString (point - 1)

def writeScaled (style : Style) (scaled : Scaled) : String :=
  let digits := (toString scaled.coefficient).toList
  let point : Int := digits.length + scaled.exponent
  if style.positional point then style.writePositional digits point
  else writeScientific digits point

def writeMagnitude (style : Style) (value : Float32) : String :=
  if value.isInf then style.infinity
  else if value == 0 then "0" ++ style.wholeEnding
  else style.writeScaled (shortest style.tie value.toBits)

/-- A sign is written for every negative number and for the negative zero. -/
def write (style : Style) (value : Float32) : String :=
  if value.isNaN then style.notANumber
  else if value.toBits < 0x80000000 then style.writeMagnitude value
  else "-" ++ style.writeMagnitude value

end Style

end Behavior.Decimal
