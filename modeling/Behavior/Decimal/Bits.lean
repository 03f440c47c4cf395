namespace Behavior.Decimal

/-- The bits are eight hexadecimal digits. All values that are no number look alike. -/
def bits (value : Float32) : String :=
  if value.isNaN then "nan"
  else
    let digits := Nat.toDigits 16 value.toBits.toNat
    String.ofList (List.replicate (8 - digits.length) '0' ++ digits)

end Behavior.Decimal
