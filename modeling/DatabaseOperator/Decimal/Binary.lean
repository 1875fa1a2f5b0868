/-!
# Floats as exact numbers

A finite float stands for a natural number times a power of two, so what is
rounded or printed can be computed exactly.

- `Decimal.significand`: the number and the power of a positive float.
- `Decimal.roundQuotient`: a quotient to the nearest natural number.
-/

namespace DatabaseOperator.Decimal

/-- The significand and the binary exponent of a positive finite float: its
value is `m · 2 ^ e`. -/
def significand (x : Float) : Nat × Int :=
  let bits := x.toBits.toNat
  let field : Nat := bits / 4503599627370496 % 2048
  let fraction : Nat := bits % 4503599627370496
  if field = 0 then (fraction, -1074)
  else (fraction + 4503599627370496, Int.ofNat field - 1075)

/-- A quotient rounded to the nearest natural number, a half to the even one. -/
def roundQuotient (numerator denominator : Nat) : Nat :=
  let q := numerator / denominator
  let r := numerator % denominator
  if 2 * r < denominator then q
  else if denominator < 2 * r then q + 1
  else q + q % 2

end DatabaseOperator.Decimal
