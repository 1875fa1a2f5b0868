import DatabaseOperator.Decimal.Binary

/-!
# Decimals from 64-bit approximations

A float is written with few digits that read back as the same float. The digits
are found without big numbers: the float and the bounds between which all
numbers round to it are multiplied by a power of ten, all as words of 64 bits,
and digits of the upper bound are taken until what is left over lies within the
bounds.

- `Decimal.Word`: a number of 64 significant bits.
- `Decimal.Word.times`: the product, rounded to a word.
- `Decimal.Word.tenTo`: a power of ten, rounded to a word.
- `Decimal.Grisu.closer`: the last digit brought closer to the float.
- `Decimal.grisu`: the decimal of a float.

What is found reads back as the float, but words are not exact: rarely there is
a shorter decimal, and the last digit is not always the nearest one.
-/

namespace DatabaseOperator.Decimal

/-! ## Words -/

/-- The number `significand · 2 ^ exponent`. -/
structure Word where
  significand : Nat
  exponent : Int
deriving DecidableEq, Repr

namespace Word

/-- A number written with 64 significant bits. It may have fewer, and is not
0. -/
def widened (w : Word) : Word :=
  let shift := 63 - w.significand.log2
  ⟨w.significand * Nat.pow 2 shift, w.exponent - shift⟩

/-- The product of two words, rounded to the nearest word, a half upward. -/
def times (a b : Word) : Word :=
  ⟨(a.significand * b.significand + Nat.pow 2 63) / Nat.pow 2 64,
    a.exponent + b.exponent + 64⟩

/-- The word nearest to a power of ten. -/
def tenTo : Int → Word
  | .ofNat k =>
    let power := Nat.pow 10 k
    let extra : Nat := power.log2 - 63
    if extra = 0 then widened ⟨power, 0⟩
    else ⟨roundQuotient power (Nat.pow 2 extra), (extra : Int)⟩
  | .negSucc k =>
    let power := Nat.pow 10 (k + 1)
    let places : Nat := power.log2 + 64
    ⟨roundQuotient (Nat.pow 2 places) power, -(places : Int)⟩

end Word

/-! ## Digits -/

namespace Grisu

/-- The digits found so far, as a natural number `value` of the units in hand,
with the last digit brought closer to the float. The float lies `distance` below
the upper bound, the digits lie `rest` below it, and they may come down as far
as `slack` below it. -/
def closer (unit distance slack : Nat) :
    (steps : Nat) → (value rest : Nat) → Nat
  | 0, value, _ => value
  | steps + 1, value, rest =>
    if rest < distance ∧ unit ≤ slack - rest
        ∧ (rest + unit < distance ∨ rest + unit - distance < distance - rest)
          then
      closer unit distance slack steps (value - 1) (rest + unit)
    else value

/-- The digits after the point of the upper bound. `fraction` and `slack` are
what is left of the bound and of the width of the interval, both in units of
`2 ^ -places` of the digit before; `place` counts the digits after the point.
How far the float lies below the bound is known in these units for fewer than
nine digits only. -/
def fractionDigits (places distance : Nat) :
    (steps place value fraction slack : Nat) → Nat × Int
  | 0, place, value, _, _ => (value, -(place : Int))
  | steps + 1, place, value, fraction, slack =>
    let fraction := fraction * 10
    let slack := slack * 10
    let place := place + 1
    let value := value * 10 + fraction / Nat.pow 2 places
    let fraction := fraction % Nat.pow 2 places
    if fraction < slack then
      let distance := if place < 9 then distance * Nat.pow 10 place else 0
      (closer (Nat.pow 2 places) distance slack 10 value fraction,
        -(place : Int))
    else fractionDigits places distance steps place value fraction slack

/-- The digits before the point of the upper bound, the first `place` of which
are still to come. Where they end within the interval the rest stays out, and
else digits after the point follow. -/
def wholeDigits (places distance slack : Nat) :
    (place value whole fraction : Nat) → Nat × Int
  | 0, value, _, fraction =>
    fractionDigits places distance 20 0 value fraction slack
  | place + 1, value, whole, fraction =>
    let value := value * 10 + whole / Nat.pow 10 place
    let whole := whole % Nat.pow 10 place
    let rest := whole * Nat.pow 2 places + fraction
    if rest ≤ slack
      then (closer (Nat.pow 10 place * Nat.pow 2 places) distance slack 10 value
        rest, place)
    else wholeDigits places distance slack place value whole fraction

/-- The power of ten that brings a word with a binary exponent near one: a
multiple of eight less four. The logarithm of two is taken to seventeen
digits. -/
def scaleFor (exponent : Int) : Int :=
  let least :=
    -(((exponent + 61) * 30102999566398114) / 100000000000000000) + 347
  (least / 8 + 1) * 8 - 348

/-- The bounds between which all numbers round to `m · 2 ^ e`, as words of one
exponent. They lie half way to the next floats, and below a power of two the
next float is only half as far away. -/
def bounds (m : Nat) (e : Int) : Word × Word :=
  let upper := Word.widened ⟨2 * m + 1, e - 1⟩
  let lower : Word :=
    if m = 4503599627370496 then ⟨4 * m - 1, e - 2⟩ else ⟨2 * m - 1, e - 1⟩
  (⟨lower.significand * Nat.pow 2 (lower.exponent - upper.exponent).toNat,
    upper.exponent⟩, upper)

end Grisu

/-- A decimal `q · 10 ^ k` that reads back as the positive float `m · 2 ^ e`. No
upper bound has more than ten digits before the point once it is scaled. -/
def grisu (m : Nat) (e : Int) : Nat × Int :=
  let (lower, upper) := Grisu.bounds m e
  let scale := Grisu.scaleFor upper.exponent
  let power := Word.tenTo scale
  let high := (upper.times power).significand - 1
  let low := (lower.times power).significand + 1
  let middle := ((Word.widened ⟨m, e⟩).times power).significand
  let places := (-(upper.times power).exponent).toNat
  let (q, k) :=
    Grisu.wholeDigits places (high - middle) (high - low) 10 0
      (high / Nat.pow 2 places) (high % Nat.pow 2 places)
  (q, k - scale)

/-! ## Small facts -/

theorem Grisu.closer_le (unit distance slack steps value rest : Nat) :
    closer unit distance slack steps value rest ≤ value := by
  induction steps generalizing value rest with
  | zero => exact Nat.le_refl value
  | succ steps ih =>
    unfold closer
    split
    · exact Nat.le_trans (ih (value - 1) (rest + unit)) (Nat.sub_le value 1)
    · exact Nat.le_refl value

end DatabaseOperator.Decimal
