import DatabaseOperator.Decimal.Grisu
import DatabaseOperator.Text.Digits

/-!
# Styles of decimals

Where the point of a decimal goes. Near one it stands among the digits; far from
one it follows the first digit, and an exponent says how far it has to move.

- `Decimal.Style`: how far from one the point stands among the digits.
- `Decimal.Style.place`: digits with their point.
- `Decimal.Style.text`: a float with the digits that `Decimal.grisu` finds and
  always with a fraction or an exponent.
-/

namespace DatabaseOperator.Decimal

/-- How far from one a number may be to be written without an exponent: below
`10 ^ whole`, and from `10 ^ (-zeros)` on. -/
structure Style where
  whole : Int
  zeros : Int
deriving DecidableEq, Repr

namespace Style

/-- The digits of a positive number with their point, `point` of them before
it. -/
def place (style : Style) (digits : List Char) (point : Int) : List Char :=
  let count : Int := digits.length
  if 0 < point ∧ point ≤ style.whole then
    if count ≤ point then digits ++ List.replicate (point - count).toNat '0'
      ++ ['.', '0']
    else digits.take point.toNat ++ '.' :: digits.drop point.toNat
  else if -style.zeros < point ∧ point ≤ 0 then
    '0' :: '.' :: List.replicate (-point).toNat '0' ++ digits
  else
    let fraction := match digits.drop 1 with
      | [] => []
      | more => '.' :: more
    digits.take 1 ++ fraction ++ 'e' :: (Text.integer (point - 1)).toList

/-- A positive finite float. -/
def positive (style : Style) (x : Float) : List Char :=
  let (m, e) := significand x
  let (q, k) := grisu m e
  let digits := Text.digitChars q
  style.place digits (digits.length + k)

/-- A float as text. -/
def text (style : Style) (x : Float) : String :=
  if x.isNaN then "NaN"
  else if x.isInf then (if x < 0 then "-inf" else "inf")
  else if x == 0 then (if x.toBits = 0 then "0.0" else "-0.0")
  else if x < 0 then String.ofList ('-' :: style.positive (-x))
  else String.ofList (style.positive x)

/-! ## Small facts -/

theorem place_far (style : Style) (d : Char) (point : Int)
    (h : max style.whole 0 < point) :
    style.place [d] point = d :: 'e' :: (Text.integer (point - 1)).toList := by
  have hw : ¬ (0 < point ∧ point ≤ style.whole) := by omega
  have hz : ¬ (-style.zeros < point ∧ point ≤ 0) := by omega
  simp [place, hw, hz]

end Style

end DatabaseOperator.Decimal
