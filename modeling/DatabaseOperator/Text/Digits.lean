/-!
# Decimal digits

Reading and writing natural numbers in decimal, with ASCII digits only.

- `Text.digitValue?`: the value of one digit.
- `Text.natural?`: a non-empty run of digits, leading zeros allowed.
- `Text.unsigned?`: an optional plus sign and a run of digits, up to a bound.
- `Text.digits`: a number written with the fewest digits.
- `Text.padded`: a number written with at least so many digits.
-/

namespace DatabaseOperator.Text

/-- The value of an ASCII digit. Digits of other scripts are no digits here. -/
def digitValue? (c : Char) : Option Nat :=
  if '0' ≤ c ∧ c ≤ '9' then some (c.toNat - '0'.toNat) else none

/-- The digit that stands for a value below ten. -/
def digit (n : Nat) : Char :=
  Char.ofNat ('0'.toNat + n % 10)

/-- A number continued by the digits of a list; `none` at the first character
that is no digit. -/
def naturalFrom? (value : Nat) : List Char → Option Nat
  | [] => some value
  | c :: cs =>
    match digitValue? c with
    | some d => naturalFrom? (value * 10 + d) cs
    | none => none

/-- The number that a non-empty run of digits writes. -/
def natural? : List Char → Option Nat
  | [] => none
  | c :: cs => naturalFrom? 0 (c :: cs)

/-- A number of at most `bound`, written as digits with an optional plus sign in
front. -/
def unsigned? (bound : Nat) (s : String) : Option Nat :=
  let body := match s.toList with
    | '+' :: rest => rest
    | cs => cs
  match natural? body with
  | some n => if n ≤ bound then some n else none
  | none => none

/-- The digits of a number, most significant first, zero as one digit. The
digits found so far stand in the second argument; `fuel` bounds their count and
every number has fewer digits than one more than itself. -/
def digitsOnto : (fuel n : Nat) → List Char → List Char
  | 0, _, cs => cs
  | fuel + 1, n, cs =>
    if n < 10 then digit n :: cs else digitsOnto fuel (n / 10) (digit n :: cs)

/-- The digits of a number, most significant first. -/
def digitChars (n : Nat) : List Char :=
  digitsOnto (n + 1) n []

/-- A number in decimal, with the fewest digits. -/
def digits (n : Nat) : String :=
  String.ofList (digitChars n)

/-- The last `width` digits of a number, zeros in front where it has fewer. -/
def lastDigits : (width n : Nat) → List Char
  | 0, _ => []
  | width + 1, n => lastDigits width (n / 10) ++ [digit n]

/-- A number with at least `width` digits. -/
def paddedChars (width n : Nat) : List Char :=
  if n < Nat.pow 10 width then lastDigits width n else digitChars n

/-- An integer in decimal, a minus sign in front of a negative one. -/
def integer : Int → String
  | .ofNat n => digits n
  | .negSucc n => String.ofList ('-' :: digitChars (n + 1))

/-- The lower-case hexadecimal digit of a value below sixteen. -/
def hexDigit (n : Nat) : Char :=
  if n < 10 then Char.ofNat ('0'.toNat + n)
  else Char.ofNat ('a'.toNat + (n - 10))

/-- The value of a hexadecimal digit of either case. -/
def hexValue? (c : Char) : Option Nat :=
  if '0' ≤ c ∧ c ≤ '9' then some (c.toNat - '0'.toNat)
  else if 'a' ≤ c ∧ c ≤ 'f' then some (c.toNat - 'a'.toNat + 10)
  else if 'A' ≤ c ∧ c ≤ 'F' then some (c.toNat - 'A'.toNat + 10)
  else none

/-- The hexadecimal digits of a number put in front of others; `fuel` bounds
their count. -/
def hexOnto : (fuel n : Nat) → List Char → List Char
  | 0, _, cs => cs
  | fuel + 1, n, cs =>
    if n < 16 then hexDigit n :: cs
    else hexOnto fuel (n / 16) (hexDigit (n % 16) :: cs)

/-- A number in lower-case hexadecimal, with the fewest digits. -/
def hexChars (n : Nat) : List Char :=
  hexOnto (n + 1) n []

/-! ## Small facts -/

theorem length_lastDigits (width n : Nat) :
    (lastDigits width n).length = width := by
  induction width generalizing n with
  | zero => rfl
  | succ width ih => simp [lastDigits, ih]

end DatabaseOperator.Text
