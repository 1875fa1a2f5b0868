import DatabaseOperator.Hash.Sha512
import DatabaseOperator.Tls.Curve

/-!
# The Edwards curve of keys

The curve `-x² + y² = 1 + d x² y²` over the field of order `2 ^ 255 - 19`. A
private key is a seed, whose hash names the multiple of the base point that is
the public key.

- `Edwards.Point`: a point, its coordinates and their product divided by a
  fourth number.
- `Edwards.multiple`: a multiple of a point.
- `Edwards.secret`: the number that a seed stands for.
- `Edwards.publicPoint`: the public point of a seed, written.
-/

namespace DatabaseOperator.Edwards

/-- The order of the field. -/
def prime : Nat := Nat.pow 2 255 - 19

/-- The number `d` of the equation. -/
def d : Int := -121665 * inverseModulo prime 121666 % prime

/-- A point with the coordinates `x / z` and `y / z`; `t / z` is their
product. -/
structure Point where
  x : Int
  y : Int
  z : Int
  t : Int
deriving DecidableEq, Repr

/-- A point from its coordinates. -/
def ofCoordinates (x y : Int) : Point := ⟨x, y, 1, x * y % prime⟩

/-- The base point. -/
def base : Point :=
  ofCoordinates
    0x216936d3cd6e53fec0a4e231fdd6dc5c692cc7609525a7b2c9562d608f25d51a
    0x6666666666666666666666666666666666666666666666666666666666666658

/-- The point that changes no sum. -/
def zero : Point := ofCoordinates 0 1

/-- The sum of two points. The equation has no exceptional cases. -/
def add (q r : Point) : Point :=
  let a := (q.y - q.x) * (r.y - r.x) % prime
  let b := (q.y + q.x) * (r.y + r.x) % prime
  let c := 2 * d * q.t * r.t % prime
  let m := 2 * q.z * r.z % prime
  ⟨(b - a) * (m - c) % prime, (m + c) * (b + a) % prime,
    (m - c) * (m + c) % prime, (b - a) * (b + a) % prime⟩

/-- A multiple of a point. -/
def multiple (n : Nat) (q : Point) : Point :=
  if n = 0 then zero
  else
    let half := multiple (n / 2) q
    let twice := add half half
    if n % 2 = 1 then add twice q else twice
termination_by n

/-- A point written: its second coordinate with the last place first, and
whether the first coordinate is odd in the highest bit. -/
def encode (q : Point) : List UInt8 :=
  let inverse := inverseModulo prime q.z
  let x := (q.x * inverse % prime).toNat
  let y := (q.y * inverse % prime).toNat
  (Der.toBytes 32 (y + x % 2 * Nat.pow 2 255)).reverse

/-- The number that a seed stands for: the first half of its hash, a multiple of
eight between `2 ^ 254` and `2 ^ 255`. -/
def secret (seed : List UInt8) : Nat :=
  let n := Der.value ((Sha512.hash seed).take 32).reverse
  n % Nat.pow 2 254 / 8 * 8 + Nat.pow 2 254

/-- The public point of a seed, written. -/
def publicPoint (seed : List UInt8) : List UInt8 :=
  encode (multiple (secret seed) base)

/-! ## Small facts -/

theorem secret_mod_eight (seed : List UInt8) : secret seed % 8 = 0 := by
  show (Der.value ((Sha512.hash seed).take 32).reverse % Nat.pow 2 254 / 8 * 8
    + Nat.pow 2 254) % 8 = 0
  have heights : Nat.pow 2 254 = 8 * Nat.pow 2 251 := rfl
  omega

end DatabaseOperator.Edwards
