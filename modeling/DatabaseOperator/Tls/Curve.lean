import DatabaseOperator.Tls.Der

/-!
# Elliptic curves of keys

Curves `y² = x³ - 3x + b` over prime fields, on which the public key is a
multiple of a fixed point by the private one.

- `Curve`: a curve with its base point, and `Curve.all`: those in use.
- `Curve.Point`: a point, its two coordinates divided by powers of a third
  number.
- `Curve.multiple`: a multiple of a point, by doubling and adding.
- `Curve.publicPoint?`: the public point of a private number.
- `Curve.uncompressed`, `Curve.compressed`: the two written forms of a point.
-/

namespace DatabaseOperator

/-! ## Fields -/

/-- A power in the integers modulo a number. -/
def powerModulo (modulus : Int) (base : Int) (n : Nat) : Int :=
  if n = 0 then 1
  else
    let root := powerModulo modulus (base * base % modulus) (n / 2)
    if n % 2 = 1 then root * base % modulus else root
termination_by n

/-- The inverse of a number in the field of a prime order. -/
def inverseModulo (prime : Nat) (n : Int) : Int :=
  powerModulo prime n (prime - 2)

/-! ## Curves -/

/-- A curve with a base point: the order of the field and of the point, the
number of bytes of a coordinate, and the name under which keys refer to it. -/
structure Curve where
  prime : Nat
  b : Int
  baseX : Int
  baseY : Int
  order : Nat
  width : Nat
  name : List UInt8
deriving DecidableEq, Repr

namespace Curve

/-- The curve over a field of 256 bits. -/
def p256 : Curve where
  prime := Nat.pow 2 256 - Nat.pow 2 224 + Nat.pow 2 192 + Nat.pow 2 96 - 1
  b := 0x5ac635d8aa3a93e7b3ebbd55769886bc651d06b0cc53b0f63bce3c3e27d2604b
  baseX := 0x6b17d1f2e12c4247f8bce6e563a440f277037d812deb33a0f4a13945d898c296
  baseY := 0x4fe342e2fe1a7f9b8ee7eb4a7c0f9e162bce33576b315ececbb6406837bf51f5
  order := 0xffffffff00000000ffffffffffffffffbce6faada7179e84f3b9cac2fc632551
  width := 32
  name := [0x2A, 0x86, 0x48, 0xCE, 0x3D, 0x03, 0x01, 0x07]

/-- The curve over a field of 384 bits. -/
def p384 : Curve where
  prime := Nat.pow 2 384 - Nat.pow 2 128 - Nat.pow 2 96 + Nat.pow 2 32 - 1
  b :=
    0xb3312fa7e23ee7e4988e056be3f82d19181d9c6efe8141120314088f5013875ac656398d8a2ed19d2a85c8edd3ec2aef
  baseX :=
    0xaa87ca22be8b05378eb1c71ef320ad746e1d3b628ba79b9859f741e082542a385502f25dbf55296c3a545e3872760ab7
  baseY :=
    0x3617de4a96262c6f5d9e98bf9292dc29f8f41dbd289a147ce9da3113b5f0b8c00a60b1ce1d7e819d7a431d7c90ea0e5f
  order :=
    0xffffffffffffffffffffffffffffffffffffffffffffffffc7634d81f4372ddf581a0db248b0a77aecec196accc52973
  width := 48
  name := [0x2B, 0x81, 0x04, 0x00, 0x22]

/-- The curve over a field of 521 bits. -/
def p521 : Curve where
  prime := Nat.pow 2 521 - 1
  b :=
    0x51953eb9618e1c9a1f929a21a0b68540eea2da725b99b315f3b8b489918ef109e1 *
      Nat.pow 2 256
    + 0x56193951ec7e937b1652c0bd3bb1bf073573df883d2c34f1ef451fd46b503f00
  baseX :=
    0xc6858e06b70404e9cd9e3ecb662395b4429c648139053fb521f828af606b4d3dba *
      Nat.pow 2 256
    + 0xa14b5e77efe75928fe1dc127a2ffa8de3348b3c1856a429bf97e7e31c2e5bd66
  baseY :=
    0x11839296a789a3bc0045c8a5fb42c7d1bd998f54449579b446817afbd17273e662c *
      Nat.pow 2 256
    + 0x97ee72995ef42640c550b9013fad0761353c7086a272c24088be94769fd16650
  order :=
    0x1fffffffffffffffffffffffffffffffffffffffffffffffffffffffffffffffffa *
      Nat.pow 2 256
    + 0x51868783bf2f966b7fcc0148f709a5d03bb5c9b8899c47aebb6fb71e91386409
  width := 66
  name := [0x2B, 0x81, 0x04, 0x00, 0x23]

/-- The curves in use. -/
def all : List Curve := [p256, p384, p521]

/-! ## Points -/

/-- A point with the coordinates `x / z²` and `y / z³`; there are none where `z`
is zero. -/
structure Point where
  x : Int
  y : Int
  z : Int
deriving DecidableEq, Repr

variable (c : Curve)

/-- The base point. -/
def base : Point := ⟨c.baseX, c.baseY, 1⟩

/-- The point without coordinates. -/
def zero : Point := ⟨1, 1, 0⟩

/-- Twice a point. -/
def double (q : Point) : Point :=
  let square := q.y * q.y % c.prime
  let s := 4 * q.x * square % c.prime
  let slope := 3 * (q.x - q.z * q.z) * (q.x + q.z * q.z) % c.prime
  let x := (slope * slope - 2 * s) % c.prime
  ⟨x, (slope * (s - x) - 8 * square * square) % c.prime,
    2 * q.y * q.z % c.prime⟩

/-- The sum of two points. -/
def add (q r : Point) : Point :=
  if q.z = 0 then r
  else if r.z = 0 then q
  else
    let qz := q.z * q.z % c.prime
    let rz := r.z * r.z % c.prime
    let qx := q.x * rz % c.prime
    let qy := q.y * rz * r.z % c.prime
    let h := (r.x * qz - qx) % c.prime
    let slope := (r.y * qz * q.z - qy) % c.prime
    if h = 0 then if slope = 0 then c.double q else zero
    else
      let hh := h * h % c.prime
      let hhh := h * hh % c.prime
      let x := (slope * slope - hhh - 2 * qx * hh) % c.prime
      ⟨x, (slope * (qx * hh - x) - qy * hhh) % c.prime, h * q.z * r.z % c.prime⟩

/-- A multiple of a point. -/
def multiple (n : Nat) (q : Point) : Point :=
  if n = 0 then zero
  else
    let twice := c.double (multiple (n / 2) q)
    if n % 2 = 1 then c.add twice q else twice
termination_by n

/-- The coordinates of a point, unless it has none. -/
def coordinates? (q : Point) : Option (Nat × Nat) :=
  if q.z = 0 then none
  else
    let inverse := inverseModulo c.prime q.z
    let square := inverse * inverse % c.prime
    some ((q.x * square % c.prime).toNat,
      (q.y * square * inverse % c.prime).toNat)

/-- The public point of a private number, which lies between zero and the order
of the base point. -/
def publicPoint? (n : Nat) : Option (Nat × Nat) :=
  if 0 < n ∧ n < c.order then c.coordinates? (c.multiple n c.base) else none

/-- A point written with both coordinates. -/
def uncompressed (q : Nat × Nat) : List UInt8 :=
  0x04 :: (Der.toBytes c.width q.1 ++ Der.toBytes c.width q.2)

/-- A point written with one coordinate, and which of the two roots the other
one is. -/
def compressed (q : Nat × Nat) : List UInt8 :=
  (if q.2 % 2 = 0 then 0x02 else 0x03) :: Der.toBytes c.width q.1

/-- The equation of the curve, at two coordinates. -/
def Contains (x y : Int) : Prop :=
  (y * y - (x * x * x - 3 * x + c.b)) % c.prime = 0

instance (x y : Int) : Decidable (c.Contains x y) :=
  inferInstanceAs (Decidable (_ = _))

/-! ## Small facts -/

theorem contains_base : ∀ c ∈ all, c.Contains c.baseX c.baseY :=
  by decide +kernel

theorem length_uncompressed (q : Nat × Nat) :
    (c.uncompressed q).length = 1 + 2 * c.width := by
  have hb : ∀ width n, (Der.toBytes width n).length = width := by
    intro width
    induction width with
    | zero => intro n; rfl
    | succ width ih => intro n; simp [Der.toBytes, ih]
  simp only [uncompressed, List.length_cons, List.length_append, hb]
  omega

end Curve

end DatabaseOperator
