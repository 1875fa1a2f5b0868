import DatabaseOperator.Tls.Edwards
import DatabaseOperator.Tls.Pem

/-!
# Public keys of private keys

A private key is of use only if it is consistent, and then it has one public
key. Nothing is ever signed here, so that the public keys are all that is kept.

- `PublicKey`: the public keys in use, and `PublicKey.encode`: the form in which
  certificates hold them.
- `PublicKey.Rsa`: the numbers of an RSA key, and `PublicKey.Rsa.isConsistent`:
  what holds among them.
- `PublicKey.ofSec1`: the public key of a private number on a curve.
- `PublicKey.ofPkcs8`: that of a private key that names its algorithm.
- `PublicKey.ofBlock?`: that of the private key in a block.
-/

namespace DatabaseOperator

/-- The public keys in use; points are kept as they are written. -/
inductive PublicKey where
  | rsa (modulus exponent : Nat)
  | curve (c : Curve) (point : List UInt8)
  | edwards (point : List UInt8)
deriving DecidableEq, Repr

namespace PublicKey

open Der (Reader expect)

/-! ## Algorithms -/

/-- The name of RSA among algorithms. -/
def rsaName : List UInt8 :=
  [0x2A, 0x86, 0x48, 0x86, 0xF7, 0x0D, 0x01, 0x01, 0x01]

/-- The name of curves among algorithms; which curve it is stands beside it. -/
def curveName : List UInt8 := [0x2A, 0x86, 0x48, 0xCE, 0x3D, 0x02, 0x01]

/-- The name of the Edwards curve among algorithms. -/
def edwardsName : List UInt8 := [0x2B, 0x65, 0x70]

/-- The algorithm of a key, written. -/
def algorithm : PublicKey → List UInt8
  | rsa _ _ => Der.encode .oid rsaName ++ Der.encode .null []
  | curve c _ => Der.encode .oid curveName ++ Der.encode .oid c.name
  | edwards _ => Der.encode .oid edwardsName

/-- The key itself, written. -/
def bytes : PublicKey → List UInt8
  | rsa modulus exponent =>
    Der.encode .sequence
      (Der.encodeNatural modulus ++ Der.encodeNatural exponent)
  | curve _ point => point
  | edwards point => point

/-- A key as certificates hold it: the algorithm, and the key as bits. -/
def encode (k : PublicKey) : List UInt8 :=
  Der.encode .sequence
    (Der.encode .sequence k.algorithm ++ Der.encodeBits k.bytes)

/-! ## RSA -/

/-- The numbers of a private key of RSA. The last three repeat what the others
say, to compute faster. -/
structure Rsa where
  modulus : Nat
  publicExponent : Nat
  exponent : Nat
  prime : Nat
  otherPrime : Nat
  primeExponent : Nat
  otherExponent : Nat
  coefficient : Nat
deriving DecidableEq, Repr

namespace Rsa

/-- A number is the inverse of another one modulo a third, and less than
that. -/
def isInverse (modulus a b : Nat) : Bool :=
  b < modulus && a * b % modulus == 1

/-- A public exponent that is neither trivial nor too long. -/
def isExponent (e : Nat) : Bool :=
  3 ≤ e && e % 2 == 1 && e < Nat.pow 2 33

/-- The numbers belong together, and the modulus has a length in use. -/
def isConsistent (k : Rsa) : Bool :=
  Nat.pow 2 2047 ≤ k.modulus && k.modulus < Nat.pow 2 8192 && k.modulus % 2 == 1
    && isExponent k.publicExponent
    && k.exponent < k.modulus
    && k.prime < k.modulus && k.otherPrime < k.modulus
      && k.prime * k.otherPrime == k.modulus
    && k.exponent * k.publicExponent % (k.prime - 1) == 1
    && k.exponent * k.publicExponent % (k.otherPrime - 1) == 1
    && isInverse (k.prime - 1) k.publicExponent k.primeExponent
    && isInverse (k.otherPrime - 1) k.publicExponent k.otherExponent
    && isInverse k.prime k.otherPrime k.coefficient

/-- The content of a private key of RSA: a version and the numbers. -/
def content : Reader Rsa := do
  let version ← Der.natural
  let k : Rsa :=
    { modulus := ← Der.natural
      publicExponent := ← Der.natural
      exponent := ← Der.natural
      prime := ← Der.natural
      otherPrime := ← Der.natural
      primeExponent := ← Der.natural
      otherExponent := ← Der.natural
      coefficient := ← Der.natural }
  if version = 0 ∧ k.isConsistent then return k else failure

end Rsa

/-- The public key of a private key of RSA. -/
def ofPkcs1 : Reader PublicKey := do
  let k ← Der.nested .sequence Rsa.content
  return rsa k.modulus k.publicExponent

/-! ## Curves -/

/-- The public key of a private number on a curve. The curve may be named again,
and the public point may be there, written in either form; both have to
agree. -/
def ofSec1 (c : Curve) : Reader PublicKey :=
  Der.nested .sequence do
    let version ← Der.natural
    let secret ← expect .octetString
    let again ←
      if ← Der.begins (.explicit 0) then Der.nested (.explicit 0) (expect .oid)
      else pure c.name
    let given ←
      if ← Der.begins (.explicit 1) then
        some <$> Der.nested (.explicit 1) Der.wholeBits
      else pure none
    let point ← (c.publicPoint? (Der.value secret) : Option (Nat × Nat))
    if version = 1 ∧ again = c.name
      ∧ given.all (fun p => p = c.uncompressed point ∨ p = c.compressed point)
        then
      return curve c (c.uncompressed point)
    else failure

/-! ## Keys that name their algorithm -/

/-- The public key of a seed, which has to be the given one if one is given. -/
def ofSeed (given : Option (List UInt8)) : Reader PublicKey := do
  let seed ← expect .octetString
  let point := Edwards.publicPoint seed
  if seed.length = 32 ∧ given.all (· = 0 :: point) then return edwards point
  else failure

/-- The parts of a private key that names its algorithm: the name, what stands
beside the name, the key, and the bits of a public key, which has its place from
version one on. -/
def pkcs8Parts :
    Reader (List UInt8 × List UInt8 × List UInt8 × Option (List UInt8)) :=
  Der.within .sequence do
    let version ← Der.natural
    let algorithm ← expect .sequence
    let key ← expect .octetString
    let _attributes ←
      if ← Der.begins (.explicit 0) then expect (.explicit 0) else pure []
    let given ←
      if version = 1 ∧ (← Der.begins (.implicit 1)) then
        some <$> expect (.implicit 1)
      else pure none
    let (name, parameters) ←
      ((expect .oid).run algorithm : Option (List UInt8 × List UInt8))
    if version ≤ 1 then return (name, parameters, key, given) else failure

/-- The public key of a private key that names its algorithm. -/
def ofPkcs8 : Reader PublicKey := do
  let (name, parameters, key, given) ← pkcs8Parts
  let found : Option PublicKey := do
    if name = rsaName ∧ parameters = Der.encode .null [] ∧ given = none
      then Der.whole ofPkcs1 key
    else if name = curveName ∧ given = none then
      let named ← Der.whole (expect .oid) parameters
      let c ← Curve.all.find? fun c => c.name == named
      Der.whole (ofSec1 c) key
    else if name = edwardsName ∧ parameters = []
      then Der.whole (ofSeed given) key
    else none
  found

/-- The key lies on a curve. -/
def isOnCurve : PublicKey → Bool
  | curve _ _ => true
  | _ => false

/-- The public key of the private key in a block; what stands behind the key
does not matter. A block for curves may name its algorithm, and otherwise the
first curve counts on which the private number has its place. -/
def ofBlock? (b : Pem.Block) : Option PublicKey :=
  match b.kind with
  | .rsaKey => ofPkcs1.run' b.content
  | .anyKey => ofPkcs8.run' b.content
  | .ecKey =>
    ((ofPkcs8.run' b.content).filter isOnCurve) <|> Curve.all.findSome? fun c =>
      (ofSec1 c).run' b.content
  | _ => none

/-! ## Small facts -/

theorem Rsa.prime_mul_of_isConsistent {k : Rsa} (h : k.isConsistent) :
    k.prime * k.otherPrime = k.modulus := by
  simp only [isConsistent, Bool.and_eq_true, beq_iff_eq] at h
  exact h.1.1.1.1.1.2

end PublicKey

end DatabaseOperator
