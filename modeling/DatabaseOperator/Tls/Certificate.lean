import DatabaseOperator.Tls.Der

/-!
# Certificates

What has to be right about a certificate before anything is verified with it.

- `Certificate.Extension`: an extension, and
  `Certificate.Extension.isUnderstood`: one that does not stand in the way.
- `Certificate.publicKey?`: the public key of a certificate of version three.
- `Certificate.isAnchor`: a certificate that may stand at the root of trust,
  which may be of version one.
-/

namespace DatabaseOperator.Certificate

open Der (Reader expect nested)

/-! ## Extensions -/

/-- An extension: its name, whether one who does not know it has to give up, and
what it says. -/
structure Extension where
  name : List UInt8
  critical : Bool
  value : List UInt8
deriving DecidableEq, Repr

namespace Extension

/-- The last number of the names that are known: use of the key, other names,
place in chains, limits on names, where revocations are listed, and extended use
of the key. All of them begin with the same two bytes. -/
def knownNumbers : List UInt8 := [15, 17, 19, 30, 31, 37]

/-- The number of a known name. -/
def number? (e : Extension) : Option UInt8 :=
  match e.name with
  | [0x55, 0x1D, n] => if n ∈ knownNumbers then some n else none
  | _ => none

/-- A truth value, which is missing where it is false. -/
def flag : Reader Bool := do
  if ← Der.begins .boolean then
    match ← expect .boolean with
    | [0xFF] => return true
    | [0x00] => return false
    | _ => failure
  else return false

/-- The extension at the front, without the bytes around it. -/
def read : Reader Extension := do
  return { name := ← expect .oid, critical := ← flag
           value := ← expect .octetString }

/-- An extension that does not stand in the way: it is known and says something,
or may be ignored. The use of the key is bits, and all others are sequences. -/
def isUnderstood (e : Extension) : Bool :=
  match e.number? with
  | some n => n == 15 || (Der.whole (expect .sequence) e.value).isSome
  | none => !e.critical

end Extension

/-- Extensions that can be told apart and understood: no known one is there
twice. -/
def areUnderstood (extensions : List Extension) : Bool :=
  extensions.all Extension.isUnderstood
    && decide (extensions.filterMap Extension.number?).Nodup

/-! ## Certificates -/

/-- What a certificate signs, and by which algorithm. -/
structure Signed where
  body : List UInt8
  algorithm : List UInt8
deriving DecidableEq, Repr

/-- A certificate: a body, an algorithm and a signature. -/
def signed : Reader Signed :=
  nested .sequence do
    let body ← expect .sequence
    let algorithm ← expect .sequence
    let _ ← Der.wholeBits
    return { body, algorithm }

/-- The public key in a body of version three. The algorithm is named twice, and
both have to agree. -/
def bodyThree (algorithm : List UInt8) : Reader (List UInt8) := do
  let version ← nested (.explicit 0) Der.natural
  let _serial ← expect .integer
  let named ← expect .sequence
  let _issuer ← expect .sequence
  let _validity ← expect .sequence
  let _subject ← expect .sequence
  let key ← expect .sequence
  let extensions ← if ← Der.atEnd then pure []
    else
      nested (.explicit 3)
        (nested .sequence (Der.many .sequence Extension.read))
  if version = 2 ∧ named = algorithm ∧ areUnderstood extensions then return key
  else failure

/-- The public key in a body of version one, which has no version and no
extensions. -/
def bodyOne : Reader (List UInt8) := do
  let _serial ← expect .integer
  let _algorithm ← expect .sequence
  let _issuer ← expect .sequence
  let _validity ← expect .sequence
  let _subject ← expect .sequence
  expect .sequence

/-- The public key of a certificate of version three, with its algorithm. -/
def publicKey? (bytes : List UInt8) : Option (List UInt8) := do
  let s ← Der.whole signed bytes
  return Der.encode .sequence (← Der.whole (bodyThree s.algorithm) s.body)

/-- A certificate that may stand at the root of trust. -/
def isAnchor (bytes : List UInt8) : Bool :=
  match Der.whole signed bytes with
  | some s =>
    (Der.whole (bodyThree s.algorithm) s.body).isSome
      || (Der.whole bodyOne s.body).isSome
  | none => false

/-! ## Small facts -/

theorem isAnchor_of_publicKey? {bytes key : List UInt8}
    (h : publicKey? bytes = some key) : isAnchor bytes := by
  unfold publicKey? at h
  unfold isAnchor
  cases hs : Der.whole signed bytes with
  | none => simp [hs] at h
  | some s =>
    cases hk : Der.whole (bodyThree s.algorithm) s.body with
    | none => simp [hs, hk] at h
    | some body => simp [hk]

end DatabaseOperator.Certificate
