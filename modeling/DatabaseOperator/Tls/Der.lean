/-!
# DER

The bytes of certificates and keys: elements that begin with a tag and a length,
the length written in one way only.

- `Der.Reader`: a computation that reads bytes from the front of a list, and may
  fail.
- `Der.element`, `Der.expect`: an element of any tag, and the content of one of
  a known tag.
- `Der.nested`, `Der.within`: a content that a reader takes up wholly or in
  part.
- `Der.natural`: a natural number in its shortest form.
- `Der.encode`: an element written.
- `Der.expect_encode`: what is written is read back.
-/

namespace DatabaseOperator.Der

/-! ## Tags -/

/-- The tags in use. -/
inductive Tag where
  | boolean
  | integer
  | bitString
  | octetString
  | null
  | oid
  | sequence
  | implicit (n : Nat)
  | explicit (n : Nat)
deriving DecidableEq, Repr

/-- The byte of a tag. An implicit tag stands before bytes, an explicit one
before elements. -/
def Tag.byte : Tag → UInt8
  | boolean => 0x01
  | integer => 0x02
  | bitString => 0x03
  | octetString => 0x04
  | null => 0x05
  | oid => 0x06
  | sequence => 0x30
  | implicit n => 0x80 + UInt8.ofNat n
  | explicit n => 0xA0 + UInt8.ofNat n

/-! ## Numbers -/

/-- The number that bytes write, the greatest place first. -/
def value (bytes : List UInt8) : Nat :=
  bytes.foldl (fun n b => n * 256 + b.toNat) 0

/-- The last `width` bytes of a number. -/
def toBytes : (width n : Nat) → List UInt8
  | 0, _ => []
  | width + 1, n => toBytes width (n / 256) ++ [UInt8.ofNat (n % 256)]

/-- The natural number of the content of an integer: without sign, and without a
zero in front that no sign bit asks for. -/
def natural? : List UInt8 → Option Nat
  | [] => none
  | [b] => if b < 0x80 then some b.toNat else none
  | b :: c :: rest =>
    if b < 0x80 ∧ (b ≠ 0 ∨ 0x80 ≤ c) then some (value (b :: c :: rest))
    else none

/-! ## Reading -/

/-- A computation that reads from the front of a list of bytes. -/
abbrev Reader (α : Type) : Type :=
  StateT (List UInt8) Option α

/-- The length at the front. Up to 127 it is one byte; else that byte counts
those that follow, which are as few as can be and four at most. -/
def length : Reader Nat := fun
  | [] => none
  | b :: rest =>
    let count := b.toNat - 0x80
    if b < 0x80 then some (b.toNat, rest)
    else if 1 ≤ count ∧ count ≤ 4 ∧ count ≤ rest.length then
      let n := value (rest.take count)
      if 0x80 ≤ n ∧ Nat.pow 256 (count - 1) ≤ n then some (n, rest.drop count)
      else none
    else none

/-- The element at the front: its first byte and its content. Tags take one
byte, and contents are short. -/
def element : Reader (UInt8 × List UInt8) := fun
  | [] => none
  | b :: rest => do
    let (n, rest) ← length rest
    if b % 32 ≠ 31 ∧ n < 0xFFFF ∧ n ≤ rest.length then
      some ((b, rest.take n), rest.drop n)
    else none

/-- The content of the element at the front, which has to have a tag. -/
def expect (tag : Tag) : Reader (List UInt8) := do
  let (b, content) ← element
  if b = tag.byte then return content else failure

/-- What a reader makes of all the bytes. -/
def whole {α : Type} (reader : Reader α) (bytes : List UInt8) : Option α :=
  match reader bytes with
  | some (a, []) => some a
  | _ => none

/-- What a reader makes of the content of the element at the front. -/
def nested {α : Type} (tag : Tag) (reader : Reader α) : Reader α := do
  let content ← expect tag
  (whole reader content : Option α)

/-- What a reader makes of the beginning of the content of the element at the
front. -/
def within {α : Type} (tag : Tag) (reader : Reader α) : Reader α := do
  let content ← expect tag
  (reader.run' content : Option α)

/-- Nothing is left to read. -/
def atEnd : Reader Bool := do
  return (← get).isEmpty

/-- The element at the front has a tag. -/
def begins (tag : Tag) : Reader Bool := do
  return (← get).head? == some tag.byte

/-- Elements up to the end, each taken up by a reader. -/
def many {α : Type} (tag : Tag) (reader : Reader α) : Reader (List α) :=
  fun bytes =>
  loop bytes.length bytes
where
  /-- So many elements at most. -/
  loop : (fuel : Nat) → Reader (List α)
    | _, [] => some ([], [])
    | 0, _ => none
    | fuel + 1, b :: rest => do
      let (a, rest) ← nested tag reader (b :: rest)
      let (as, rest) ← loop fuel rest
      some (a :: as, rest)

/-- The natural number at the front. -/
def natural : Reader Nat := do
  let content ← expect .integer
  natural? content

/-- The bytes of the bit string at the front, all of whose bits are in use. -/
def wholeBits : Reader (List UInt8) := do
  match ← expect .bitString with
  | 0 :: bytes => return bytes
  | _ => failure

/-! ## Writing -/

/-- A length of less than 2^32 in its shortest form. -/
def lengthBytes (n : Nat) : List UInt8 :=
  if n < 0x80 then [UInt8.ofNat n]
  else
    let count :=
      if n < 0x100 then 1
      else if n < 0x10000 then 2 else if n < 0x1000000 then 3 else 4
    UInt8.ofNat (0x80 + count) :: toBytes count n

/-- An element written. -/
def encode (tag : Tag) (content : List UInt8) : List UInt8 :=
  tag.byte :: (lengthBytes content.length ++ content)

/-- The number of bytes that a number takes, at least one. -/
def byteCount (n : Nat) : Nat :=
  if n < 256 then 1 else byteCount (n / 256) + 1

/-- A natural number written. -/
def encodeNatural (n : Nat) : List UInt8 :=
  let bytes := toBytes (byteCount n) n
  encode .integer (if (bytes.head?.getD 0) < 0x80 then bytes else 0 :: bytes)

/-- Bytes written as a bit string. -/
def encodeBits (bytes : List UInt8) : List UInt8 :=
  encode .bitString (0 :: bytes)

/-! ## Small facts -/

theorem length_lengthBytes_short {n : Nat} (h : n < 0x80) (rest : List UInt8) :
    length (lengthBytes n ++ rest) = some (n, rest) := by
  have hn : (UInt8.ofNat n).toNat = n := by
    simp only [UInt8.toNat_ofNat']
    omega
  have hlt : UInt8.ofNat n < 0x80 := by
    rw [UInt8.lt_iff_toNat_lt, hn]
    exact h
  simp [lengthBytes, h, length, hlt, hn]

theorem expect_encode {content : List UInt8} (h : content.length < 0x80)
    (rest : List UInt8) :
    expect .sequence (encode .sequence content ++ rest)
      = some (content, rest) := by
  have hl := length_lengthBytes_short h (content ++ rest)
  have hlt : content.length < 0xFFFF := by omega
  simp only [encode, List.cons_append, List.append_assoc, expect, bind,
    StateT.bind, element, hl, Option.bind]
  rw [if_pos ⟨by decide, hlt, by simp⟩]
  simp only [Tag.byte, ↓reduceIte, List.take_left, List.drop_left]
  rfl

end DatabaseOperator.Der
