import DatabaseOperator.Tls.Der

/-!
# SHA-512

The hash of the SHA-2 family with 64-bit words. Its constants are no table: they
are the first bits behind the point of the roots of the first primes.

- `Sha512.rootBits`: 64 bits behind the point of a square root or a cube root.
- `Sha512.schedule`: the words that one block contributes to the rounds.
- `Sha512.State.step`, `Sha512.State.absorb`: one round, and one block.
- `Sha512.hash`: the hash of bytes.
-/

namespace DatabaseOperator.Sha512

/-! ## Constants -/

/-- The largest number below `2 ^ bits` more than `low` whose power is at most
`n`, found bit by bit. -/
def rootFrom (power n : Nat) : (bits low : Nat) → Nat
  | 0, low => low
  | bits + 1, low =>
    let high := low + Nat.pow 2 bits
    rootFrom power n bits (if Nat.pow high power ≤ n then high else low)

/-- The first 64 bits behind the point of a root of a number below 512. -/
def rootBits (power n : Nat) : UInt64 :=
  UInt64.ofNat (rootFrom power (n * Nat.pow 2 (64 * power)) 69 0)

/-- A number below 529 that no number but one and itself divides. -/
def isPrime (n : Nat) : Bool :=
  2 ≤ n && [2, 3, 5, 7, 11, 13, 17, 19].all fun d => n ≤ d || n % d != 0

/-- The first eighty primes. -/
def primes : List Nat :=
  (List.range 410).filter isPrime

/-- The words that the rounds add, one for each of them. -/
def roundWords : List UInt64 :=
  primes.map (rootBits 3)

/-! ## Rounds -/

/-- The eight words that the rounds mix. -/
structure State where
  a : UInt64
  b : UInt64
  c : UInt64
  d : UInt64
  e : UInt64
  f : UInt64
  g : UInt64
  h : UInt64
deriving DecidableEq, Repr

/-- A word turned to the right. -/
def turn (x n : UInt64) : UInt64 :=
  (x >>> n) ||| (x <<< (64 - n))

namespace State

/-- The words at the beginning. -/
def start : State :=
  let w := rootBits 2
  ⟨w 2, w 3, w 5, w 7, w 11, w 13, w 17, w 19⟩

/-- One round with a word of its own and a word of the block. -/
def step (s : State) (words : UInt64 × UInt64) : State :=
  let choice := (s.e &&& s.f) ^^^ (~~~s.e &&& s.g)
  let majority := (s.a &&& s.b) ^^^ (s.a &&& s.c) ^^^ (s.b &&& s.c)
  let t := s.h + (turn s.e 14 ^^^ turn s.e 18 ^^^ turn s.e 41) + choice
    + words.1 + words.2
  let u := (turn s.a 28 ^^^ turn s.a 34 ^^^ turn s.a 39) + majority
  ⟨t + u, s.a, s.b, s.c, s.d + t, s.e, s.f, s.g⟩

/-- The sums of the words of two states. -/
def add (s t : State) : State :=
  ⟨s.a + t.a, s.b + t.b, s.c + t.c, s.d + t.d, s.e + t.e, s.f + t.f, s.g + t.g,
    s.h + t.h⟩

/-- The words of a state. -/
def words (s : State) : List UInt64 :=
  [s.a, s.b, s.c, s.d, s.e, s.f, s.g, s.h]

end State

/-- The words of a block and those made from them, one for each round. -/
def schedule (block : List UInt64) : List UInt64 :=
  let words := (List.range 64).foldl
    (fun (w : Array UInt64) i =>
      let x := w.getD (i + 1) 0
      let y := w.getD (i + 14) 0
      w.push (w.getD i 0 + (turn x 1 ^^^ turn x 8 ^^^ (x >>> 7))
        + w.getD (i + 9) 0
        + (turn y 19 ^^^ turn y 61 ^^^ (y >>> 6))))
    block.toArray
  words.toList

/-- A state after a block of sixteen words. -/
def State.absorb (s : State) (block : List UInt64) : State :=
  s.add ((roundWords.zip (schedule block)).foldl State.step s)

/-! ## Bytes -/

/-- A list cut into pieces of a length, so many of them. -/
def pieces {α : Type} (length count : Nat) (items : List α) : List (List α) :=
  (List.range count).map fun i => (items.drop (length * i)).take length

/-- The blocks of bytes: a mark is put behind them, and the number of their bits
ends the last block. -/
def blocks (bytes : List UInt8) : List (List UInt64) :=
  let count := (bytes.length + 17 + 127) / 128
  let padding := List.replicate (count * 128 - bytes.length - 17) (0 : UInt8)
  let padded := bytes ++ 0x80 :: padding ++ Der.toBytes 16 (bytes.length * 8)
  (pieces 128 count padded).map fun block => (pieces 8 16 block).map fun word =>
    UInt64.ofNat (Der.value word)

/-- The hash of bytes. -/
def hash (bytes : List UInt8) : List UInt8 :=
  ((blocks bytes).foldl State.absorb State.start).words.flatMap fun w =>
    Der.toBytes 8 w.toNat

end DatabaseOperator.Sha512
