import DatabaseOperator.Text.Digits

/-!
# Punycode

Text as ASCII: the ASCII characters first, then numbers that say which other
character comes next and where. The numbers are written with a base of 36, and
the weights of their digits follow the numbers before.

- `Punycode.threshold`, `Punycode.adapted`: how many values a digit has that
  ends a number, and the bias for the next number.
- `Punycode.encode`: a text written so.
- `Punycode.decode?`: the text that is written so.
-/

namespace DatabaseOperator.Punycode

/-! ## Digits and bias -/

/-- The digit for a value below 36: letters before numbers. -/
def digit (n : Nat) : Char :=
  if n < 26 then Char.ofNat ('a'.toNat + n)
  else Char.ofNat ('0'.toNat + (n - 26))

/-- The value of a digit. -/
def value? (c : Char) : Option Nat :=
  if 'a' ≤ c ∧ c ≤ 'z' then some (c.toNat - 'a'.toNat)
  else if '0' ≤ c ∧ c ≤ '9' then some (c.toNat - '0'.toNat + 26)
  else none

/-- Values below the threshold end a number. It rises with the place of the
digit. -/
def threshold (bias place : Nat) : Nat :=
  max 1 (min 26 (36 * place - bias))

/-- A number divided until it is small, and by how much. -/
def scaled : (fuel : Nat) → Nat → Nat × Nat
  | 0, n => (n, 0)
  | fuel + 1, n =>
    if n ≤ 455 then (n, 0)
    else
      let (small, k) := scaled fuel (n / 35)
      (small, k + 36)

/-- The bias after a number. Numbers tend to be like the ones before, and the
first one is large. -/
def adapted (number count : Nat) (isFirst : Bool) : Nat :=
  let n := if isFirst then number / 700 else number / 2
  let (small, k) := scaled 64 (n + n / count)
  k + 36 * small / (small + 38)

/-! ## Writing -/

/-- The digits of a number from a place on. Each division by at least ten leaves
less, so that `fuel` may be any number above the one that is written. -/
def numberFrom (bias : Nat) : (fuel place : Nat) → Nat → List Char
  | 0, _, _ => []
  | fuel + 1, place, n =>
    let t := threshold bias place
    if n < t then [digit n]
    else
      digit (t + (n - t) % (36 - t))
        :: numberFrom bias fuel (place + 1) ((n - t) / (36 - t))

/-- The state of writing: the code point that has come, how many characters are
written, what to write next, and the bias. -/
structure Writing where
  point : Nat := 0x80
  count : Nat
  delta : Nat := 0
  bias : Nat := 72
  isFirst : Bool := true
  reversed : List Char

/-- One character of the text while the code point `point` is written. -/
def Writing.step (s : Writing) (c : Char) : Writing :=
  if c.toNat < s.point then { s with delta := s.delta + 1 }
  else if c.toNat = s.point then
    { s with
      reversed := (numberFrom s.bias (s.delta + 1) 1 s.delta).reverse
        ++ s.reversed
      bias := adapted s.delta (s.count + 1) s.isFirst
      count := s.count + 1
      delta := 0
      isFirst := false }
  else s

/-- All occurrences of the next code point written. -/
def Writing.round (text : List Char) (s : Writing) (point : Nat) : Writing :=
  let s :=
    { s with delta := s.delta + (point - s.point) * (s.count + 1), point }
  let s := text.foldl Writing.step s
  { s with delta := s.delta + 1, point := point + 1 }

/-- Code points in rising order, each once. -/
def risingPoints (text : List Char) : List Nat :=
  ((text.map Char.toNat).mergeSort (· ≤ ·)).eraseDups

/-- A text written in ASCII. -/
def encode (text : List Char) : List Char :=
  let basic := text.filter fun c => c.toNat < 0x80
  let start : Writing :=
    { count := basic.length
      reversed := if basic.isEmpty then [] else '-' :: basic.reverse }
  let points := (risingPoints text).filter (0x80 ≤ ·)
  (points.foldl (Writing.round text) start).reversed.reverse

/-! ## Reading -/

/-- Sums and weights stay below this bound. -/
def bound : Nat := Nat.pow 2 32

/-- The number at the front, read from a place on and added to a sum, and what
follows. -/
def readNumber? (bias : Nat) :
    (place weight sum : Nat) → List Char → Option (Nat × List Char)
  | _, _, _, [] => none
  | place, weight, sum, c :: rest => do
    let d ← value? c
    let t := threshold bias place
    let sum := sum + d * weight
    if bound ≤ sum then none
    else if d < t then some (sum, rest)
    else if bound ≤ weight * (36 - t) then none
    else readNumber? bias (place + 1) (weight * (36 - t)) sum rest

/-- The character of a number, if it is one. -/
def char? (n : Nat) : Option Char :=
  if h : n.isValidChar then some (Char.ofNatAux n h) else none

/-- The rest of a text: the characters so far, and the code point and the bias
for the next one. `fuel` bounds the numbers, each of which takes a character at
least. -/
def decodeFrom? :
    (fuel : Nat) → (text : List Char) → (point place bias : Nat) →
      (isFirst : Bool) → List Char →
    Option (List Char)
  | _, text, _, _, _, _, [] => some text
  | 0, _, _, _, _, _, _ => none
  | fuel + 1, text, point, place, bias, isFirst, c :: rest => do
    let (sum, rest) ← readNumber? bias 1 1 place (c :: rest)
    let count := text.length + 1
    let bias := adapted (sum - place) count isFirst
    let point := point + sum / count
    let place := sum % count
    let text := text.take place ++ (← char? point) :: text.drop place
    decodeFrom? fuel text point (place + 1) bias false rest

/-- The text that ASCII characters write. The last hyphen parts the ASCII
characters from the numbers; at the front it parts nothing. -/
def decode? (cs : List Char) : Option (List Char) :=
  let numbers := (cs.reverse.takeWhile (· ≠ '-')).reverse
  let basic := cs.take (cs.length - numbers.length - 1)
  let numbers := if basic.isEmpty then cs else numbers
  decodeFrom? numbers.length basic 0x80 0 72 true numbers

/-! ## Small facts -/

theorem encode_ascii {text : List Char} (h : ∀ c ∈ text, c.toNat < 0x80)
    (hne : text ≠ []) : encode text = text ++ ['-'] := by
  have hbasic : (text.filter fun c => c.toNat < 0x80) = text :=
    List.filter_eq_self.mpr fun c hc => by simpa using h c hc
  have hpoints : (risingPoints text).filter (0x80 ≤ ·) = [] := by
    rw [List.filter_eq_nil_iff]
    intro n hn
    obtain ⟨c, hc, rfl⟩ : ∃ c ∈ text, c.toNat = n := by
      simpa [risingPoints] using hn
    have hlow := h c hc
    simpa using hlow
  simp [encode, hbasic, hpoints, hne]

end DatabaseOperator.Punycode
