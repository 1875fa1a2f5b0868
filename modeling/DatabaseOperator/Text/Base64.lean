import DatabaseOperator.Text.Digits

/-!
# Base64

Bytes as text over sixty-four characters, in the standard alphabet and with
padding.

- `Base64.encode`: three bytes become four characters, the last group is padded.
- `Base64.decode?`: the reverse; refuses missing or early padding, foreign
  characters and stray low bits, so that every sequence of bytes has one written
  form.
- `Base64.Fault`: what is wrong with a text that `decode?` refuses, and
  `Base64.faultIn`: the fault of a text.
- `Base64.decodeLoose?`: the same for texts that were wrapped or trimmed.
-/

namespace DatabaseOperator.Base64

/-- The character for a value below sixty-four. -/
def symbol (n : Nat) : Char :=
  if n < 26 then Char.ofNat ('A'.toNat + n)
  else if n < 52 then Char.ofNat ('a'.toNat + (n - 26))
  else if n < 62 then Char.ofNat ('0'.toNat + (n - 52))
  else if n = 62 then '+'
  else '/'

/-- The value of a character of the alphabet. -/
def value? (c : Char) : Option Nat :=
  if 'A' ≤ c ∧ c ≤ 'Z' then some (c.toNat - 'A'.toNat)
  else if 'a' ≤ c ∧ c ≤ 'z' then some (c.toNat - 'a'.toNat + 26)
  else if '0' ≤ c ∧ c ≤ '9' then some (c.toNat - '0'.toNat + 52)
  else if c = '+' then some 62
  else if c = '/' then some 63
  else none

/-- The characters for a list of bytes. -/
def encodeBytes : List UInt8 → List Char
  | [] => []
  | [a] =>
    let n := a.toNat * 16
    [symbol (n / 64), symbol (n % 64), '=', '=']
  | [a, b] =>
    let n := (a.toNat * 256 + b.toNat) * 4
    [symbol (n / 4096), symbol (n / 64 % 64), symbol (n % 64), '=']
  | a :: b :: c :: rest =>
    let n := (a.toNat * 256 + b.toNat) * 256 + c.toNat
    symbol (n / 262144) :: symbol (n / 4096 % 64) :: symbol (n / 64 % 64)
      :: symbol (n % 64)
      :: encodeBytes rest

/-- The bytes that a list of characters stands for. -/
def decodeChars? : List Char → Option (List UInt8)
  | [] => some []
  | [a, b, '=', '='] => do
    let n := (← value? a) * 64 + (← value? b)
    if n % 16 = 0 then some [UInt8.ofNat (n / 16)] else none
  | [a, b, c, '='] => do
    let n := ((← value? a) * 64 + (← value? b)) * 64 + (← value? c)
    if n % 4 = 0 then some [UInt8.ofNat (n / 1024), UInt8.ofNat (n / 4)]
    else none
  | a :: b :: c :: d :: rest => do
    let n := (((← value? a) * 64 + (← value? b)) * 64 + (← value? c)) * 64
      + (← value? d)
    let bytes ← decodeChars? rest
    some (UInt8.ofNat (n / 65536) :: UInt8.ofNat (n / 256)
      :: UInt8.ofNat n :: bytes)
  | _ => none

/-! ## Faults -/

/-- What is wrong with a text that is no base64: a byte that does not belong
where it stands, one that says more than the bytes that are left, a group that
is too short, or padding that is missing. -/
inductive Fault where
  | symbol (byte : UInt8) (offset : Nat)
  | lastSymbol (byte : UInt8) (offset : Nat)
  | length (size : Nat)
  | padding
deriving DecidableEq, Repr

/-- The fault in words. -/
def Fault.message : Fault → String
  | symbol byte offset =>
    "Invalid symbol " ++ Text.digits byte.toNat ++ ", offset "
      ++ Text.digits offset ++ "."
  | lastSymbol byte offset =>
    "Invalid last symbol " ++ Text.digits byte.toNat ++ ", offset "
      ++ Text.digits offset ++ "."
  | length size => "Invalid input length: " ++ Text.digits size
  | padding => "Invalid padding"

/-- The byte that pads. -/
def pad : UInt8 := '='.toUInt8

/-- The byte is one of the alphabet. -/
def isSymbol (b : UInt8) : Bool :=
  (value? (Char.ofNat b.toNat)).isSome

/-- The first byte that is not one of the alphabet. -/
def foreignByte? (offset : Nat) : List UInt8 → Option Fault
  | [] => none
  | b :: rest =>
    if isSymbol b then foreignByte? (offset + 1) rest
    else some (.symbol b offset)

/-- The first byte of the last group that does not belong where it stands.
Padding follows two bytes at least, and nothing but padding follows it; `padded`
is where it began. -/
def misplacedByte? (start place : Nat) (padded : Option Nat) :
    List UInt8 → Option Fault
  | [] => none
  | b :: rest =>
    if b = pad then
      if place < 2 then some (.symbol b (start + place))
      else misplacedByte? start (place + 1) (padded <|> some place) rest
    else
      match padded with
      | some first => some (.symbol pad (start + first))
      | none =>
        if isSymbol b then misplacedByte? start (place + 1) none rest
        else some (.symbol b (start + place))

/-- The fault of a last group all of whose bytes may stand where they do. -/
def shortGroup (start : Nat) (group : List UInt8) : Fault :=
  let symbols := group.takeWhile (· ≠ pad)
  if symbols.length < 2 then .length (start + symbols.length)
  else if group.length % 4 ≠ 0 then .padding
  else .lastSymbol (symbols.getLastD 0) (start + symbols.length - 1)

/-- The fault of a text that is no base64. A foreign byte that stands alone at
the end is found first, then comes what is wrong with the groups in their
order. -/
def faultIn (bytes : List UInt8) : Fault :=
  let size := bytes.length
  let start := if size % 4 = 0 then size - 4 else size - size % 4
  let last := bytes.getLastD pad
  if size % 4 = 1 ∧ last ≠ pad ∧ !isSymbol last then .symbol last (size - 1)
  else
    let group := bytes.drop start
    ((foreignByte? 0 (bytes.take start))
      <|> misplacedByte? start 0 none group).getD (shortGroup start group)

/-! ## Loose texts -/

/-- The bytes that a list of characters stands for, read loosely: padding may be
missing at the end, and stray low bits are dropped. -/
def decodeLooseChars? : List Char → Option (List UInt8)
  | [] => some []
  | [a, b] | [a, b, '=', '='] => do
    let n := (← value? a) * 64 + (← value? b)
    some [UInt8.ofNat (n / 16)]
  | [a, b, c] | [a, b, c, '='] => do
    let n := ((← value? a) * 64 + (← value? b)) * 64 + (← value? c)
    some [UInt8.ofNat (n / 1024), UInt8.ofNat (n / 4)]
  | a :: b :: c :: d :: rest => do
    let n := (((← value? a) * 64 + (← value? b)) * 64 + (← value? c)) * 64
      + (← value? d)
    let bytes ← decodeLooseChars? rest
    some (UInt8.ofNat (n / 65536) :: UInt8.ofNat (n / 256)
      :: UInt8.ofNat n :: bytes)
  | _ => none

/-- The ASCII characters that may stand anywhere in a text read loosely: the
space and what goes with line ends. -/
def isGap (c : Char) : Bool :=
  c == ' ' || (9 ≤ c.toNat && c.toNat ≤ 13)

/-- The bytes of a base64 text read loosely. -/
def decodeLoose? (cs : List Char) : Option (List UInt8) :=
  decodeLooseChars? (cs.filter fun c => !isGap c)

/-! ## Texts -/

/-- Bytes as base64 text. -/
def encode (bytes : ByteArray) : String :=
  String.ofList (encodeBytes bytes.toList)

/-- The bytes of a base64 text; `none` if the text is no canonical base64. -/
def decode? (s : String) : Option ByteArray :=
  (decodeChars? s.toList).map fun bytes => ByteArray.mk bytes.toArray

end DatabaseOperator.Base64
