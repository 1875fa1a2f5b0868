import DatabaseOperator.Text.Digits

/-!
# Numeric addresses of hosts

A host may be named by its address. Addresses have many written forms and one
that is put into URLs.

- `Url.ipv4?`: the address that up to four numbers write, each decimal, octal or
  hexadecimal.
- `Url.endsInNumber`: a name that can only be meant as such an address.
- `Url.ipv6?`: the address that up to eight groups of hexadecimal digits write.
- `Url.ipv4Text`, `Url.ipv6Text`: the forms put into URLs.
-/

namespace DatabaseOperator.Url

/-- The pieces of a text between separators. -/
def splitAt (isSeparator : Char → Bool) : List Char → List (List Char)
  | [] => [[]]
  | c :: cs =>
    match splitAt isSeparator cs with
    | [] => [[c]]
    | piece :: pieces =>
      if isSeparator c then [] :: piece :: pieces else (c :: piece) :: pieces

/-! ## Four numbers -/

/-- The value of digits in a base; `none` if one of them is no digit of the
base. -/
def inBase? (base : Nat) (cs : List Char) : Option Nat :=
  cs.foldlM (fun n c => do
    let d ← Text.hexValue? c
    if d < base then some (n * base + d) else none) 0

/-- A number of an address: hexadecimal after `0x`, octal after another leading
zero, else decimal. -/
def ipv4Number? : List Char → Option Nat
  | [] => none
  | '0' :: 'x' :: cs => inBase? 16 cs
  | '0' :: 'X' :: cs => inBase? 16 cs
  | '0' :: c :: cs => inBase? 8 (c :: cs)
  | cs => inBase? 10 cs

/-- The labels of a name, without an empty one at the end. -/
def labels (name : List Char) : List (List Char) :=
  match (splitAt (· == '.') name).reverse with
  | [] :: label :: more => (label :: more).reverse
  | reversed => reversed.reverse

/-- The last label of a name is a number, so that the name can only be an
address. -/
def endsInNumber (name : List Char) : Bool :=
  match (labels name).getLast? with
  | some label =>
    (!label.isEmpty && label.all Char.isDigit) || (ipv4Number? label).isSome
  | none => false

/-- The address that numbers write: the last one fills all the bytes that the
others leave. -/
def ipv4OfNumbers? : List Nat → (place : Nat) → Option Nat
  | [], _ => none
  | [n], place => if n < Nat.pow 256 place then some n else none
  | n :: rest, place =>
    if n < 256 ∧ 1 < place then
      (ipv4OfNumbers? rest (place - 1)).map (n * Nat.pow 256 (place - 1) + ·)
    else none

/-- The address that a name writes. -/
def ipv4? (name : List Char) : Option Nat := do
  ipv4OfNumbers? (← (labels name).mapM ipv4Number?) 4

/-- An address of four bytes as URLs show it. -/
def ipv4Text (address : Nat) : String :=
  let byte := fun (i : Nat) => Text.digits (address / Nat.pow 256 i % 256)
  byte 3 ++ "." ++ byte 2 ++ "." ++ byte 1 ++ "." ++ byte 0

/-! ## Eight groups -/

/-- A group of one to four hexadecimal digits. -/
def group? (cs : List Char) : Option Nat :=
  if 1 ≤ cs.length ∧ cs.length ≤ 4 then inBase? 16 cs else none

/-- The two groups that four decimal numbers at the end of an address stand
for. -/
def groupsOfBytes? (cs : List Char) : Option (List Nat) := do
  let numbers ← (splitAt (· == '.') cs).mapM fun piece =>
    match piece with
    | ['0'] => some 0
    | '0' :: _ => none
    | [] => none
    | digits => inBase? 10 digits
  match numbers with
  | [a, b, c, d] =>
    if [a, b, c, d].all (· < 256) then some [a * 256 + b, c * 256 + d] else none
  | _ => none

/-- The groups of a part of an address; four decimal numbers may stand for the
last two. -/
def groups? : List (List Char) → Option (List Nat)
  | [] => some []
  | [piece] =>
    if piece.contains '.' then groupsOfBytes? piece
    else (group? piece).map fun n => [n]
  | piece :: rest => do return (← group? piece) :: (← groups? rest)

/-- The parts of an address before and after two colons, if it has such a
pair. -/
def aroundGap : List Char → List Char × Option (List Char)
  | ':' :: ':' :: rest => ([], some rest)
  | c :: rest =>
    let (before, after) := aroundGap rest
    (c :: before, after)
  | [] => ([], none)

/-- The groups of a part that may be empty. -/
def part? (cs : List Char) : Option (List Nat) :=
  if cs.isEmpty then some [] else groups? (splitAt (· == ':') cs)

/-- The eight groups that a text writes. Two colons stand for a run of zeros. -/
def ipv6? (cs : List Char) : Option (List Nat) := do
  match aroundGap cs with
  | (all, none) =>
    let groups ← part? all
    if groups.length = 8 then some groups else none
  | (before, some after) =>
    let front ← part? before
    let back ← part? after
    if before.contains '.' then none
    else if front.length + back.length < 8 then
      some (front ++ List.replicate (8 - front.length - back.length) 0 ++ back)
    else none

/-- The length of the run of zeros that groups begin with. -/
def leadingZeros (groups : List Nat) : Nat :=
  (groups.takeWhile (· == 0)).length

/-- The length of the longest run of zeros. -/
def longestRun : List Nat → Nat
  | [] => 0
  | g :: rest => max (leadingZeros (g :: rest)) (longestRun rest)

/-- Groups between colons. -/
def joinGroups (groups : List Nat) : String :=
  String.intercalate ":" (groups.map fun g => String.ofList (Text.hexChars g))

/-- Groups split before the first run of zeros of a length, and after it. -/
def aroundRun (length : Nat) : List Nat → List Nat × List Nat
  | [] => ([], [])
  | g :: rest =>
    if leadingZeros (g :: rest) = length then ([], (g :: rest).drop length)
    else
      let (before, after) := aroundRun length rest
      (g :: before, after)

/-- An address of eight groups as URLs show it: the first of the longest runs of
two or more zeros is left out. -/
def ipv6Text (groups : List Nat) : String :=
  let run := longestRun groups
  if 2 ≤ run then
    let (before, after) := aroundRun run groups
    joinGroups before ++ "::" ++ joinGroups after
  else joinGroups groups

end DatabaseOperator.Url
