import DatabaseOperator.Json.Basic
import DatabaseOperator.Text.Digits

/-!
# JSON tokens

The words of JSON text. Splitting a text into tokens reads it once from front to
back and keeps in hand only the token that has begun.

- `Json.Token`: punctuation, literals, numbers and strings. A string may name
  half of a surrogate pair, which is no text; it is then kept as `none`, so that
  a reader who does not want the string can pass over it.
- `Json.Number.ofChars?`: the number grammar.
- `Json.Lexer`: what has been read, and the token in hand.
- `Json.Lexer.scan?`: a whole text; `none` where no token of JSON continues.
-/

namespace DatabaseOperator.Json

/-- One word of JSON text. -/
inductive Token where
  | beginObject
  | endObject
  | beginArray
  | endArray
  | colon
  | comma
  | null
  | bool (value : Bool)
  | number (value : Number)
  | string (text : Option String)
deriving DecidableEq, Repr

/-! ## Numbers -/

/-- The least and the greatest integer that keep their exact value; beyond them
a number is rounded. -/
def isExactInteger (i : Int) : Bool :=
  -(Int.pow 2 63) ≤ i && i < Int.pow 2 64

/-- A run of digits at the front of a list, and what follows it. -/
def spanDigits (cs : List Char) : List Char × List Char :=
  (cs.takeWhile fun c => (Text.digitValue? c).isSome, cs.dropWhile fun c =>
    (Text.digitValue? c).isSome)

/-- The exponent part of a number: nothing, or a mark, an optional sign and
digits up to the end. -/
def exponentOf? : List Char → Option Int
  | [] => some 0
  | c :: cs =>
    if c = 'e' ∨ c = 'E' then
      match cs with
      | '-' :: ds => (Text.natural? ds).map fun n => -(n : Int)
      | '+' :: ds => (Text.natural? ds).map fun n => (n : Int)
      | ds => (Text.natural? ds).map fun n => (n : Int)
    else none

/-- The fraction part of a number, if there is one, and what follows it. A point
needs a digit after it. -/
def fractionOf? : List Char → Option (List Char × List Char)
  | '.' :: cs =>
    match spanDigits cs with
    | ([], _) => none
    | parts => some parts
  | cs => some ([], cs)

/-- A number without its sign. A leading zero stands alone before the point. A
number with a fraction or an exponent is a decimal even where its value is
whole, and so are minus zero and integers beyond 64 bits. -/
def unsignedOf? (negative : Bool) (cs : List Char) : Option Number := do
  let (whole, rest) := spanDigits cs
  let _ ← match whole with
    | '0' :: _ :: _ => none
    | _ => some ()
  let wholeValue ← Text.natural? whole
  let (fraction, rest) ← fractionOf? rest
  let exponent ← exponentOf? rest
  let sign : Int := if negative then -1 else 1
  match fraction, rest with
  | [], [] =>
    let value := sign * wholeValue
    if (negative && wholeValue == 0) || !isExactInteger value
      then some (.decimal value 0)
    else some (.integer value)
  | _, _ =>
    let mantissa ← Text.naturalFrom? wholeValue fraction
    some (.decimal (sign * mantissa) (exponent - fraction.length))

/-- The number that a list of characters writes; `none` if it is no JSON
number. -/
def Number.ofChars? : List Char → Option Number
  | '-' :: cs => unsignedOf? true cs
  | cs => unsignedOf? false cs

/-- A natural number without the digits at its end that 64 bits cannot hold, and
how many they are. -/
def leadingDigits (m : Nat) : Nat × Nat :=
  if m < 0x10000000000000000 then (m, 0)
  else
    let (kept, dropped) := leadingDigits (m / 10)
    (kept, dropped + 1)
termination_by m
decreasing_by omega

/-- A float times a power of ten, in steps that floats can make. -/
def shifted (x : Float) (exponent : Int) : Float :=
  if 308 < exponent then (if x == 0 then x else 1 / 0)
  else if 0 ≤ exponent then x * Float.ofScientific 1 false exponent.toNat
  else if -308 ≤ exponent then x / Float.ofScientific 1 false (-exponent).toNat
  else if x == 0 then x
  else shifted (x / Float.ofScientific 1 false 308) (exponent + 308)
termination_by exponent.natAbs
decreasing_by omega

/-- The double-precision float that a number is taken for. A decimal is taken
from the digits that 64 bits hold, so that it may miss the nearest float by a
little. -/
def Number.toFloat : Number → Float
  | .integer i => Float.ofInt i
  | .decimal mantissa exponent =>
    let (digits, dropped) := leadingDigits mantissa.natAbs
    let magnitude := shifted (Float.ofNat digits) (exponent + dropped)
    if mantissa < 0 then -magnitude else magnitude

/-- The number is too large for a double-precision float: it would be rounded to
infinity. -/
def Number.overflows : Number → Bool
  | .integer _ => false
  | n => n.toFloat.isInf

/-! ## Strings -/

/-- The characters of a list of UTF-16 units and code points: a leading
surrogate joins the trailing one right after it; `none` if half of a pair stands
alone. -/
def joinUnits? : List Nat → Option (List Char)
  | [] => some []
  | [u] => if 0xD800 ≤ u ∧ u ≤ 0xDFFF then none else some [Char.ofNat u]
  | u :: v :: rest =>
    if 0xD800 ≤ u ∧ u ≤ 0xDBFF then
      if 0xDC00 ≤ v ∧ v ≤ 0xDFFF then
        (joinUnits? rest).map
          (Char.ofNat (0x10000 + (u - 0xD800) * 0x400 + (v - 0xDC00)) :: ·)
      else none
    else if 0xDC00 ≤ u ∧ u ≤ 0xDFFF then none
    else (joinUnits? (v :: rest)).map (Char.ofNat u :: ·)

/-- The character that a one-letter escape names. -/
def shortEscape? (c : Char) : Option Nat :=
  if c = '"' ∨ c = '\\' ∨ c = '/' then some c.toNat
  else if c = 'b' then some 8
  else if c = 'f' then some 12
  else if c = 'n' then some 10
  else if c = 'r' then some 13
  else if c = 't' then some 9
  else none

/-! ## Scanning -/

/-- The token in hand. Lists are reversed, the newest character first. -/
inductive Pending where
  | none
  | word (letters : List Char)
  | number (chars : List Char)
  | string (units : List Nat)
  | escape (units : List Nat)
  | hex (units : List Nat) (left value : Nat)
deriving DecidableEq, Repr

/-- A scan: the tokens read, newest first, and the token in hand. -/
structure Lexer where
  tokens : List Token
  pending : Pending
deriving DecidableEq, Repr

namespace Lexer

/-- Nothing read yet. -/
def start : Lexer := ⟨[], .none⟩

/-- The literal that letters spell. -/
def literal? (letters : List Char) : Option Token :=
  if letters = ['n', 'u', 'l', 'l'] then some .null
  else if letters = ['t', 'r', 'u', 'e'] then some (.bool true)
  else if letters = ['f', 'a', 'l', 's', 'e'] then some (.bool false)
  else none

/-- A character read between two tokens. -/
def begin? (tokens : List Token) (c : Char) : Option Lexer :=
  if c = ' ' ∨ c = '\t' ∨ c = '\n' ∨ c = '\r' then some ⟨tokens, .none⟩
  else if c = '\x7b' then some ⟨.beginObject :: tokens, .none⟩
  else if c = '\x7d' then some ⟨.endObject :: tokens, .none⟩
  else if c = '[' then some ⟨.beginArray :: tokens, .none⟩
  else if c = ']' then some ⟨.endArray :: tokens, .none⟩
  else if c = ':' then some ⟨.colon :: tokens, .none⟩
  else if c = ',' then some ⟨.comma :: tokens, .none⟩
  else if c = '"' then some ⟨tokens, .string []⟩
  else if c = '-' ∨ (Text.digitValue? c).isSome then some ⟨tokens, .number [c]⟩
  else if c.isLower then some ⟨tokens, .word [c]⟩
  else none

/-- A character may stand inside a number. -/
def continuesNumber (c : Char) : Bool :=
  (Text.digitValue? c).isSome || c == '.' || c == 'e' || c == 'E' || c == '+'
    || c == '-'

/-- One more character. -/
def step? (l : Lexer) (c : Char) : Option Lexer :=
  match l.pending with
  | .none => begin? l.tokens c
  | .word letters =>
    if c.isLower then some { l with pending := .word (c :: letters) }
    else do begin? ((← literal? letters.reverse) :: l.tokens) c
  | .number chars =>
    if continuesNumber c then some { l with pending := .number (c :: chars) }
    else do begin? (.number (← Number.ofChars? chars.reverse) :: l.tokens) c
  | .string units =>
    if c = '"' then some ⟨.string ((joinUnits? units.reverse).map String.ofList)
      :: l.tokens, .none⟩
    else if c = '\\' then some { l with pending := .escape units }
    else if c.toNat < 0x20 then none
    else some { l with pending := .string (c.toNat :: units) }
  | .escape units =>
    if c = 'u' then some { l with pending := .hex units 4 0 }
    else
      (shortEscape? c).map fun n => { l with pending := .string (n :: units) }
  | .hex units left value => do
    let value := value * 16 + (← Text.hexValue? c)
    if left ≤ 1 then some { l with pending := .string (value :: units) }
    else some { l with pending := .hex units (left - 1) value }

/-- The tokens of a finished text in order; `none` if a string is left open. -/
def finish? (l : Lexer) : Option (List Token) :=
  match l.pending with
  | .none => some l.tokens.reverse
  | .word letters => do some ((← literal? letters.reverse) :: l.tokens).reverse
  | .number chars =>
    do some (.number (← Number.ofChars? chars.reverse) :: l.tokens).reverse
  | _ => none

/-- A scan carried on over a list of characters. -/
def run? (l : Lexer) (cs : List Char) : Option Lexer :=
  cs.foldlM step? l

/-- The tokens of a whole text. -/
def scan? (cs : List Char) : Option (List Token) := do
  (← start.run? cs).finish?

end Lexer

end DatabaseOperator.Json
