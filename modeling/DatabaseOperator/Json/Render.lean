import DatabaseOperator.Json.Basic
import DatabaseOperator.Text.Digits

/-!
# JSON text, written

The compact text of a JSON value: no blanks, fields in their order, characters
beyond ASCII as they are.

- `Json.escapedChar`: the written form of one character of a string.
- `Json.chars`: the text of a value as characters.
- `Json.render`: the text of a value.
-/

namespace DatabaseOperator.Json

/-- The written form of a character inside a JSON string. Quotes and backslashes
are escaped by a backslash, the controls below U+0020 by their short name or in
hexadecimal; every other character stands for itself. -/
def escapedChar (c : Char) : List Char :=
  if c = '"' then ['\\', '"']
  else if c = '\\' then ['\\', '\\']
  else if c = '\n' then ['\\', 'n']
  else if c = '\r' then ['\\', 'r']
  else if c = '\t' then ['\\', 't']
  else if c.toNat = 8 then ['\\', 'b']
  else if c.toNat = 12 then ['\\', 'f']
  else if c.toNat < 0x20 then
    ['\\', 'u', '0', '0', Text.hexDigit (c.toNat / 16),
      Text.hexDigit (c.toNat % 16)]
  else [c]

/-- The characters of a JSON string, quotes included. -/
def stringChars (s : String) : List Char :=
  '"' :: (s.toList.flatMap escapedChar ++ ['"'])

/-- The characters of a number. -/
def Number.chars : Number → List Char
  | .integer i => (Text.integer i).toList
  | .decimal mantissa exponent =>
    (Text.integer mantissa).toList ++ 'e' :: (Text.integer exponent).toList

mutual

/-- The characters of a value's compact text. -/
def chars : Json → List Char
  | .null => ['n', 'u', 'l', 'l']
  | .bool true => ['t', 'r', 'u', 'e']
  | .bool false => ['f', 'a', 'l', 's', 'e']
  | .number n => n.chars
  | .string s => stringChars s
  | .array items => '[' :: (itemChars items ++ [']'])
  | .object fields => '\x7b' :: (fieldChars fields ++ ['\x7d'])

/-- The items of an array, separated by commas. -/
def itemChars : List Json → List Char
  | [] => []
  | [item] => chars item
  | item :: next :: rest => chars item ++ ',' :: itemChars (next :: rest)

/-- The fields of an object, separated by commas. -/
def fieldChars : List (String × Json) → List Char
  | [] => []
  | [(name, value)] => stringChars name ++ ':' :: chars value
  | (name, value) :: next :: rest =>
    stringChars name ++ ':' :: (chars value ++ ',' :: fieldChars (next :: rest))

end

/-- The compact text of a value. -/
def render (j : Json) : String :=
  String.ofList j.chars

end DatabaseOperator.Json
