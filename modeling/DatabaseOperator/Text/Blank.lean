/-!
# Blank characters

The characters that separate words without being seen, as Unicode's
`White_Space` property lists them, and the removal of blanks from both ends of a
text.

- `Text.isBlank`: membership in the property.
- `Text.trim`: a text without its leading and trailing blanks.
- `Text.isEmptyOrBlank`: nothing is left after trimming.
- `Text.capitals`: the ASCII letters in upper case, all else as it is.
-/

namespace DatabaseOperator.Text

/-- The characters with Unicode's `White_Space` property: the ASCII controls
from tab to carriage return, the space, the next-line control, and the spaces
and separators beyond ASCII. U+200B is not among them. -/
def isBlank (c : Char) : Bool :=
  let n := c.toNat
  (9 ≤ n && n ≤ 13) || n == 0x20 || n == 0x85 || n == 0xA0 || n == 0x1680
    || (0x2000 ≤ n && n ≤ 0x200A)
    || n == 0x2028 || n == 0x2029 || n == 0x202F || n == 0x205F || n == 0x3000

/-- Characters without the blanks at either end. -/
def trimChars (cs : List Char) : List Char :=
  ((cs.dropWhile isBlank).reverse.dropWhile isBlank).reverse

/-- A text without the blanks at either end. -/
def trim (s : String) : String :=
  String.ofList (trimChars s.toList)

/-- Nothing but blanks, or nothing at all. -/
def isEmptyOrBlank (s : String) : Bool :=
  s.toList.all isBlank

/-- The text with its ASCII letters in upper case; letters beyond ASCII keep
their case. -/
def capitals (s : String) : String :=
  String.ofList (s.toList.map Char.toUpper)

/-- Whether a text begins with another. -/
def hasStart (start s : String) : Bool :=
  start.toList.isPrefixOf s.toList

/-- What is written between the items of a list, once between each two. -/
def joinWith (separator : String) : List String → String
  | [] => ""
  | [s] => s
  | s :: rest => s ++ separator ++ joinWith separator rest

end DatabaseOperator.Text
