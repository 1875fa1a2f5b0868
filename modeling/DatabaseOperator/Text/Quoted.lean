import DatabaseOperator.Text.Digits
import DatabaseOperator.Text.Visible

/-!
# Quoted text

A text between double quotes, written so that a reader of a message sees every
character: quotes, backslashes and what cannot be seen are escaped, all else
stands as it is.

- `Text.quotedChar`: the written form of one character.
- `Text.quoted`: the written form of a text.
-/

namespace DatabaseOperator.Text

/-- A character by its code point in lower-case hexadecimal, between braces. -/
def codePointEscape (c : Char) : List Char :=
  '\\' :: 'u' :: '\x7b' :: (hexChars c.toNat ++ ['\x7d'])

/-- The written form of one character inside quotes. A character that would join
the one before it is escaped as well, since it could not be told apart there. -/
def quotedChar (c : Char) : List Char :=
  if c = '"' then ['\\', '"']
  else if c = '\\' then ['\\', '\\']
  else if c = '\n' then ['\\', 'n']
  else if c = '\r' then ['\\', 'r']
  else if c = '\t' then ['\\', 't']
  else if c.toNat = 0 then ['\\', '0']
  else if isAttached c || isHidden c then codePointEscape c
  else [c]

/-- A text between double quotes. -/
def quoted (s : String) : String :=
  String.ofList ('"' :: (s.toList.flatMap quotedChar ++ ['"']))

end DatabaseOperator.Text
