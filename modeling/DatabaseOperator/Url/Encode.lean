import DatabaseOperator.Text.Digits

/-!
# Encoding for URLs

Characters that a part of a URL cannot hold are written as the bytes of their
UTF-8 form, each as a percent sign and two hexadecimal digits.

- `Url.percentEncode`: a text with some characters encoded.
- `Url.escapesInPath`, `Url.escapesInQuery`, `Url.escapesInFragment`,
  `Url.escapesInUserInfo`: the characters that each part cannot hold.
- `Url.percentDecode`: the reverse, on bytes, and `Url.decodedText?`: the text
  that the bytes are.
- `Url.formEncode`: a text as the value of a form field, where a space is a plus
  sign.
-/

namespace DatabaseOperator.Url

/-- The upper-case hexadecimal digit of a value below sixteen. -/
def upperHex (n : Nat) : Char :=
  if n < 10 then Char.ofNat ('0'.toNat + n)
  else Char.ofNat ('A'.toNat + (n - 10))

/-- A byte as a percent sign and two digits. -/
def escapeByte (b : UInt8) : List Char :=
  ['%', upperHex (b.toNat / 16), upperHex (b.toNat % 16)]

/-- A character as the escaped bytes of its UTF-8 form. -/
def escape (c : Char) : List Char :=
  (String.utf8EncodeChar c).flatMap escapeByte

/-- A text with the characters of a set encoded. -/
def percentEncode (escapes : Char → Bool) (cs : List Char) : List Char :=
  cs.flatMap fun c => if escapes c then escape c else [c]

/-- A control character, or one beyond ASCII: no part of a URL holds these. -/
def escapesEverywhere (c : Char) : Bool :=
  c.toNat < 0x20 || 0x7E < c.toNat

/-- The characters that a fragment cannot hold. -/
def escapesInFragment (c : Char) : Bool :=
  escapesEverywhere c || " \"<>\x60".toList.contains c

/-- The characters that a query cannot hold. -/
def escapesInQuery (c : Char) : Bool :=
  escapesEverywhere c || " \"#<>\x27".toList.contains c

/-- The characters that a path cannot hold. -/
def escapesInPath (c : Char) : Bool :=
  escapesInFragment c || "#?\x7b\x7d".toList.contains c

/-- The characters that a user name or a password cannot hold. -/
def escapesInUserInfo (c : Char) : Bool :=
  escapesInPath c || "/:;=@[\\]^|".toList.contains c

/-- The bytes of a text in which escapes stand for the bytes that they name. A
percent sign without two digits stands for itself. -/
def percentDecode : List Char → List UInt8
  | '%' :: a :: b :: rest =>
    match Text.hexValue? a, Text.hexValue? b with
    | some high, some low => UInt8.ofNat (high * 16 + low) :: percentDecode rest
    | _, _ => UInt8.ofNat '%'.toNat :: percentDecode (a :: b :: rest)
  | c :: rest => String.utf8EncodeChar c ++ percentDecode rest
  | [] => []

/-- The text in which escapes stand for the bytes that they name; `none` if the
bytes are no text. -/
def decodedText? (cs : List Char) : Option String :=
  String.fromUTF8? ⟨(percentDecode cs).toArray⟩

/-- A character that stands for itself in the fields of a form. -/
def isFormCharacter (c : Char) : Bool :=
  c.isAlphanum || "*-._".toList.contains c

/-- A text as a name or a value in a form. -/
def formEncode (s : String) : List Char :=
  s.toList.flatMap fun c =>
    if isFormCharacter c then [c] else if c = ' ' then ['+'] else escape c

/-! ## Small facts -/

theorem percentEncode_append (escapes : Char → Bool) (a b : List Char) :
    percentEncode escapes (a ++ b)
      = percentEncode escapes a ++ percentEncode escapes b :=
  List.flatMap_append

theorem percentEncode_eq_self {escapes : Char → Bool} {cs : List Char}
    (h : ∀ c ∈ cs, escapes c = false) : percentEncode escapes cs = cs := by
  induction cs with
  | nil => rfl
  | cons c cs ih =>
    have hc : escapes c = false := h c (by simp)
    have hcs :
        percentEncode escapes cs = cs := ih fun d hd => h d (by simp [hd])
    unfold percentEncode at hcs ⊢
    simp [hc, hcs]

end DatabaseOperator.Url
