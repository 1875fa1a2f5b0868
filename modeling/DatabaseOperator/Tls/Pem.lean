import DatabaseOperator.Text.Base64

/-!
# PEM

Keys and certificates as text: base64 between two lines that name what it is.
Text outside such blocks is passed over.

- `Pem.Kind`: what a block can hold.
- `Pem.Block`: a block.
- `Pem.lines`: the lines of a text.
- `Pem.opening?`: the label of a line that opens a block.
- `Pem.blocks?`: the blocks of a text, unless one of them is broken.
-/

namespace DatabaseOperator.Pem

/-- What a block can hold. Blocks under other labels are passed over. -/
inductive Kind where
  | certificate
  | publicKey
  | rsaKey
  | anyKey
  | ecKey
  | revocations
  | request
  | hello
deriving DecidableEq, Repr

namespace Kind

/-- All kinds. -/
def all : List Kind :=
  [certificate, publicKey, rsaKey, anyKey, ecKey, revocations, request, hello]

/-- The label of a kind. -/
def label : Kind → String
  | certificate => "CERTIFICATE"
  | publicKey => "PUBLIC KEY"
  | rsaKey => "RSA PRIVATE KEY"
  | anyKey => "PRIVATE KEY"
  | ecKey => "EC PRIVATE KEY"
  | revocations => "X509 CRL"
  | request => "CERTIFICATE REQUEST"
  | hello => "ECHCONFIG"

/-- The kind of a label. -/
def ofLabel? (label : List Char) : Option Kind :=
  all.find? fun kind => kind.label.toList == label

end Kind

/-- A block: its kind and the bytes that it holds. -/
structure Block where
  kind : Kind
  content : List UInt8
deriving DecidableEq, Repr

/-- A line feed or a carriage return, each of which ends a line. -/
def endsLine (c : Char) : Bool :=
  c == '\n' || c == '\r'

/-- The lines of a text. -/
def lines : List Char → List (List Char)
  | [] => [[]]
  | c :: cs =>
    match lines cs with
    | [] => [[c]]
    | line :: rest =>
      if endsLine c then [] :: line :: rest else (c :: line) :: rest

/-- What a line that opens a block begins with. -/
def beginMark : List Char := "-----BEGIN ".toList

/-- The label of a line that opens a block. Five dashes come behind the label,
and spaces may stand among them. -/
def opening? (line : List Char) : Option (List Char) :=
  let tail := line.reverse.takeWhile fun c => c == '-' || c == ' '
  if tail.count '-' = 5 then
    let marks := (tail.reverse.dropWhile (· ≠ '-')).length
    some ((line.take (line.length - marks)).drop beginMark.length)
  else none

/-- What a line that closes a block begins with. -/
def endMark (label : List Char) : List Char :=
  "-----END ".toList ++ label ++ "-----".toList

/-- The blocks of lines. Inside a block its label is known, and the text seen so
far stands beside it. A line that opens a block does so within another one as
well, and takes over its text. -/
def blocksOf? :
    (inside : Option (List Char)) → (text : List Char) → List (List Char) →
      Option (List Block)
  | none, _, [] => some []
  | some _, _, [] => none
  | inside, text, line :: rest =>
    if beginMark.isPrefixOf line then
      match opening? line with
      | some label => blocksOf? (some label) text rest
      | none => none
    else match inside with
      | none => blocksOf? none text rest
      | some label =>
        if (endMark label).isPrefixOf line then
          match Kind.ofLabel? label with
          | none => blocksOf? none [] rest
          | some kind => do
            let content ← Base64.decodeLoose? text
            return { kind, content } :: (← blocksOf? none [] rest)
        else blocksOf? (some label) (text ++ line) rest

/-- The blocks of a text; `none` if one of them is not opened or closed well, or
does not hold base64. -/
def blocks? (text : String) : Option (List Block) :=
  blocksOf? none [] (lines text.toList)

/-! ## Small facts -/

theorem Kind.ofLabel?_label (kind : Kind) :
    Kind.ofLabel? kind.label.toList = some kind := by
  cases kind <;> decide +kernel

end DatabaseOperator.Pem
