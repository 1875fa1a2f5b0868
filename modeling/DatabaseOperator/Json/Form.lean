import DatabaseOperator.Decimal.Style
import DatabaseOperator.Json.Decode
import DatabaseOperator.Json.Render
import DatabaseOperator.Json.Token
import DatabaseOperator.Text.Base64
import DatabaseOperator.Text.Quoted
import DatabaseOperator.Time.Lenient

/-!
# Forms of documents

What a document has to look like to be read as a value of some type, and what is
wrong with one that does not. The faults of a document are found in the order of
its compact text, in which the names of fields rise, and a fault says how many
bytes of that text were read before it showed.

- `Json.Form`: the form of a value, and `Json.Presence`: whether a field may be
  missing.
- `Json.ordered`: a value whose fields are in rising order, and `Json.width`:
  the size of its text.
- `Json.Fault`: why a document is not of a form, and where that shows.
- `Json.Form.fault?`: the first fault of a document.
-/

namespace DatabaseOperator.Json

/-! ## Forms -/

/-- Whether a field may be missing, and whether it may then be `null` as
well. -/
inductive Presence where
  | required
  | optional
  | defaulted
deriving DecidableEq, Repr

/-- The form of a value. Integers have a name and bounds, and texts may write
bytes or an instant, be one exact text, or be one of some names. A record has
its fields in an order in which a `listed` one may also be given as an array. -/
inductive Form where
  | any
  | text
  | flag
  | integer (name : String) (low high : Int)
  | bytes
  | instant
  | exactly (text : String)
  | choice (names : List String)
  | list (item : Form)
  | dict (item : Form)
  | record (what : String) (listed : Bool)
      (fields : List (String × Presence × Form))

namespace Form

/-- Integers of 32 bits. -/
def int32 : Form := integer "i32" (-2147483648) 2147483647

/-- Integers of 64 bits. -/
def int64 : Form := integer "i64" (-9223372036854775808) 9223372036854775807

/-- Natural numbers of 32 bits. -/
def uint32 : Form := integer "u32" 0 4294967295

/-- What a form asks for, in words. -/
def expected : Form → String
  | any => "any value"
  | text | exactly _ | choice _ => "a string"
  | flag => "a boolean"
  | integer name _ _ => name
  | bytes => "a base64-encoded string"
  | instant => "an RFC 3339 formatted date and time string"
  | list _ => "a sequence"
  | dict _ => "a map"
  | record what _ _ => what

/-- The presence and the form of a field of a record. -/
def field? (name : String) :
    List (String × Presence × Form) → Option (Presence × Form)
  | [] => none
  | (n, field) :: rest => if n = name then some field else field? name rest

end Form

/-! ## The text of a document -/

mutual

/-- A value whose fields are in rising order of their names. -/
def ordered : Json → Json
  | .array items => .array (orderedItems items)
  | .object fields => .object (Dict.ofList (orderedFields fields)).entries
  | j => j

/-- The items of an array, each ordered. -/
def orderedItems : List Json → List Json
  | [] => []
  | item :: rest => item.ordered :: orderedItems rest

/-- The values of fields, each ordered. -/
def orderedFields : List (String × Json) → List (String × Json)
  | [] => []
  | (name, value) :: rest => (name, value.ordered) :: orderedFields rest

end

/-- Numbers are written without an exponent from `10 ^ -5` up to `10 ^ 16`. -/
def style : Decimal.Style := { whole := 16, zeros := 5 }

/-- The text of a number. -/
def Number.text : Number → String
  | .integer i => Text.integer i
  | n => style.text n.toFloat

/-- The size of the text of a string in bytes. -/
def stringWidth (s : String) : Nat :=
  (String.ofList (stringChars s)).utf8ByteSize

mutual

/-- The size of the compact text of a value in bytes. -/
def width : Json → Nat
  | .null => 4
  | .bool b => if b then 4 else 5
  | .number n => n.text.utf8ByteSize
  | .string s => stringWidth s
  | .array items => 1 + itemsWidth items
  | .object fields => 1 + fieldsWidth fields

/-- The size of items, each with the comma or bracket behind it; an array
without items has the bracket alone. -/
def itemsWidth : List Json → Nat
  | [] => 1
  | [item] => item.width + 1
  | item :: next :: rest => item.width + 1 + itemsWidth (next :: rest)

/-- The size of fields, each with the comma or brace behind it; an object
without fields has the brace alone. -/
def fieldsWidth : List (String × Json) → Nat
  | [] => 1
  | [(name, value)] => stringWidth name + 1 + value.width + 1
  | (name, value) :: next :: rest =>
    stringWidth name + 1 + value.width + 1 + fieldsWidth (next :: rest)

end

/-! ## Faults -/

/-- Why a document is not of a form, and how many bytes of its text had been
read when that showed. -/
structure Fault where
  reason : String
  column : Nat
deriving DecidableEq, Repr

/-- The fault in words. The text of a document is one line. -/
def Fault.message (f : Fault) : String :=
  f.reason ++ " at line 1 column " ++ Text.digits f.column

/-- A value as faults show it. -/
def described : Json → String
  | .null => "null"
  | .bool b => "boolean \x60" ++ (if b then "true" else "false") ++ "\x60"
  | .number (.integer i) => "integer \x60" ++ Text.integer i ++ "\x60"
  | .number n => "floating point \x60" ++ n.text ++ "\x60"
  | .string s => "string " ++ Text.quoted s
  | .array _ => "sequence"
  | .object _ => "map"

/-- How far into the text of a value a reader goes to describe it: arrays and
objects are known by their first byte. -/
def glance : Json → Nat
  | .array _ | .object _ => 0
  | j => j.width

/-- Names as faults list them. -/
def namesText : List String → String
  | [] => "nothing"
  | [a] => "\x60" ++ a ++ "\x60"
  | [a, b] => "\x60" ++ a ++ "\x60 or \x60" ++ b ++ "\x60"
  | names =>
    "one of " ++ String.intercalate ", " (names.map fun name => "\x60" ++ name
      ++ "\x60")

namespace Fault

/-- The value that begins at a column is of another type than a form asks
for. -/
def wrongType (column : Nat) (j : Json) (expected : String) : Fault :=
  ⟨"invalid type: " ++ j.described ++ ", expected " ++ expected,
    column + j.glance⟩

/-- The value that ends at a column is of the right type, but not the right
one. -/
def wrongValue (column : Nat) (j : Json) (expected : String) : Fault :=
  ⟨"invalid value: " ++ j.described ++ ", expected " ++ expected, column⟩

/-- A name that ends at a column is none of those that a form knows. -/
def unknownName (column : Nat) (name : String) (names : List String) : Fault :=
  ⟨"unknown variant \x60" ++ name ++ "\x60, expected " ++ namesText names,
    column⟩

/-- Something else has to stand before a column. -/
def misplaced (column : Nat) : Fault :=
  ⟨"expected value", column⟩

end Fault

namespace Form

/-- The fault of an alternative that is written as an object with one field,
which holds `null`. -/
def variantFault? (column : Nat) (names : List String) :
    List (String × Json) → Option Fault
  | [] => some (.misplaced (column + 2))
  | (name, value) :: rest =>
    let stop := column + 1 + stringWidth name
    if !names.contains name then some (.unknownName stop name names)
    else if !value.isNull then some (.wrongType (stop + 1) value "unit")
    else if !rest.isEmpty then some (.misplaced (stop + 1 + value.width))
    else none

/-- The fault of a value that holds no others, or is of another type than the
form. -/
def simpleFault? (column : Nat) (form : Form) (j : Json) : Option Fault :=
  match form, j with
  | any, _ | text, .string _ | flag, .bool _ | bytes, .null => none
  | integer name low high, .number (.integer i) =>
    if low ≤ i ∧ i ≤ high then none
    else some (.wrongValue (column + j.width) j name)
  | bytes, .string s =>
    if (Base64.decode? s).isSome then none
    else some ⟨(Base64.faultIn s.toUTF8.toList).message, column + j.width⟩
  | instant, .string s =>
    match Instant.ofLenient s with
    | .ok _ => none
    | .error fault => some ⟨fault.message, column + j.width⟩
  | exactly wanted, .string s =>
    if s = wanted then none else some (.wrongValue (column + j.width) j wanted)
  | choice names, .string s =>
    if names.contains s then none
    else some (.unknownName (column + j.width) s names)
  | choice names, .object fields => variantFault? column names fields
  | choice _, _ => some (.misplaced (column + 1))
  | record what _ _, .array items =>
    some ⟨"invalid type: sequence, expected " ++ what,
      column + (if items.isEmpty then 2 else 1)⟩
  | form, j => some (.wrongType column j form.expected)

/-- The fault of a record that lacks a field, if it lacks one. The record ends
at the column. -/
def missingFault? (column : Nat) (fields : List (String × Json)) :
    List (String × Presence × Form) → Option Fault
  | [] => none
  | (name, presence, _) :: rest =>
    if presence = .required ∧ (lookup name fields).isNone then
      some ⟨"missing field \x60" ++ name ++ "\x60", column⟩
    else missingFault? column fields rest

/-- The fault of a record that is given as an array of so many items, if a field
that has to be there is beyond them. The array ends at the column. -/
def shortFault? (column count : Nat) (what : String)
    (fields : List (String × Presence × Form)) : Option Fault :=
  ((fields.drop count).findIdx? fun f => f.2.1 = .required).map fun place =>
    let size :=
      Text.digits fields.length ++ (if fields.length = 1 then " element"
        else " elements")
    ⟨"invalid length " ++ Text.digits (count + place) ++ ", expected " ++ what
      ++ " with " ++ size, column⟩

mutual

/-- The first fault of a value whose text begins at a column. -/
def faultFrom? (column : Nat) (form : Form) (j : Json) : Option Fault :=
  match j, form with
  | .array items, list item => itemsFault? (column + 1) item items
  | .array items, record what true fields =>
    placesFault? (column + 1) fields items <|>
      shortFault? (column + 1 + itemsWidth items) items.length what fields
  | .object fields, dict item => entriesFault? (column + 1) item fields
  | .object fields, record _ _ known =>
    fieldsFault? (column + 1) known fields
      <|> missingFault? (column + 1 + fieldsWidth fields) fields known
  | j, form => simpleFault? column form j

/-- The first fault of items, the first of which begins at a column. -/
def itemsFault? (column : Nat) (form : Form) : List Json → Option Fault
  | [] => none
  | item :: rest =>
    faultFrom? column form item
      <|> itemsFault? (column + item.width + 1) form rest

/-- The first fault of the items of an array that is a record, the first of
which begins at a column. -/
def placesFault? (column : Nat) :
    List (String × Presence × Form) → List Json → Option Fault
  | _, [] => none
  | [], _ :: _ => some ⟨"trailing characters", column + 1⟩
  | (_, presence, form) :: known, item :: rest =>
    (if presence = .optional ∧ item.isNull then none
      else faultFrom? column form item) <|>
      placesFault? (column + item.width + 1) known rest

/-- The first fault of the entries of a dictionary, the first of which begins at
a column. -/
def entriesFault? (column : Nat) (form : Form) :
    List (String × Json) → Option Fault
  | [] => none
  | (name, value) :: rest =>
    let start := column + stringWidth name + 1
    faultFrom? start form value
      <|> entriesFault? (start + value.width + 1) form rest

/-- The first fault of the known fields of a record, the first of which begins
at a column. That a text is not the exact one shows once the reader has looked
for the end of the record behind it. -/
def fieldsFault? (column : Nat) (known : List (String × Presence × Form)) :
    List (String × Json) → Option Fault
  | [] => none
  | (name, value) :: rest =>
    let start := column + stringWidth name + 1
    let stop := start + value.width
    let fault := match field? name known with
      | none => none
      | some (presence, form) =>
        if presence = .optional ∧ value.isNull then none
        else match form, value with
          | exactly wanted, .string s =>
            if s = wanted then none
            else
              some (.wrongValue (if rest.isEmpty then stop + 1
                else stop) value wanted)
          | form, value => faultFrom? start form value
    fault <|> fieldsFault? (stop + 1) known rest

end

/-- The first fault of a document. -/
def fault? (form : Form) (j : Json) : Option Fault :=
  faultFrom? 0 form j.ordered

end Form

end DatabaseOperator.Json
