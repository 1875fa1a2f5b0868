import DatabaseOperator.Json.Basic

/-!
# Reading typed documents

How the typed documents of this library are read from JSON values. A reader
answers `none` for a value of the wrong form; why it is wrong is never reported.

- `Json.string?`, `Json.bool?`, `Json.int32?` and so on: single values. Numbers
  with a fraction or an exponent are no integers, and every integer has its
  range.
- `Json.record?`: the fields of a record, given as an object or as the list of
  their values in order.
- `Json.required?`, `Json.optional?`, `Json.defaulted?`: one field of a record.
- `Json.variant?`: the name of an alternative without contents.
-/

namespace DatabaseOperator.Json

/-! ## Single values -/

/-- A text. -/
def string? : Json → Option String
  | .string s => some s
  | _ => none

/-- A truth value. -/
def bool? : Json → Option Bool
  | .bool b => some b
  | _ => none

/-- An integer of any size. -/
def integer? : Json → Option Int
  | .number (.integer i) => some i
  | _ => none

/-- An integer between two bounds. -/
def intBetween? (low high : Int) (j : Json) : Option Int :=
  match j.integer? with
  | some i => if low ≤ i ∧ i ≤ high then some i else none
  | none => none

/-- A signed integer of 32 bits. -/
def int32? (j : Json) : Option Int32 :=
  (j.intBetween? (-2147483648) 2147483647).map Int32.ofInt

/-- A signed integer of 64 bits. -/
def int64? (j : Json) : Option Int64 :=
  (j.intBetween? (-9223372036854775808) 9223372036854775807).map Int64.ofInt

/-- A natural number up to a bound. -/
def natUpTo? (bound : Nat) (j : Json) : Option Nat :=
  (j.intBetween? 0 bound).map Int.toNat

/-- An unsigned integer of 32 bits. -/
def uint32? (j : Json) : Option UInt32 :=
  (j.natUpTo? 4294967295).map UInt32.ofNat

/-- Every item of a list read by one reader. -/
def allItems? {α : Type} (decode : Json → Option α) :
    List Json → Option (List α)
  | [] => some []
  | j :: rest =>
    match decode j, allItems? decode rest with
    | some a, some as => some (a :: as)
    | _, _ => none

/-- An array, its items read by one reader. -/
def list? {α : Type} (decode : Json → Option α) : Json → Option (List α)
  | .array items => allItems? decode items
  | _ => none

/-- A list of texts. -/
def strings? : Json → Option (List String) :=
  list? string?

/-- Every value of a list of fields read by one reader. -/
def allFields? {α : Type} (decode : Json → Option α) :
    List (String × Json) → Option (List (String × α))
  | [] => some []
  | (name, j) :: rest =>
    match decode j, allFields? decode rest with
    | some a, some as => some ((name, a) :: as)
    | _, _ => none

/-- An object as a dictionary, its values read by one reader. -/
def dict? {α : Type} (decode : Json → Option α) : Json → Option (Dict α)
  | .object fields => (allFields? decode fields).map Dict.ofList
  | _ => none

/-- A dictionary of texts. -/
def texts? : Json → Option (Dict String) :=
  dict? string?

/-- The name of an alternative that has no contents: the text itself, or an
object with that one field, which holds `null`. -/
def variant? : Json → Option String
  | .string s => some s
  | .object [(name, .null)] => some name
  | _ => none

/-- A value that may be `null`. -/
def nullable? {α : Type} (decode : Json → Option α) : Json → Option (Option α)
  | .null => some none
  | j => (decode j).map some

/-! ## Records -/

/-- The fields of a record with the given field names: those of an object, or
the items of an array put under the names in order. An array may be short, and
then its last fields are missing; it may not be long. -/
def record? (names : List String) : Json → Option (List (String × Json))
  | .object fields => some fields
  | .array items =>
    if items.length ≤ names.length then some (names.zip items) else none
  | _ => none

/-- A field that has to be there. -/
def required? {α : Type} (name : String) (decode : Json → Option α)
    (fields : List (String × Json)) : Option α :=
  match lookup name fields with
  | some j => decode j
  | none => none

/-- A field that may be missing or `null`. -/
def optional? {α : Type} (name : String) (decode : Json → Option α)
    (fields : List (String × Json)) : Option (Option α) :=
  match lookup name fields with
  | some j => nullable? decode j
  | none => some none

/-- A field that may be missing, and then has a default. It may not be
`null`. -/
def defaulted? {α : Type} (name : String) (decode : Json → Option α)
    (default : α) (fields : List (String × Json)) : Option α :=
  match lookup name fields with
  | some j => decode j
  | none => some default

/-! ## Small facts -/

theorem string?_string (s : String) : string? (.string s) = some s := rfl

theorem allItems?_map {α : Type} {decode : Json → Option α} {encode : α → Json}
    (h : ∀ a, decode (encode a) = some a) (as : List α) :
    allItems? decode (as.map encode) = some as := by
  induction as with
  | nil => rfl
  | cons a as ih => simp [allItems?, h, ih]

theorem strings?_ofStrings (texts : List String) :
    strings? (ofStrings texts) = some texts :=
  allItems?_map string?_string texts

end DatabaseOperator.Json
