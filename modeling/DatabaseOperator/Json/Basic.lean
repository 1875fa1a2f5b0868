import DatabaseOperator.Dict

/-!
# JSON values

The values of the JSON data format, and the operations on them that the rest of
the library uses.

- `Json.Number`: a number as it is written, an integer or a decimal fraction.
- `Json`: a value; an object keeps its fields in the order given.
- `Json.field?`: the value of a field.
- `Json.withoutNulls`: an object without the fields that hold `null`.
- `Json.decideEq`: values can be told apart.
- `Json.mergePatch`: a value changed by a merge patch (RFC 7386), in which
  `null` removes a field.
-/

namespace DatabaseOperator

/-- A number as it is written: an integer, or `mantissa · 10 ^ exponent` for one
that is written with a fraction or an exponent. The two are kept apart, since a
reader of integers accepts the first only. -/
inductive Json.Number where
  | integer (value : Int)
  | decimal (mantissa exponent : Int)
deriving DecidableEq, Repr

/-- A JSON value. -/
inductive Json where
  | null
  | bool (value : Bool)
  | number (value : Json.Number)
  | string (value : String)
  | array (items : List Json)
  | object (fields : List (String × Json))
deriving Repr, Inhabited

namespace Json

/-- An integer as a JSON value. -/
def int (i : Int) : Json :=
  .number (.integer i)

/-- A natural number as a JSON value. -/
def nat (n : Nat) : Json :=
  .int n

/-- The value of the first field of a name. -/
def lookup (name : String) : List (String × Json) → Option Json :=
  Dict.lookIn name

/-- The value of a field; `none` if there is no such field or the value is no
object. -/
def field? (name : String) : Json → Option Json
  | .object fields => lookup name fields
  | _ => none

/-- The value holds nothing. -/
def isNull : Json → Bool
  | .null => true
  | _ => false

/-- The value is an object. -/
def isObject : Json → Bool
  | .object _ => true
  | _ => false

/-- Fields with a value put in the place of the first of its name, or at the
end. -/
def setField (name : String) (value : Json) :
    List (String × Json) → List (String × Json)
  | [] => [(name, value)]
  | (n, v) :: rest =>
    if n = name then (name, value) :: rest
    else (n, v) :: setField name value rest

/-- Fields without those of a name. -/
def dropField (name : String) (fields : List (String × Json)) :
    List (String × Json) :=
  fields.filter fun f => f.1 != name

/-- The fields that do not hold `null`. -/
def presentFields (fields : List (String × Json)) : List (String × Json) :=
  fields.filter fun f => !f.2.isNull

/-- An object of the fields that do not hold `null`. -/
def ofPresent (fields : List (String × Json)) : Json :=
  .object (presentFields fields)

/-! ## Values from optional and repeated ones -/

/-- An optional value, `null` where there is none. -/
def ofOption {α : Type} (encode : α → Json) : Option α → Json
  | none => .null
  | some a => encode a

/-- A list of texts. -/
def ofStrings (texts : List String) : Json :=
  .array (texts.map .string)

/-- A dictionary of texts, its keys in rising order. -/
def ofTexts (d : Dict String) : Json :=
  .object (d.entries.map fun e => (e.1, .string e.2))

/-! ## Merge patches -/

mutual

/-- A value changed by a merge patch: a patch that is no object replaces the
value, one that is an object changes the fields it names and leaves the
others. -/
def mergePatch (target : Json) : Json → Json
  | .object changes =>
    let fields := match target with
      | .object fields => fields
      | _ => []
    .object (mergeFields fields changes)
  | patch => patch

/-- Fields changed by the fields of a patch: `null` removes one, any other value
is merged into it. -/
def mergeFields (fields : List (String × Json)) :
    List (String × Json) → List (String × Json)
  | [] => fields
  | (name, patch) :: rest =>
    let fields := match patch with
      | .null => dropField name fields
      | _ =>
        setField name
          (mergePatch ((lookup name fields).getD .null) patch) fields
    mergeFields fields rest

end

/-! ## Equality -/

mutual

/-- Whether two values are equal. -/
def decideEq (a b : Json) : Decidable (a = b) :=
  match a, b with
  | .null, .null => isTrue rfl
  | .bool a, .bool b => decidable_of_iff (a = b) (by simp)
  | .number a, .number b => decidable_of_iff (a = b) (by simp)
  | .string a, .string b => decidable_of_iff (a = b) (by simp)
  | .array a, .array b =>
    match decideItems a b with
    | isTrue h => isTrue (congrArg Json.array h)
    | isFalse h => isFalse fun e => h (by injection e)
  | .object a, .object b =>
    match decideFields a b with
    | isTrue h => isTrue (congrArg Json.object h)
    | isFalse h => isFalse fun e => h (by injection e)
  | .null, .bool _ | .null, .number _ | .null, .string _ | .null,
  .array _ | .null, .object _
  | .bool _, .null | .bool _, .number _ | .bool _, .string _ | .bool _,
  .array _ | .bool _, .object _
  | .number _, .null | .number _, .bool _ | .number _, .string _ | .number _,
  .array _ | .number _, .object _
  | .string _, .null | .string _, .bool _ | .string _, .number _ | .string _,
  .array _ | .string _, .object _
  | .array _, .null | .array _, .bool _ | .array _, .number _ | .array _,
  .string _ | .array _, .object _
  | .object _, .null | .object _, .bool _ | .object _, .number _ | .object _,
  .string _ | .object _, .array _ =>
    isFalse nofun

/-- Whether two lists of items are equal. -/
def decideItems (as bs : List Json) : Decidable (as = bs) :=
  match as, bs with
  | [], [] => isTrue rfl
  | [], _ :: _ | _ :: _, [] => isFalse nofun
  | a :: as, b :: bs =>
    match decideEq a b, decideItems as bs with
    | isTrue h, isTrue hs => isTrue (by rw [h, hs])
    | isFalse h, _ => isFalse fun e => h (List.cons.inj e).1
    | _, isFalse h => isFalse fun e => h (List.cons.inj e).2

/-- Whether two lists of fields are equal. -/
def decideFields (as bs : List (String × Json)) : Decidable (as = bs) :=
  match as, bs with
  | [], [] => isTrue rfl
  | [], _ :: _ | _ :: _, [] => isFalse nofun
  | (m, a) :: as, (n, b) :: bs =>
    match decEq m n, decideEq a b, decideFields as bs with
    | isTrue hm, isTrue h, isTrue hs => isTrue (by rw [hm, h, hs])
    | isFalse h, _, _ => isFalse fun e => h (Prod.mk.inj (List.cons.inj e).1).1
    | _, isFalse h, _ => isFalse fun e => h (Prod.mk.inj (List.cons.inj e).1).2
    | _, _, isFalse h => isFalse fun e => h (List.cons.inj e).2

end

instance : DecidableEq Json := decideEq
/-! ## Small facts -/

theorem lookup_setField_self (name : String) (value : Json)
    (fields : List (String × Json)) :
    lookup name (setField name value fields) = some value := by
  induction fields with
  | nil => simp [setField, lookup, Dict.lookIn]
  | cons f rest ih =>
    obtain ⟨n, v⟩ := f
    unfold setField
    split
    · simp [lookup, Dict.lookIn]
    · next h => simpa [lookup, Dict.lookIn, h] using ih

theorem lookup_setField_of_ne {name other : String} (h : other ≠ name)
    (value : Json) (fields : List (String × Json)) :
    lookup other (setField name value fields) = lookup other fields := by
  induction fields with
  | nil => simp [setField, lookup, Dict.lookIn, Ne.symm h]
  | cons f rest ih =>
    obtain ⟨n, v⟩ := f
    unfold setField
    split
    · next hn => subst hn; simp [lookup, Dict.lookIn, Ne.symm h]
    · by_cases hn : n = other
      · simp [lookup, Dict.lookIn, hn]
      · simpa [lookup, Dict.lookIn, hn] using ih

theorem lookup_dropField_self (name : String) (fields : List (String × Json)) :
    lookup name (dropField name fields) = none := by
  induction fields with
  | nil => rfl
  | cons f rest ih =>
    obtain ⟨n, v⟩ := f
    by_cases h : n = name
    · simpa [dropField, h] using ih
    · simpa [dropField, lookup, Dict.lookIn, h] using ih

theorem lookup_dropField_of_ne {name other : String} (h : other ≠ name)
    (fields : List (String × Json)) :
    lookup other (dropField name fields) = lookup other fields := by
  induction fields with
  | nil => rfl
  | cons f rest ih =>
    obtain ⟨n, v⟩ := f
    by_cases hn : n = name
    · subst hn
      simpa [dropField, lookup, Dict.lookIn, Ne.symm h] using ih
    · by_cases ho : n = other
      · subst ho
        simp [dropField, lookup, Dict.lookIn, hn]
      · simpa [dropField, lookup, Dict.lookIn, hn, ho] using ih

end Json

end DatabaseOperator
