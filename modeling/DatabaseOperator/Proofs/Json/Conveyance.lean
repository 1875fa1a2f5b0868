import DatabaseOperator.Proofs.Json.Merge
import DatabaseOperator.Proofs.Json.Reading

/-!
# Values that documents convey

A value is written as a document, and the document as a text. What comes back is
the document with the fields of its objects in rising order, so a value survives
if it is read alike from either arrangement.

- `Json.Arrangement`: the fields of a document as they are written, or in rising
  order.
- `Json.Conveys`: a value is read from its document, however that is arranged.
- `Json.Conveys.of_replaces`, `Json.Conveys.list`, `Json.conveys_texts`,
  `Json.Conveys.record`: single values, lists, dictionaries and records.
- `Json.Fits`: how deep the forms of values nest.
- `Json.Conveys.survives`: a value that is conveyed is read from the text of its
  document.
-/

namespace DatabaseOperator.Json

variable {α : Type} {n : Nat} {name : String} {a : α} {j : Json}
    {decode : Json → Option α} {encode : α → Json}
    {fields fs : List (String × Json)}

/-! ## Arrangements -/

theorem orderedItems_eq_map (items : List Json) :
    orderedItems items = items.map ordered := by
  induction items with
  | nil => rfl
  | cons item rest ih => rw [orderedItems, ih, List.map_cons]

theorem orderedFields_eq_map (fields : List (String × Json)) :
    orderedFields fields = fields.map fun f => (f.1, f.2.ordered) := by
  induction fields with
  | nil => rfl
  | cons f rest ih => rw [orderedFields, ih, List.map_cons]

/-- How the fields of objects are arranged: as they are written, or in rising
order of their names. -/
inductive Arrangement where
  | written
  | rising

namespace Arrangement

/-- A value with the fields of its objects arranged. -/
def apply : Arrangement → Json → Json
  | written, j => j
  | rising, j => j.ordered

variable (arrangement : Arrangement)

theorem isNull_apply (j : Json) : (arrangement.apply j).isNull = j.isNull := by
  cases arrangement with
  | written => rfl
  | rising => cases j <;> simp [apply, ordered, isNull]

/-- A value that holds no others is not changed. -/
theorem apply_eq_self (flat : j.ordered = j) : arrangement.apply j = j := by
  cases arrangement with
  | written => rfl
  | rising => exact flat

theorem apply_array (items : List Json) :
    arrangement.apply (.array items)
      = .array (items.map arrangement.apply) := by
  cases arrangement with
  | written => exact congrArg Json.array (List.map_id items).symm
  | rising =>
    show Json.ordered (.array items) = _
    rw [ordered, orderedItems_eq_map]
    rfl

/-- An object has the same fields in any arrangement, and each value is arranged
as well. -/
theorem exists_apply_object (once : NamedOnce fields) :
    ∃ fs, arrangement.apply (.object fields) = .object fs ∧ NamedOnce fs
      ∧ ∀ name,
        lookup name fs = (lookup name fields).map arrangement.apply := by
  cases arrangement with
  | written =>
    refine ⟨fields, rfl, once, fun name => ?_⟩
    exact (congrFun Option.map_id (lookup name fields)).symm
  | rising =>
    -- no name is given twice, so none of the values is lost to a later one
    refine ⟨(Dict.ofList (orderedFields fields)).entries, ?_, Dict.nodup_keys _,
      fun name => ?_⟩
    · show Json.ordered (.object fields) = _
      rw [ordered]
    · rw [orderedFields_eq_map]
      have honce := namedOnce_map_values (fun _ => ordered) once
      have hlookup := lookup_map_values (fun _ => ordered) name fields
      exact (Dict.get?_ofList honce name).trans hlookup

end Arrangement

/-! ## Values that are conveyed -/

/-- A value is written in a form that is not `null`, and is read from it in any
arrangement. -/
structure Conveys (decode : Json → Option α) (j : Json) (a : α) : Prop where
  present : j ≠ .null
  read : ∀ arrangement : Arrangement, decode (arrangement.apply j) = some a

theorem Conveys.of_replaces (replaces : Replaces decode j a)
    (plain : j.isObject = false) (flat : j.ordered = j) :
    Conveys decode j a where
  present := replaces.present
  read arrangement := by
    have hread := replaces.read .null
    rwa [mergePatch_of_not_object _ plain, ← arrangement.apply_eq_self flat]
      at hread

theorem Conveys.of_text {text : String}
    (read : decode (.string text) = some a) : Conveys decode (.string text) a :=
  .of_replaces (.of_not_object Json.noConfusion rfl read) rfl rfl

theorem conveys_string (s : String) : Conveys string? (.string s) s :=
  .of_replaces (replaces_string s) rfl rfl

theorem conveys_bool (b : Bool) : Conveys bool? (.bool b) b :=
  .of_replaces (replaces_bool b) rfl rfl

theorem conveys_int32 (i : Int32) : Conveys int32? (.int i.toInt) i :=
  .of_replaces (replaces_int32 i) rfl rfl

theorem conveys_int64 (i : Int64) : Conveys int64? (.int i.toInt) i :=
  .of_replaces (replaces_int64 i) rfl rfl

theorem conveys_uint32 (m : UInt32) : Conveys uint32? (.nat m.toNat) m :=
  .of_replaces (replaces_uint32 m) rfl rfl

/-- A list is conveyed item by item. -/
theorem Conveys.list (conveys : ∀ a, Conveys decode (encode a) a)
    (as : List α) : Conveys (list? decode) (.array (as.map encode)) as where
  present := Json.noConfusion
  read arrangement := by
    rw [arrangement.apply_array, List.map_map]
    exact allItems?_map (fun a => (conveys a).read arrangement) as

theorem conveys_strings (texts : List String) :
    Conveys strings? (ofStrings texts) texts :=
  .list conveys_string texts

theorem conveys_texts (d : Dict String) : Conveys texts? (ofTexts d) d where
  present := Json.noConfusion
  read arrangement := by
    have held := HoldsTexts.ofTexts d
    obtain ⟨fs, hform, honce, hlookup⟩ :=
      arrangement.exists_apply_object held.once
    unfold ofTexts
    rw [hform]
    refine HoldsTexts.texts? ⟨honce, fun key => ?_⟩
    have hplain : arrangement.apply ∘ Json.string = Json.string :=
      funext fun s => arrangement.apply_eq_self (j := .string s) rfl
    rw [hlookup, held.held, Option.map_map, hplain]

/-! ## Records -/

/-- Fields restate those of a record in an arrangement, but for those that hold
`null`. -/
def Restates (arrangement : Arrangement) (fields fs : List (String × Json)) :
    Prop :=
  ∀ {name value}, (name, value) ∈ fields →
    lookup name fs = if value.isNull then none
      else some (arrangement.apply value)

/-- A record is conveyed if it is read from all fields that restate its own. -/
theorem Conveys.record {names : List String}
    {decode : List (String × Json) → Option α} (once : NamedOnce fields)
    (read : ∀ arrangement fs, Restates arrangement fields fs →
      decode fs = some a) :
    Conveys (fun j => (j.record? names).bind decode) (.ofPresent fields) a where
  present := Json.noConfusion
  read arrangement := by
    obtain ⟨fs, hform, -, hlookup⟩ :=
      arrangement.exists_apply_object (namedOnce_presentFields once)
    show (record? names
      (arrangement.apply (.object (presentFields fields)))).bind decode = some a
    rw [hform]
    refine read arrangement fs fun {name value} h => ?_
    rw [hlookup, lookup_presentFields once h]
    cases value.isNull <;> rfl

/-- So is one that has no field to leave out. -/
theorem Conveys.object {names : List String}
    {decode : List (String × Json) → Option α} (once : NamedOnce fields)
    (whole : presentFields fields = fields)
    (read : ∀ arrangement fs, Restates arrangement fields fs →
      decode fs = some a) :
    Conveys (fun j => (j.record? names).bind decode) (.object fields) a := by
  have hrecord : Conveys (fun j => (j.record? names).bind decode)
    (.ofPresent fields) a := .record once read
  unfold ofPresent at hrecord
  rwa [whole] at hrecord

namespace Restates

variable {arrangement : Arrangement}

theorem lookup_of_ne_null (restated : Restates arrangement fields fs)
    (h : (name, j) ∈ fields) (present : j ≠ .null) :
    lookup name fs = some (arrangement.apply j) := by
  rw [restated h]
  cases hnull : j.isNull with
  | true => exact absurd (eq_null_of_isNull hnull) present
  | false => rfl

theorem required (restated : Restates arrangement fields fs) (name : String)
    (conveys : Conveys decode j a) (h : (name, j) ∈ fields) :
    required? name decode fs = some a := by
  unfold required?
  rw [restated.lookup_of_ne_null h conveys.present]
  exact conveys.read arrangement

theorem defaulted (restated : Restates arrangement fields fs) (name : String)
    (default : α) (conveys : Conveys decode j a) (h : (name, j) ∈ fields) :
    defaulted? name decode default fs = some a := by
  unfold defaulted?
  rw [restated.lookup_of_ne_null h conveys.present]
  exact conveys.read arrangement

theorem defaulted_of_null (restated : Restates arrangement fields fs)
    (decode : Json → Option α) (default : α) (h : (name, .null) ∈ fields) :
    defaulted? name decode default fs = some default := by
  unfold defaulted?
  rw [restated h]
  rfl

/-- A field that may be unset is read as it was set, or not. -/
theorem optional_of_some (restated : Restates arrangement fields fs)
    (name : String) (o : Option α)
    (conveys : ∀ a, o = some a → Conveys decode (encode a) a)
    (h : (name, ofOption encode o) ∈ fields) :
    optional? name decode fs = some o := by
  unfold optional?
  cases o with
  | none =>
    rw [restated h]
    rfl
  | some a =>
    have hconveys := conveys a rfl
    have hform : arrangement.apply (encode a) ≠ .null := by
      intro hnull
      have hisNull := arrangement.isNull_apply (encode a)
      rw [hnull] at hisNull
      exact hconveys.present (eq_null_of_isNull hisNull.symm)
    rw [restated.lookup_of_ne_null h hconveys.present]
    show nullable? decode (arrangement.apply (encode a)) = _
    rw [nullable?_of_ne_null hform, hconveys.read, Option.map_some]

theorem optional (restated : Restates arrangement fields fs) (name : String)
    (conveys : ∀ a, Conveys decode (encode a) a) (o : Option α)
    (h : (name, ofOption encode o) ∈ fields) :
    optional? name decode fs = some o :=
  restated.optional_of_some name o (fun a _ => conveys a) h

end Restates

/-! ## Through text -/

@[simp] theorem fits_string (s : String) : Fits n (.string s) :=
  .string s

@[simp] theorem fits_bool (b : Bool) : Fits n (.bool b) :=
  .bool b

theorem fits_int {i : Int} (low : -9223372036854775808 ≤ i)
    (high : i < 9223372036854775808) : Fits n (.int i) := by
  have hbounds : -(Int.pow 2 63) ≤ i ∧ i < Int.pow 2 64 :=
    ⟨low,
      Int.lt_trans high
        (show (9223372036854775808 : Int) < Int.pow 2 64 by decide)⟩
  refine .integer ?_
  unfold isExactInteger
  rw [Bool.and_eq_true, decide_eq_true_eq, decide_eq_true_eq]
  exact hbounds

@[simp] theorem fits_int32 (i : Int32) : Fits n (.int i.toInt) := by
  have hlow := i.le_toInt
  have hhigh := i.toInt_lt
  exact fits_int (by omega) (by omega)

@[simp] theorem fits_int64 (i : Int64) : Fits n (.int i.toInt) :=
  fits_int i.le_toInt i.toInt_lt

@[simp] theorem fits_uint32 (m : UInt32) : Fits n (.nat m.toNat) := by
  have hhigh := m.toNat_lt
  exact fits_int (by omega) (by omega)

@[simp] theorem fits_ofOption (h : ∀ a, Fits n (encode a)) (o : Option α) :
    Fits n (ofOption encode o) := by
  cases o with
  | none => exact .null
  | some a => exact h a

@[simp] theorem fits_list (h : ∀ a, Fits n (encode a)) (as : List α) :
    Fits (n + 1) (.array (as.map encode)) := by
  refine .array fun item hitem => ?_
  obtain ⟨a, -, rfl⟩ := List.mem_map.mp hitem
  exact h a

@[simp] theorem fits_ofStrings (texts : List String) :
    Fits (n + 1) (ofStrings texts) :=
  fits_list fits_string texts

@[simp] theorem fits_ofTexts (d : Dict String) : Fits (n + 1) (ofTexts d) := by
  refine .object fun f hf => ?_
  obtain ⟨e, -, rfl⟩ := List.mem_map.mp hf
  exact fits_string e.2

theorem fits_ofPresent (h : ∀ f ∈ fields, Fits n f.2) :
    Fits (n + 1) (ofPresent fields) :=
  .object fun f hf => h f (List.mem_of_mem_filter hf)

/-- A value is read from the document that it is written as, and from the text
of that. -/
structure Survives (decode : Json → Option α) (j : Json) (a : α) : Prop where
  document : decode j = some a
  text : (parse? j.render).bind decode = some a

/-- What is conveyed survives, unless it nests too deep. -/
theorem Conveys.survives (conveys : Conveys decode j a) (fits : Fits n j)
    (shallow : n ≤ nestingLimit) : Survives decode j a where
  document := conveys.read .written
  text := by
    rw [parse?_render fits shallow]
    exact conveys.read .rising

end DatabaseOperator.Json
