import Mathlib.Data.List.Basic
import DatabaseOperator.Attributes

/-!
# Attributes are told by their document

An attribute that is not set is left out of the document, and every other value
is written so that it can be told from all others of its type. So the document
of some attributes belongs to no others.

- `Json.presentFields_inj`: fields that are left out were `null`.
- `Json.ofOption_injective`, `Json.ofStrings_injective`,
  `Json.ofTexts_injective`: values are told by their forms.
- `RemoteAttributes.toJson_injective`: and so are attributes.
- `RemoteAttributes.ofFields?_eq_some_iff`: attributes are read field by field.
-/

namespace DatabaseOperator

namespace Json

/-! ## Fields that are left out -/

theorem eq_null_of_isNull {j : Json} (h : j.isNull = true) : j = .null := by
  cases j with
  | null => rfl
  | _ => cases h

theorem mem_names_of_presentFields {name : String}
    {fields : List (String × Json)}
    (h : name ∈ (presentFields fields).map Prod.fst) :
    name ∈ fields.map Prod.fst :=
  (List.filter_sublist.map Prod.fst).subset h

theorem presentFields_cons (name : String) (value : Json)
    (rest : List (String × Json)) :
    presentFields ((name, value) :: rest)
      = if value.isNull then presentFields rest
        else (name, value) :: presentFields rest := by
  unfold presentFields
  cases h : value.isNull <;> simp [h]

/-- Fields of the same names, each of them once, are told by those that are not
`null`. -/
theorem presentFields_inj {fields fields' : List (String × Json)}
    (names : fields.map Prod.fst = fields'.map Prod.fst)
    (once : (fields.map Prod.fst).Nodup)
    (h : presentFields fields = presentFields fields') : fields = fields' := by
  -- a field that is left out on one side is missed there
  have hmissed : ∀ {name value} {rest rest' : List (String × Json)}, name
      ∉ rest.map Prod.fst →
        presentFields rest ≠ (name, value) :: presentFields rest' := by
    intro name value rest rest' hfresh h
    refine hfresh (mem_names_of_presentFields ?_)
    rw [h]
    exact List.mem_cons_self ..
  induction fields generalizing fields' with
  | nil =>
    cases fields' with
    | nil => rfl
    | cons => cases names
  | cons field rest ih =>
    obtain ⟨name, value⟩ := field
    cases fields' with
    | nil => cases names
    | cons field' rest' =>
      obtain ⟨name', value'⟩ := field'
      obtain ⟨hname, hnames⟩ := List.cons.inj names
      obtain rfl : name = name' := hname
      obtain ⟨hfresh, honce⟩ := List.nodup_cons.mp once
      rw [presentFields_cons, presentFields_cons] at h
      cases hnull : value.isNull <;> cases hnull' : value'.isNull <;>
        simp only [hnull, hnull', if_true, Bool.false_eq_true, if_false] at h
      · obtain ⟨hfield, hrest⟩ := List.cons.inj h
        rw [(Prod.mk.inj hfield).2, ih hnames honce hrest]
      · exact absurd h.symm (hmissed (hnames ▸ hfresh))
      · exact absurd h (hmissed hfresh)
      · rw [eq_null_of_isNull hnull, eq_null_of_isNull hnull',
          ih hnames honce h]

/-! ## Values -/

theorem ofOption_injective {α : Type} {encode : α → Json}
    (told : Function.Injective encode) (present : ∀ a, encode a ≠ .null) :
    Function.Injective (ofOption encode) := by
  intro x y h
  cases x with
  | none =>
    cases y with
    | none => rfl
    | some b => exact absurd h.symm (present b)
  | some a =>
    cases y with
    | none => exact absurd h (present a)
    | some b => rw [told h]

theorem string_injective : Function.Injective Json.string :=
  fun _ _ h => Json.string.inj h

theorem ofStrings_injective : Function.Injective ofStrings := by
  intro as bs h
  exact string_injective.list_map (Json.array.inj h)

theorem ofTexts_injective : Function.Injective ofTexts := by
  intro d d' h
  have hentry :
      Function.Injective fun e : String × String => (e.1, Json.string e.2) := by
    rintro ⟨k, v⟩ ⟨k', v'⟩ he
    obtain ⟨hkey, hvalue⟩ := Prod.mk.inj he
    rw [show k = k' from hkey, show v = v' from string_injective hvalue]
  obtain ⟨entries, rise⟩ := d
  obtain ⟨entries', rise'⟩ := d'
  obtain rfl : entries = entries' := hentry.list_map (Json.object.inj h)
  rfl

end Json

namespace RemoteAttributes

/-- Attributes are told by their fields. -/
theorem fields_injective (storageName : String) :
    Function.Injective (fields storageName) := by
  have hstring := Json.ofOption_injective Json.string_injective (by simp)
  have hbool : Function.Injective (Json.ofOption Json.bool) :=
    Json.ofOption_injective (fun _ _ h => Json.bool.inj h) (by simp)
  have hint :
      Function.Injective (Json.ofOption fun i : Int32 => .int i.toInt) := by
    refine Json.ofOption_injective (fun i j h => ?_) (by simp [Json.int])
    exact Int32.toInt_inj.mp (Json.Number.integer.inj (Json.number.inj h))
  have hstrings :=
    Json.ofOption_injective Json.ofStrings_injective (by simp [Json.ofStrings])
  have htexts :=
    Json.ofOption_injective Json.ofTexts_injective (by simp [Json.ofTexts])
  intro a b h
  simp only [fields, List.cons.injEq, Prod.mk.injEq, true_and, and_true,
    hstring.eq_iff, hbool.eq_iff, hint.eq_iff, hstrings.eq_iff, htexts.eq_iff]
      at h
  cases a
  cases b
  simpa using h

/-- The document of some attributes is that of no others. -/
theorem toJson_injective : Function.Injective toJson := by
  intro a b h
  have hnames :
      (a.fields "dataStorageSizeInTbs").map Prod.fst = fieldNames := rfl
  refine fields_injective _ (Json.presentFields_inj rfl ?_ (Json.object.inj h))
  rw [hnames]
  decide

/-- Attributes are read field by field. -/
theorem ofFields?_eq_some_iff {storage : String} {fs : List (String × Json)}
    {a : RemoteAttributes} :
    ofFields? storage fs = some a ↔
      Json.optional? "compartmentId" Json.string? fs = some a.compartmentId
      ∧ Json.optional? "displayName" Json.string? fs = some a.displayName
      ∧ Json.optional? "dbName" Json.string? fs = some a.dbName
      ∧ Json.optional? "dbWorkload" Json.string? fs = some a.dbWorkload
      ∧ Json.optional? "dbVersion" Json.string? fs = some a.dbVersion
      ∧ Json.optional? "isDedicated" Json.bool? fs = some a.isDedicated
      ∧ Json.optional? "cpuCoreCount" Json.int32? fs = some a.cpuCoreCount
      ∧ Json.optional? storage Json.int32? fs = some a.dataStorageSizeInTbs
      ∧ Json.optional? "isAutoScalingEnabled" Json.bool? fs
        = some a.isAutoScalingEnabled
      ∧ Json.optional? "freeformTags" Json.texts? fs = some a.freeformTags
      ∧ Json.optional? "subnetId" Json.string? fs = some a.subnetId
      ∧ Json.optional? "nsgIds" Json.strings? fs = some a.nsgIds
      ∧ Json.optional? "privateEndpointLabel" Json.string? fs
        = some a.privateEndpointLabel
      ∧ Json.optional? "whitelistedIps" Json.strings? fs
        = some a.whitelistedIps := by
  constructor
  · intro h
    obtain ⟨_, h₁, h⟩ := Option.bind_eq_some_iff.mp h
    obtain ⟨_, h₂, h⟩ := Option.bind_eq_some_iff.mp h
    obtain ⟨_, h₃, h⟩ := Option.bind_eq_some_iff.mp h
    obtain ⟨_, h₄, h⟩ := Option.bind_eq_some_iff.mp h
    obtain ⟨_, h₅, h⟩ := Option.bind_eq_some_iff.mp h
    obtain ⟨_, h₆, h⟩ := Option.bind_eq_some_iff.mp h
    obtain ⟨_, h₇, h⟩ := Option.bind_eq_some_iff.mp h
    obtain ⟨_, h₈, h⟩ := Option.bind_eq_some_iff.mp h
    obtain ⟨_, h₉, h⟩ := Option.bind_eq_some_iff.mp h
    obtain ⟨_, h₁₀, h⟩ := Option.bind_eq_some_iff.mp h
    obtain ⟨_, h₁₁, h⟩ := Option.bind_eq_some_iff.mp h
    obtain ⟨_, h₁₂, h⟩ := Option.bind_eq_some_iff.mp h
    obtain ⟨_, h₁₃, h⟩ := Option.bind_eq_some_iff.mp h
    obtain ⟨_, h₁₄, h⟩ := Option.bind_eq_some_iff.mp h
    cases h
    exact ⟨h₁, h₂, h₃, h₄, h₅, h₆, h₇, h₈, h₉, h₁₀, h₁₁, h₁₂, h₁₃, h₁₄⟩
  · rintro ⟨h₁, h₂, h₃, h₄, h₅, h₆, h₇, h₈, h₉, h₁₀, h₁₁, h₁₂, h₁₃, h₁₄⟩
    unfold ofFields?
    rw [h₁, h₂, h₃, h₄, h₅, h₆, h₇, h₈, h₉, h₁₀, h₁₁, h₁₂, h₁₃, h₁₄]
    rfl

end RemoteAttributes

end DatabaseOperator
