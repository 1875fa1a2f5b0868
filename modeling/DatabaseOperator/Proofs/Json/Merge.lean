import DatabaseOperator.Json.Decode
import DatabaseOperator.Proofs.Attributes
import DatabaseOperator.Proofs.Dict
import DatabaseOperator.Status.Patch

/-!
# What a merge patch leaves of a document

A merge patch changes each field on its own: one that it does not name stays,
one that it names with `null` goes, and any other is merged with what is there.
So what is read from a patched document is settled field by field.

- `Json.merged`, `Json.lookup_mergeFields`: one field after a patch.
- `Json.lookup_presentFields`, `Json.lookup_fillNulls`: one field of a document
  without nulls, and of one filled up with them.
- `Json.lookup_of_filled`: a patch that is filled up says of each field what is
  to become of it.
- `Json.Replaces`: a form that is read back whatever it is merged into.
- `Json.texts?_mergePatch`: a dictionary, which is laid over the one that is
  there.
-/

namespace DatabaseOperator.Json

variable {α : Type} {name other : String} {value j : Json} {names : List String}
    {fields changes : List (String × Json)}

/-! ## Names -/

/-- Each field has a name of its own. -/
def NamedOnce (fields : List (String × Json)) : Prop :=
  (fields.map Prod.fst).Nodup

theorem lookup_cons_self (name : String) (value : Json)
    (fields : List (String × Json)) :
    lookup name ((name, value) :: fields) = some value :=
  Dict.lookIn_cons_self ..

theorem lookup_cons_of_ne (h : other ≠ name) (value : Json)
    (fields : List (String × Json)) :
    lookup name ((other, value) :: fields) = lookup name fields :=
  Dict.lookIn_cons_of_ne h ..

theorem lookup_eq_none_iff :
    lookup name fields = none ↔ name ∉ fields.map Prod.fst :=
  Dict.lookIn_eq_none_iff

theorem lookup_of_mem (once : NamedOnce fields) (h : (name, value) ∈ fields) :
    lookup name fields = some value :=
  Dict.lookIn_of_mem once h

theorem mem_names_setField
    (h : other ∈ (setField name value fields).map Prod.fst) :
    other = name ∨ other ∈ fields.map Prod.fst := by
  by_cases hother : other = name
  · exact .inl hother
  · right
    by_contra hfresh
    refine lookup_eq_none_iff.mp ?_ h
    rw [lookup_setField_of_ne hother]
    exact lookup_eq_none_iff.mpr hfresh

theorem namedOnce_setField (once : NamedOnce fields) :
    NamedOnce (setField name value fields) := by
  induction fields with
  | nil => simp [setField, NamedOnce]
  | cons f rest ih =>
    obtain ⟨n, v⟩ := f
    obtain ⟨hfresh, honce⟩ := List.nodup_cons.mp once
    unfold setField
    split
    next hn =>
      subst hn
      exact List.nodup_cons.mpr ⟨hfresh, honce⟩
    next hn =>
      refine List.nodup_cons.mpr ⟨fun hmem => ?_, ih honce⟩
      rcases mem_names_setField hmem with hsame | hmem
      · exact hn hsame
      · exact hfresh hmem

theorem namedOnce_dropField (once : NamedOnce fields) :
    NamedOnce (dropField name fields) :=
  once.sublist (List.filter_sublist.map Prod.fst)

/-! ## Patches -/

/-- What becomes of a field that a patch says something of, or nothing. -/
def merged (old : Option Json) : Option Json → Option Json
  | none => old
  | some .null => none
  | some patch => some (mergePatch (old.getD .null) patch)

@[simp] theorem merged_none (old : Option Json) : merged old none = old := rfl

theorem merged_of_ne_null (old : Option Json) (h : j ≠ .null) :
    merged old (some j) = some (mergePatch (old.getD .null) j) := by
  cases j with
  | null => exact absurd rfl h
  | _ => rfl

/-- The fields that a value has; one that is no object has none. -/
def fieldList : Json → List (String × Json)
  | .object fields => fields
  | _ => []

theorem mergePatch_object (target : Json) (changes : List (String × Json)) :
    mergePatch target (.object changes)
      = .object (mergeFields target.fieldList changes) := by
  cases target <;> simp [mergePatch, fieldList]

theorem mergePatch_of_not_object (target : Json) (h : j.isObject = false) :
    mergePatch target j = j := by
  cases j with
  | object fields => cases h
  | _ => simp [mergePatch]

theorem mergeFields_cons (fields : List (String × Json)) (name : String)
    (patch : Json) (rest : List (String × Json)) :
    mergeFields fields ((name, patch) :: rest)
      = mergeFields (match patch with
          | .null => dropField name fields
          | _ =>
            setField name (mergePatch ((lookup name fields).getD .null) patch)
              fields) rest := by
  cases patch <;> simp [mergeFields]

/-- Each field is changed on its own. -/
theorem lookup_mergeFields (once : NamedOnce changes) (name : String)
    (fields : List (String × Json)) :
    lookup name (mergeFields fields changes)
      = merged (lookup name fields) (lookup name changes) := by
  induction changes generalizing fields with
  | nil => simp [mergeFields, lookup, Dict.lookIn]
  | cons change rest ih =>
    obtain ⟨n, patch⟩ := change
    obtain ⟨hfresh, honce⟩ := List.nodup_cons.mp once
    rw [mergeFields_cons, ih honce]
    by_cases hn : n = name
    · subst hn
      have hrest : lookup n rest = none := lookup_eq_none_iff.mpr hfresh
      rw [hrest, lookup_cons_self, merged_none]
      cases patch with
      | null => exact lookup_dropField_self n fields
      | _ => exact lookup_setField_self n _ fields
    · rw [lookup_cons_of_ne hn]
      cases patch with
      | null => rw [lookup_dropField_of_ne (Ne.symm hn)]
      | _ => rw [lookup_setField_of_ne (Ne.symm hn)]

theorem namedOnce_mergeFields (once : NamedOnce fields) :
    NamedOnce (mergeFields fields changes) := by
  induction changes generalizing fields with
  | nil =>
    rw [mergeFields]
    exact once
  | cons change rest ih =>
    obtain ⟨n, patch⟩ := change
    rw [mergeFields_cons]
    cases patch with
    | null => exact ih (namedOnce_dropField once)
    | _ => exact ih (namedOnce_setField once)

/-! ## Documents without nulls, and filled up with them -/

theorem namedOnce_presentFields (once : NamedOnce fields) :
    NamedOnce (presentFields fields) :=
  once.sublist (List.filter_sublist.map Prod.fst)

/-- A field that holds `null` is left out. -/
theorem lookup_presentFields (once : NamedOnce fields)
    (h : (name, value) ∈ fields) :
    lookup name (presentFields fields) = if value.isNull then none
      else some value := by
  split
  next hnull =>
    rw [lookup_eq_none_iff]
    intro hmem
    obtain ⟨⟨n, v⟩, hpresent, rfl⟩ := List.mem_map.mp hmem
    obtain ⟨hfield, hvalue⟩ := List.mem_filter.mp hpresent
    have hsame := (lookup_of_mem once hfield).symm.trans (lookup_of_mem once h)
    rw [Option.some.inj hsame, hnull] at hvalue
    cases hvalue
  next hpresent =>
    refine lookup_of_mem (namedOnce_presentFields once)
      (List.mem_filter.mpr ⟨h, ?_⟩)
    simpa using hpresent

theorem lookup_map_values (change : String → Json → Json) (name : String)
    (fields : List (String × Json)) :
    lookup name (fields.map fun f => (f.1, change f.1 f.2))
      = (lookup name fields).map (change name) := by
  induction fields with
  | nil => rfl
  | cons f rest ih =>
    obtain ⟨n, v⟩ := f
    rw [List.map_cons]
    by_cases hn : n = name
    · subst hn
      rw [lookup_cons_self, lookup_cons_self, Option.map_some]
    · rw [lookup_cons_of_ne hn, lookup_cons_of_ne hn, ih]

theorem namedOnce_map_values (change : String → Json → Json)
    (once : NamedOnce fields) :
    NamedOnce (fields.map fun f => (f.1, change f.1 f.2)) := by
  have hnames : (fields.map fun f => (f.1, change f.1 f.2)).map Prod.fst
      = fields.map Prod.fst := by
    rw [List.map_map]
    rfl
  unfold NamedOnce
  rw [hnames]
  exact once

theorem lookup_append (name : String) (fields rest : List (String × Json)) :
    lookup name (fields ++ rest)
      = (lookup name fields <|> lookup name rest) := by
  induction fields with
  | nil =>
    have hnil : lookup name [] = none := rfl
    rw [List.nil_append, hnil]
    cases lookup name rest <;> rfl
  | cons f fields ih =>
    obtain ⟨n, v⟩ := f
    by_cases hn : n = name
    · subst hn
      rw [List.cons_append, lookup_cons_self, lookup_cons_self]
      rfl
    · rw [List.cons_append, lookup_cons_of_ne hn, lookup_cons_of_ne hn, ih]

/-- One name filled in. -/
theorem fillNulls_cons (name : String) (names : List String)
    (fields : List (String × Json)) :
    fillNulls (name :: names) fields
      = fillNulls names (if (lookup name fields).isSome then fields
        else fields ++ [(name, .null)]) :=
  rfl

/-- What is there stays. -/
theorem lookup_fillNulls_of_some (names : List String)
    (h : lookup name fields = some value) :
    lookup name (fillNulls names fields) = some value := by
  induction names generalizing fields with
  | nil => exact h
  | cons n names ih =>
    rw [fillNulls_cons]
    refine ih ?_
    split
    next => exact h
    next => rw [lookup_append, h]; rfl

/-- What is missing is filled in, if it is among the names. -/
theorem lookup_fillNulls_of_none (mem : name ∈ names)
    (h : lookup name fields = none) :
    lookup name (fillNulls names fields) = some .null := by
  induction names generalizing fields with
  | nil => cases mem
  | cons n names ih =>
    rw [fillNulls_cons]
    by_cases hn : n = name
    · subst hn
      refine lookup_fillNulls_of_some names ?_
      rw [h, if_neg (by simp), lookup_append, h]
      exact lookup_cons_self ..
    · refine ih ((List.mem_cons.mp mem).resolve_left (Ne.symm hn)) ?_
      split
      next => exact h
      next =>
        rw [lookup_append, h]
        exact lookup_cons_of_ne hn ..

theorem namedOnce_fillNulls (once : NamedOnce fields) :
    NamedOnce (fillNulls names fields) := by
  induction names generalizing fields with
  | nil => exact once
  | cons n names ih =>
    rw [fillNulls_cons]
    split
    next => exact ih once
    next hmissing =>
      refine ih ?_
      have hfresh : n ∉ fields.map Prod.fst := by
        rw [← lookup_eq_none_iff]
        simpa using hmissing
      unfold NamedOnce
      rw [List.map_append, List.map_singleton]
      exact List.Nodup.append once (List.nodup_singleton n)
        (List.disjoint_singleton.mpr hfresh)

/-- A document whose unset fields were left out, filled up again: every field is
there, an unset one with `null`. -/
theorem lookup_of_filled (once : NamedOnce fields) (h : (name, value) ∈ fields)
    (clearable : value.isNull = true → name ∈ names) :
    lookup name (fillNulls names (presentFields fields)) = some value := by
  have hpresent := lookup_presentFields once h
  cases hnull : value.isNull with
  | true =>
    rw [hnull] at hpresent
    rw [eq_null_of_isNull hnull]
    exact lookup_fillNulls_of_none (clearable hnull) hpresent
  | false =>
    rw [hnull] at hpresent
    exact lookup_fillNulls_of_some names hpresent

/-! ## Values that replace what is there -/

/-- A value is read from its form, whatever the form is merged into. -/
structure Replaces (decode : Json → Option α) (j : Json) (a : α) : Prop where
  present : j ≠ .null
  read : ∀ old, decode (mergePatch old j) = some a

variable {decode : Json → Option α} {encode : α → Json} {a : α}

theorem Replaces.of_not_object (present : j ≠ .null) (h : j.isObject = false)
    (read : decode j = some a) : Replaces decode j a where
  present := present
  read old := by rw [mergePatch_of_not_object old h, read]

theorem mergePatch_ne_null (old : Json) (h : j ≠ .null) :
    mergePatch old j ≠ .null := by
  cases j with
  | object changes =>
    rw [mergePatch_object]
    exact Json.noConfusion
  | _ => rwa [mergePatch_of_not_object old rfl]

theorem nullable?_of_ne_null (h : j ≠ .null) :
    nullable? decode j = (decode j).map some := by
  cases j with
  | null => exact absurd rfl h
  | _ => rfl

/-- A field that is set is read after the patch as what its form has become, and
one that is not set is missing. -/
theorem optional?_map_of_merged {β : Type} {decode : Json → Option β}
    {a : Option α} {old : Option Json} (become : α → β)
    (present : ∀ x, encode x ≠ .null)
    (read : ∀ x, a = some x →
      decode (mergePatch (old.getD .null) (encode x)) = some (become x))
    (h : lookup name fields = merged old (some (ofOption encode a))) :
    optional? name decode fields = some (a.map become) := by
  unfold optional?
  cases a with
  | none =>
    rw [h]
    rfl
  | some x =>
    have hform : ofOption encode (some x) = encode x := rfl
    rw [hform, merged_of_ne_null old (present x)] at h
    rw [h]
    show nullable? decode _ = some (some (become x))
    rw [nullable?_of_ne_null (mergePatch_ne_null _ (present x)), read x rfl]
    rfl

theorem optional?_of_merged {a : Option α} {old : Option Json}
    (replaces : ∀ x, Replaces decode (encode x) x)
    (h : lookup name fields = merged old (some (ofOption encode a))) :
    optional? name decode fields = some a := by
  have hread := optional?_map_of_merged id (fun x => (replaces x).present)
    (fun x _ => (replaces x).read _) h
  rwa [Option.map_id] at hread

theorem required?_of_merged {old : Option Json} (replaces : Replaces decode j a)
    (h : lookup name fields = merged old (some j)) :
    required? name decode fields = some a := by
  unfold required?
  rw [h, merged_of_ne_null old replaces.present]
  exact replaces.read _

theorem defaulted?_of_merged {default : α} {old : Option Json}
    (replaces : Replaces decode j a)
    (h : lookup name fields = merged old (some j)) :
    defaulted? name decode default fields = some a := by
  unfold defaulted?
  rw [h, merged_of_ne_null old replaces.present]
  exact replaces.read _

theorem replaces_string (s : String) : Replaces string? (.string s) s :=
  .of_not_object Json.noConfusion rfl rfl

theorem replaces_bool (b : Bool) : Replaces bool? (.bool b) b :=
  .of_not_object Json.noConfusion rfl rfl

theorem replaces_int32 (i : Int32) : Replaces int32? (.int i.toInt) i := by
  refine .of_not_object Json.noConfusion rfl ?_
  have hlow := i.le_toInt
  have hhigh := i.toInt_lt
  have hbounds :
      intBetween? (-2147483648) 2147483647 (.int i.toInt) = some i.toInt :=
    if_pos ⟨by omega, by omega⟩
  unfold int32?
  rw [hbounds, Option.map_some, Int32.ofInt_toInt]

theorem replaces_int64 (i : Int64) : Replaces int64? (.int i.toInt) i := by
  refine .of_not_object Json.noConfusion rfl ?_
  have hlow := i.le_toInt
  have hhigh := i.toInt_lt
  have hbounds : intBetween? (-9223372036854775808) 9223372036854775807
      (.int i.toInt) = some i.toInt :=
    if_pos ⟨by omega, by omega⟩
  unfold int64?
  rw [hbounds, Option.map_some, Int64.ofInt_toInt]

theorem replaces_uint32 (n : UInt32) : Replaces uint32? (.nat n.toNat) n := by
  refine .of_not_object Json.noConfusion rfl ?_
  have hhigh := n.toNat_lt
  have hbounds :
      intBetween? 0 4294967295 (.nat n.toNat) = some (n.toNat : Int) :=
    if_pos ⟨by omega, by omega⟩
  have hnat : natUpTo? 4294967295 (.nat n.toNat) = some n.toNat := by
    unfold natUpTo?
    show Option.map Int.toNat (intBetween? 0 4294967295 _) = _
    rw [hbounds]
    rfl
  unfold uint32?
  rw [hnat, Option.map_some, UInt32.ofNat_toNat]

theorem replaces_strings (texts : List String) :
    Replaces strings? (ofStrings texts) texts :=
  .of_not_object Json.noConfusion rfl (strings?_ofStrings texts)

/-! ## Dictionaries -/

/-- The fields hold the texts of a dictionary. -/
structure HoldsTexts (fields : List (String × Json)) (d : Dict String) :
    Prop where
  once : NamedOnce fields
  held : ∀ key, lookup key fields = (d.get? key).map .string

theorem lookup_map_string (key : String) (entries : List (String × String)) :
    lookup key (entries.map fun e => (e.1, .string e.2))
      = (Dict.lookIn key entries).map .string := by
  induction entries with
  | nil => rfl
  | cons e rest ih =>
    obtain ⟨k, v⟩ := e
    rw [List.map_cons]
    by_cases hk : k = key
    · subst hk
      rw [lookup_cons_self, Dict.lookIn_cons_self, Option.map_some]
    · rw [lookup_cons_of_ne hk, Dict.lookIn_cons_of_ne hk, ih]

theorem names_map_string (entries : List (String × String)) :
    (entries.map fun e => (e.1, Json.string e.2)).map Prod.fst
      = entries.map Prod.fst := by
  rw [List.map_map]
  rfl

theorem HoldsTexts.ofTexts (d : Dict String) :
    HoldsTexts (d.entries.map fun e => (e.1, .string e.2)) d where
  once := by
    unfold NamedOnce
    rw [names_map_string]
    exact d.nodup_keys
  held key := lookup_map_string key d.entries

/-- Fields that all hold texts are read as these. -/
theorem allFields?_string (texts : ∀ f ∈ fields, ∃ s, f.2 = .string s) :
    ∃ entries, allFields? string? fields = some entries
      ∧ fields = entries.map fun e => (e.1, .string e.2) := by
  induction fields with
  | nil => exact ⟨[], rfl, rfl⟩
  | cons f rest ih =>
    obtain ⟨name, value⟩ := f
    obtain ⟨s, hs⟩ := texts (name, value) (List.mem_cons_self ..)
    obtain rfl : value = .string s := hs
    obtain ⟨entries, hread, hrest⟩ :=
      ih fun f hf => texts f (List.mem_cons_of_mem _ hf)
    refine ⟨(name, s) :: entries, ?_, ?_⟩
    · unfold allFields?
      rw [hread, string?_string]
    · rw [List.map_cons, ← hrest]

theorem HoldsTexts.texts? {d : Dict String} (h : HoldsTexts fields d) :
    texts? (.object fields) = some d := by
  have htexts : ∀ f ∈ fields, ∃ s, f.2 = .string s := by
    rintro ⟨name, value⟩ hf
    have hheld := (lookup_of_mem h.once hf).symm.trans (h.held name)
    obtain ⟨s, -, hs⟩ := Option.map_eq_some_iff.mp hheld.symm
    exact ⟨s, hs.symm⟩
  obtain ⟨entries, hread, rfl⟩ := allFields?_string htexts
  have honce : (entries.map Prod.fst).Nodup := by
    rw [← names_map_string]
    exact h.once
  have hentries : Dict.ofList entries = d := by
    refine Dict.ext_get? fun key => ?_
    rw [Dict.get?_ofList honce]
    have hboth := (lookup_map_string key entries).symm.trans (h.held key)
    exact Option.map_injective string_injective hboth
  show (allFields? string? _).map Dict.ofList = some d
  rw [hread, Option.map_some, hentries]

/-- A dictionary that is merged into another is laid over it. -/
theorem HoldsTexts.merge {d : Dict String} (h : HoldsTexts fields d)
    (upper : Dict String) :
    HoldsTexts
      (mergeFields fields (upper.entries.map fun e => (e.1, .string e.2)))
      (d.overlay upper) where
  once := namedOnce_mergeFields h.once
  held key := by
    have hupper := HoldsTexts.ofTexts upper
    rw [lookup_mergeFields hupper.once, hupper.held, h.held, Dict.get?_overlay]
    cases upper.get? key with
    | none => rfl
    | some v =>
      show some (mergePatch _ (.string v)) = _
      rw [mergePatch_of_not_object _ rfl]
      rfl

theorem texts?_mergePatch (d upper : Dict String) :
    Json.texts? (mergePatch (ofTexts d) (ofTexts upper))
      = some (d.overlay upper) := by
  unfold ofTexts
  rw [mergePatch_object]
  exact ((HoldsTexts.ofTexts d).merge upper).texts?

/-- Without one that is there it is read as it is. -/
theorem texts?_mergePatch_null (upper : Dict String) :
    Json.texts? (mergePatch .null (ofTexts upper)) = some upper := by
  have hempty :
      HoldsTexts [] (∅ : Dict String) := ⟨List.nodup_nil, fun _ => rfl⟩
  have hmerged := (hempty.merge upper).texts?
  rw [Dict.empty_overlay] at hmerged
  unfold ofTexts
  rw [mergePatch_object]
  exact hmerged

end DatabaseOperator.Json
