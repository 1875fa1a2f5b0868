import Mathlib.Data.Option.NAry
import DatabaseOperator.Cloud.Body
import DatabaseOperator.Manifest.AutonomousDatabase
import DatabaseOperator.Proofs.Json.Merge

/-!
# What is sent to the cloud service, read back

The service takes a body by putting its fields in the place of those that it
holds, and it answers with what it holds. So the fields of a request and the
fields that are read have to agree, each attribute under one name and in one
form: an attribute that is sent under a name that is not read would be missed
and sent again for ever.

- `Json.replaceFields`, `Json.lookup_replaceFields`: the fields of a document
  after those of a body.
- `Json.ReadBack`, `Json.optional?_of_said`: a field that says a value, or says
  nothing.
- `RemoteAttributes.ofFields?_of_said`: the attributes that are read where some
  are said anew.
- `RemoteAttributes.changesFrom_overlay`: what has been carried out differs no
  more.
- `Cloud.update_settles`: one update removes every difference and leaves the
  rest alone.
- `Cloud.created_reads_as_requested`: a new database that is echoed has the
  attributes that were asked for.
-/

namespace DatabaseOperator

namespace Json

variable {α : Type} {name : String} {encode : α → Json}
    {decode : Json → Option α} {fields base changes : List (String × Json)}

/-! ## Fields that are replaced -/

/-- The fields with those of `changes` put in their place. -/
def replaceFields (fields changes : List (String × Json)) :
    List (String × Json) :=
  changes.foldl (fun fs f => setField f.1 f.2 fs) fields

theorem replaceFields_cons (fields : List (String × Json)) (name : String)
    (value : Json) (rest : List (String × Json)) :
    replaceFields fields ((name, value) :: rest)
      = replaceFields (setField name value fields) rest :=
  rfl

/-- A field is the one that is put in its place, else the one that was there. -/
theorem lookup_replaceFields (once : NamedOnce changes) (name : String)
    (fields : List (String × Json)) :
    lookup name (replaceFields fields changes)
      = (lookup name changes <|> lookup name fields) := by
  induction changes generalizing fields with
  | nil => rfl
  | cons change rest ih =>
    obtain ⟨n, value⟩ := change
    obtain ⟨hfresh, honce⟩ := List.nodup_cons.mp once
    rw [replaceFields_cons, ih honce]
    by_cases hn : n = name
    · subst hn
      have hrest : lookup n rest = none := lookup_eq_none_iff.mpr hfresh
      rw [hrest, lookup_cons_self, lookup_setField_self]
      rfl
    · rw [lookup_cons_of_ne hn, lookup_setField_of_ne (Ne.symm hn)]

/-- What is said of a field; a missing one is as good as one that holds
`null`. -/
def saidOf (name : String) (fields : List (String × Json)) : Json :=
  (lookup name fields).getD .null

theorem optional?_eq (name : String) (decode : Json → Option α)
    (fields : List (String × Json)) :
    optional? name decode fields = nullable? decode (saidOf name fields) := by
  unfold optional? saidOf
  cases lookup name fields <;> rfl

/-! ## Values that are read back -/

/-- Values are never written as `null`, and they are read from what is
written. -/
structure ReadBack (encode : α → Json) (decode : Json → Option α) : Prop where
  present : ∀ a, encode a ≠ .null
  read : ∀ a, decode (encode a) = some a

theorem ReadBack.of_replaces (replaces : ∀ a, Replaces decode (encode a) a)
    (plain : ∀ a, (encode a).isObject = false) : ReadBack encode decode where
  present a := (replaces a).present
  read a := by
    have hread := (replaces a).read .null
    rwa [mergePatch_of_not_object _ (plain a)] at hread

theorem readBack_string : ReadBack .string string? :=
  .of_replaces replaces_string fun _ => rfl

theorem readBack_bool : ReadBack .bool bool? :=
  .of_replaces replaces_bool fun _ => rfl

theorem readBack_int32 : ReadBack (fun i : Int32 => .int i.toInt) int32? :=
  .of_replaces replaces_int32 fun _ => rfl

theorem readBack_strings : ReadBack ofStrings strings? :=
  .of_replaces replaces_strings fun _ => rfl

theorem readBack_texts : ReadBack ofTexts texts? where
  present _ := Json.noConfusion
  read d := (HoldsTexts.ofTexts d).texts?

namespace ReadBack

theorem isNull_ofOption_some (codec : ReadBack encode decode) (a : α) :
    (ofOption encode (some a)).isNull = false := by
  cases hnull : (encode a).isNull with
  | true => exact absurd (eq_null_of_isNull hnull) (codec.present a)
  | false => exact hnull

/-- Of two optional values the first that is set is written. -/
theorem ofOption_or (codec : ReadBack encode decode) (new old : Option α) :
    ofOption encode (new <|> old)
      = if (ofOption encode new).isNull then ofOption encode old
        else ofOption encode new := by
  cases new with
  | none => rfl
  | some a =>
    rw [codec.isNull_ofOption_some]
    rfl

/-- A field that is said anew where a value is set, and is as before where none
is. -/
theorem optional?_of_said (codec : ReadBack encode decode) {new old : Option α}
    (read : optional? name decode base = some old)
    (said : saidOf name fields = if (ofOption encode new).isNull
      then saidOf name base else ofOption encode new) :
    optional? name decode fields = some (new <|> old) := by
  rw [optional?_eq] at read ⊢
  cases new with
  | none =>
    have hsame : saidOf name fields = saidOf name base := said
    rw [hsame, read]
    rfl
  | some a =>
    rw [codec.isNull_ofOption_some] at said
    have hsaid : saidOf name fields = encode a := said
    rw [hsaid, nullable?_of_ne_null (codec.present a), codec.read]
    rfl

end ReadBack

end Json

open Json (ReadBack NamedOnce)

/-! ## Attributes -/

namespace RemoteAttributes

variable {storage : String} {a c d : RemoteAttributes}
    {fs base : List (String × Json)}

/-- Where the attributes of `a` that are set are said anew and the others are as
before, those of `a` are read over those that were there. -/
theorem ofFields?_of_said (read : ofFields? storage base = some c)
    (said : ∀ {name value}, (name, value) ∈ a.fields storage →
      Json.saidOf name fs = if value.isNull then Json.saidOf name base
        else value) : ofFields? storage fs = some (c.overlay a) := by
  obtain ⟨h₁, h₂, h₃, h₄, h₅, h₆, h₇, h₈, h₉, h₁₀, h₁₁, h₁₂, h₁₃, h₁₄⟩ :=
    ofFields?_eq_some_iff.mp read
  rw [ofFields?_eq_some_iff]
  refine ⟨Json.readBack_string.optional?_of_said h₁ (said ?_),
    Json.readBack_string.optional?_of_said h₂ (said ?_),
    Json.readBack_string.optional?_of_said h₃ (said ?_),
    Json.readBack_string.optional?_of_said h₄ (said ?_),
    Json.readBack_string.optional?_of_said h₅ (said ?_),
    Json.readBack_bool.optional?_of_said h₆ (said ?_),
    Json.readBack_int32.optional?_of_said h₇ (said ?_),
    Json.readBack_int32.optional?_of_said h₈ (said ?_),
    Json.readBack_bool.optional?_of_said h₉ (said ?_),
    Json.readBack_texts.optional?_of_said h₁₀ (said ?_),
    Json.readBack_string.optional?_of_said h₁₁ (said ?_),
    Json.readBack_strings.optional?_of_said h₁₂ (said ?_),
    Json.readBack_string.optional?_of_said h₁₃ (said ?_),
    Json.readBack_strings.optional?_of_said h₁₄ (said ?_)⟩
  all_goals simp only [fields, List.mem_cons, true_or, or_true]

theorem ofFields?_nil (storage : String) : ofFields? storage [] = some none :=
  rfl

theorem none_overlay (a : RemoteAttributes) : none.overlay a = a := by
  have hor : ∀ {α : Type} (x : Option α), (x <|> Option.none) = x := fun x => by
    cases x <;> rfl
  simp only [overlay, none, hor]

/-- Attributes that are all said are read. -/
theorem ofFields?_of_saidOf
    (said : ∀ {name value}, (name, value) ∈ a.fields storage →
      Json.saidOf name fs = value) : ofFields? storage fs = some a := by
  have hread : ofFields? storage fs = some (none.overlay a) := by
    refine ofFields?_of_said (ofFields?_nil storage) fun {_ value} h => ?_
    rw [said h]
    cases hnull : value.isNull with
    | true => exact Json.eq_null_of_isNull hnull
    | false => rfl
  rwa [none_overlay] at hread

/-! ### Differences that are carried out -/

theorem changed_or {α : Type} [DecidableEq α] (desired confirmed : Option α) :
    changed desired (desired <|> confirmed) = Option.none := by
  cases desired with
  | none => exact changed_none _
  | some a => exact changed_self _

theorem changed_or_confirmed {α : Type} [DecidableEq α]
    (desired confirmed : Option α) :
    (changed desired confirmed <|> confirmed) = (desired <|> confirmed) := by
  unfold changed
  split
  next hsame =>
    subst hsame
    cases confirmed <;> rfl
  next => rfl

/-- Once all that is declared is in place, nothing differs. -/
theorem changesFrom_overlay (d c : RemoteAttributes) :
    d.changesFrom (c.overlay d) = none := by
  simp only [changesFrom, overlay, changed_or, none]

/-- To carry out the differences is to put all that is declared in place. -/
theorem overlay_changesFrom (d c : RemoteAttributes) :
    c.overlay (d.changesFrom c) = c.overlay d := by
  simp only [overlay, changesFrom, changed_or_confirmed]

/-! ### Single fields -/

theorem lookup_zipWith_fields {name : String}
    {fields fields' : List (String × Json)} (pick : Json → Json → Json)
    (names : fields.map Prod.fst = fields'.map Prod.fst) :
    Json.lookup name
      (List.zipWith (fun f g => (f.1, pick f.2 g.2)) fields fields')
      = Option.map₂ pick (Json.lookup name fields)
        (Json.lookup name fields') := by
  induction fields generalizing fields' with
  | nil => rfl
  | cons field rest ih =>
    obtain ⟨n, v⟩ := field
    cases fields' with
    | nil => cases names
    | cons field' rest' =>
      obtain ⟨n', v'⟩ := field'
      obtain ⟨hname, hnames⟩ := List.cons.inj names
      obtain rfl : n = n' := hname
      rw [List.zipWith_cons_cons]
      by_cases hn : n = name
      · subst hn
        rw [Json.lookup_cons_self, Json.lookup_cons_self, Json.lookup_cons_self]
        rfl
      · rw [Json.lookup_cons_of_ne hn, Json.lookup_cons_of_ne hn,
          Json.lookup_cons_of_ne hn, ih hnames]

/-- Field by field, what is laid over counts where it is set. -/
theorem fields_overlay (c a : RemoteAttributes) (storage : String) :
    (c.overlay a).fields storage
      = List.zipWith
        (fun f g => (f.1, if g.2.isNull then f.2 else g.2)) (c.fields storage)
        (a.fields storage) := by
  simp only [fields, overlay, Json.readBack_string.ofOption_or,
    Json.readBack_bool.ofOption_or, Json.readBack_int32.ofOption_or,
    Json.readBack_strings.ofOption_or, Json.readBack_texts.ofOption_or]
  rfl

/-- A field stays as it is under attributes that leave it unset or say the
same. -/
theorem lookup_fields_overlay {name : String} {a c : RemoteAttributes}
    (silent : Json.lookup name (a.fields storage) = some .null
      ∨ Json.lookup name (a.fields storage)
        = Json.lookup name (c.fields storage)) :
    Json.lookup name ((c.overlay a).fields storage)
      = Json.lookup name (c.fields storage) := by
  have hnames :
      (c.fields storage).map Prod.fst = (a.fields storage).map Prod.fst := rfl
  rw [fields_overlay, lookup_zipWith_fields (fun v w => if w.isNull then v
    else w) hnames]
  rcases silent with hnull | hsame
  · rw [hnull]
    cases Json.lookup name (c.fields storage) <;> rfl
  · rw [hsame]
    cases Json.lookup name (c.fields storage) with
    | none => rfl
    | some v =>
      show some (if v.isNull then v else v) = some v
      rw [ite_self]

end RemoteAttributes

/-! ## Bodies -/

namespace Cloud

variable {request : ProvisionRequest} {changes : RemoteAttributes}
    {fields : List (String × Json)}

theorem namedOnce_fields (a : RemoteAttributes) :
    NamedOnce (a.fields storageField) := by
  have hnames :
      ((RemoteAttributes.none.fields storageField).map Prod.fst).Nodup := by
      decide
  exact hnames

/-- Only what can be changed is set. -/
def Updatable (changes : RemoteAttributes) : Prop :=
  ∀ f ∈ changes.fields storageField, f.2.isNull = false → f.1 ∈ updatableFields

/-- Changes that can all be made are all sent. -/
theorem updateBody_eq (updatable : Updatable changes) :
    updateBody changes
      = .object (Json.presentFields (changes.fields storageField)) := by
  unfold updateBody Json.ofPresent Json.presentFields
  rw [List.filter_filter]
  congr 1
  refine List.filter_congr fun f hf => ?_
  cases hnull : f.2.isNull with
  | true => rfl
  | false =>
    have hmem := updatable f hf hnull
    simpa using hmem

/-- What is compared with the remote can be changed there. -/
theorem updatable_changesFrom (d : AutonomousDatabase.Details)
    (c : RemoteAttributes) : Updatable (d.comparable.changesFrom c) := by
  intro f hf hset
  simp only [RemoteAttributes.fields, RemoteAttributes.changesFrom,
    AutonomousDatabase.Details.comparable, RemoteAttributes.changed_none,
    List.mem_cons, List.not_mem_nil, or_false] at hf
  rcases hf with rfl | rfl | rfl | rfl | rfl | rfl | rfl | rfl | rfl | rfl | rfl
    | rfl | rfl | rfl
  all_goals first | (cases hset) | simp [updatableFields]

/-- Nothing is sent exactly if there is nothing to change. -/
theorem updateBody_eq_empty_iff (updatable : Updatable changes) :
    updateBody changes = .object [] ↔ changes.isEmpty = true := by
  have hempty :
      Json.presentFields (RemoteAttributes.none.fields storageField) = [] := rfl
  rw [updateBody_eq updatable, RemoteAttributes.isEmpty, beq_iff_eq]
  constructor
  · intro h
    refine RemoteAttributes.fields_injective storageField ?_
    refine Json.presentFields_inj rfl (namedOnce_fields changes) ?_
    rw [hempty]
    exact Json.object.inj h
  · rintro rfl
    exact congrArg Json.object hempty

/-! ## Databases -/

theorem databaseOfJson?_eq_some_iff {id : String} {state : LifecycleState}
    {a : RemoteAttributes} :
    databaseOfJson? (.object fields) = some ⟨id, state, a⟩ ↔
      Json.required? "id" Json.string? fields = some id
      ∧ (Json.defaulted? "lifecycleState" Json.string? "" fields).map
        LifecycleState.ofText = some state
      ∧ RemoteAttributes.ofFields? storageField fields = some a := by
  constructor
  · intro h
    obtain ⟨_, hid, h⟩ := Option.bind_eq_some_iff.mp h
    obtain ⟨_, hstate, h⟩ := Option.bind_eq_some_iff.mp h
    obtain ⟨_, hread, h⟩ := Option.bind_eq_some_iff.mp h
    cases h
    exact ⟨hid, congrArg (Option.map LifecycleState.ofText) hstate, hread⟩
  · rintro ⟨hid, hstate, hread⟩
    obtain ⟨report, hreport, rfl⟩ := Option.map_eq_some_iff.mp hstate
    simp only [databaseOfJson?, Json.record?, hid, hreport, hread,
      Option.bind_eq_bind, Option.bind_some]

/-- A database of which everything is said is read. -/
theorem databaseOfJson?_of_saidOf {id state : String} {a : RemoteAttributes}
    (hid : Json.lookup "id" fields = some (.string id))
    (hstate : Json.lookup "lifecycleState" fields = some (.string state))
    (said : ∀ {name value}, (name, value) ∈ a.fields storageField →
      Json.saidOf name fields = value) :
    databaseOfJson? (.object fields) = some ⟨id, .ofText state, a⟩ := by
  refine databaseOfJson?_eq_some_iff.mpr
    ⟨?_, ?_, RemoteAttributes.ofFields?_of_saidOf said⟩
  · simp only [Json.required?, hid, Json.string?_string]
  · simp only [Json.defaulted?, hstate, Json.string?_string, Option.map_some]

/-- The attributes of a database are written under other names than its
identifier and its state. -/
theorem lookup_identity_and_state {a : RemoteAttributes} {name : String}
    {value : Json} (h : (name, value) ∈ a.fields storageField)
    (id state : Json) :
    Json.lookup name [("id", id), ("lifecycleState", state)] = none := by
  have hnames : ∀ n ∈ (RemoteAttributes.none.fields storageField).map Prod.fst,
      n ∉ ["id", "lifecycleState"] := by
    decide
  have hname : name ∈ (a.fields storageField).map Prod.fst :=
    List.mem_map.mpr ⟨_, h, rfl⟩
  exact Json.lookup_eq_none_iff.mpr (hnames name hname)

/-- A database in full, with `null` for each attribute that is not set. -/
def fullFields (id state : String) (a : RemoteAttributes) :
    List (String × Json) :=
  [("id", .string id), ("lifecycleState", .string state)]
    ++ a.fields storageField

/-- A database that is written in full is read as it is. -/
theorem databaseOfJson?_fullFields (id state : String) (a : RemoteAttributes) :
    databaseOfJson? (.object (fullFields id state a))
      = some ⟨id, .ofText state, a⟩ := by
  have hid : Json.lookup "id" (fullFields id state a) = some (.string id) :=
    Json.lookup_cons_self ..
  have hstate : Json.lookup "lifecycleState" (fullFields id state a)
      = some (.string state) :=
    (Json.lookup_cons_of_ne (by decide) ..).trans (Json.lookup_cons_self ..)
  refine databaseOfJson?_of_saidOf hid hstate fun {name value} h => ?_
  unfold Json.saidOf fullFields
  rw [Json.lookup_append, lookup_identity_and_state h,
    Json.lookup_of_mem (namedOnce_fields a) h]
  rfl

/-! ## Updates -/

/-- A database that takes an update has the changes laid over its attributes. -/
theorem databaseOfJson?_updated {seen : Snapshot}
    (updatable : Updatable changes)
    (read : databaseOfJson? (.object fields) = some seen) :
    databaseOfJson?
      (.object (Json.replaceFields fields (updateBody changes).fieldList))
      = some { seen with attributes := seen.attributes.overlay changes } := by
  obtain ⟨id, state, confirmed⟩ := seen
  have honce : NamedOnce (Json.presentFields (changes.fields storageField)) :=
    Json.namedOnce_presentFields (namedOnce_fields changes)
  obtain ⟨hid, hstate, hread⟩ := databaseOfJson?_eq_some_iff.mp read
  rw [updateBody_eq updatable, Json.fieldList, databaseOfJson?_eq_some_iff]
  have hkept : ∀ name ∈ ["id", "lifecycleState"],
      Json.lookup name
        (Json.replaceFields fields
          (Json.presentFields (changes.fields storageField)))
        = Json.lookup name fields := by
    intro name hname
    have hnames : ∀ n ∈ ["id", "lifecycleState"],
    n ∉ (changes.fields storageField).map Prod.fst := by
      show ∀ n ∈ ["id", "lifecycleState"],
      n ∉ (RemoteAttributes.none.fields storageField).map Prod.fst
      decide
    have hsilent : Json.lookup name
        (Json.presentFields (changes.fields storageField)) = none :=
      Json.lookup_eq_none_iff.mpr fun h =>
        hnames name hname (Json.mem_names_of_presentFields h)
    rw [Json.lookup_replaceFields honce, hsilent]
    rfl
  refine ⟨?_, ?_, RemoteAttributes.ofFields?_of_said hread fun {name value} h =>
    ?_⟩
  · unfold Json.required?
    rw [hkept "id" (by decide)]
    exact hid
  · unfold Json.defaulted?
    rw [hkept "lifecycleState" (by decide)]
    exact hstate
  · unfold Json.saidOf
    rw [Json.lookup_replaceFields honce,
      Json.lookup_presentFields (namedOnce_fields changes) h]
    cases value.isNull <;> rfl

/-- One update that is taken removes every difference from what is declared:
where the attributes `c` are confirmed, the fields of the body put in the place
of those of the database give attributes from which nothing that is declared
differs. What is not declared, and what is confirmed already, stays as it is,
and the body is empty only if nothing differs. -/
theorem update_settles (d : AutonomousDatabase.Details) (c : RemoteAttributes)
    {seen : Snapshot} (read : databaseOfJson? (.object fields) = some seen)
    (confirmed : seen.attributes = c) :
    (updateBody (d.comparable.changesFrom c) = .object []
      ↔ (d.comparable.changesFrom c).isEmpty = true)
    ∧ ∃ c',
      databaseOfJson?
          (.object
            (Json.replaceFields fields
              (updateBody (d.comparable.changesFrom c)).fieldList))
        = some { seen with attributes := c' }
      ∧ (d.comparable.changesFrom c').isEmpty = true
      ∧ ∀ name,
        Json.lookup name (d.comparable.fields storageField) = some .null
            ∨ Json.lookup name (d.comparable.fields storageField)
              = Json.lookup name (c.fields storageField) →
          Json.lookup name (c'.fields storageField)
            = Json.lookup name (c.fields storageField) := by
  subst confirmed
  have hupdatable := updatable_changesFrom d seen.attributes
  refine ⟨updateBody_eq_empty_iff hupdatable,
    seen.attributes.overlay d.comparable, ?_, ?_, fun name silent => ?_⟩
  · rw [databaseOfJson?_updated hupdatable read,
      RemoteAttributes.overlay_changesFrom]
  · rw [RemoteAttributes.changesFrom_overlay]
    decide
  · exact RemoteAttributes.lookup_fields_overlay silent

/-- Details that declare no tags and an empty access list. -/
def emptyingDetails : AutonomousDatabase.Details where
  cpuCoreCount := some 4
  freeformTags := some ∅
  whitelistedIps := some []

/-- A database that has a tag and an entry in its access list. -/
def taggedAttributes : RemoteAttributes where
  displayName := some "orders"
  cpuCoreCount := some 2
  freeformTags := some (Dict.ofList [("team", "sales")])
  whitelistedIps := some ["10.0.0.0/8"]

/-- The fields of that database. -/
def taggedFields : List (String × Json) :=
  fullFields "ocid1.db.1" "AVAILABLE" taggedAttributes

/-- The body of the update that empties them. -/
def emptyingBody : Json :=
  updateBody (emptyingDetails.comparable.changesFrom taggedAttributes)

/-- Tags and an access list that are declared empty are sent as such, and then
differ no more. -/
theorem update_settles_emptied_tags :
    emptyingBody
      = .object [("cpuCoreCount", .int 4), ("freeformTags", .object []),
        ("whitelistedIps", .array [])]
      ∧ databaseOfJson? (.object taggedFields)
        = some ⟨"ocid1.db.1", .available, taggedAttributes⟩
      ∧ ∃ c', databaseOfJson?
        (.object (Json.replaceFields taggedFields emptyingBody.fieldList))
          = some ⟨"ocid1.db.1", .available, c'⟩
        ∧ (emptyingDetails.comparable.changesFrom c').isEmpty = true := by
  have hstate :
      LifecycleState.ofText "AVAILABLE" = .available := by decide +kernel
  have hread : databaseOfJson? (.object taggedFields)
      = some ⟨"ocid1.db.1", .available, taggedAttributes⟩ :=
    hstate ▸ databaseOfJson?_fullFields "ocid1.db.1" "AVAILABLE"
      taggedAttributes
  obtain ⟨-, c', hupdated, hsettled, -⟩ :=
    update_settles emptyingDetails taggedAttributes hread rfl
  exact ⟨by decide +kernel, hread, c', hupdated, hsettled⟩

/-! ## New databases -/

theorem createBody_fieldList (request : ProvisionRequest)
    (source : Option String) :
    (createBody request source).fieldList
      = Json.presentFields
          (request.attributes.fields storageField
            ++ ("adminPassword", .ofOption .string request.adminPassword)
              :: originFields source) :=
  rfl

theorem namedOnce_created (request : ProvisionRequest)
    (source : Option String) :
    NamedOnce (request.attributes.fields storageField
      ++ ("adminPassword", .ofOption .string request.adminPassword)
        :: originFields source) := by
  have hclone : ((RemoteAttributes.none.fields storageField).map Prod.fst
      ++ ["adminPassword", "source", "sourceId", "cloneType"]).Nodup := by
        decide
  have hnew : ((RemoteAttributes.none.fields storageField).map Prod.fst
      ++ ["adminPassword", "source"]).Nodup := by
    decide
  cases source with
  | some id => exact hclone
  | none => exact hnew

/-- A database that has been made, as it is echoed: what was sent, with its
identifier and its state. -/
def echoFields (request : ProvisionRequest) (source : Option String)
    (id state : String) : List (String × Json) :=
  Json.replaceFields (createBody request source).fieldList
    [("id", .string id), ("lifecycleState", .string state)]

/-- A new database that is echoed is read with the attributes that were asked
for, whatever else was sent. -/
theorem databaseOfJson?_echoFields (request : ProvisionRequest)
    (source : Option String) (id state : String) :
    databaseOfJson? (.object (echoFields request source id state))
      = some ⟨id, .ofText state, request.attributes⟩ := by
  have hadded :
      NamedOnce [("id", Json.string id), ("lifecycleState", .string state)] :=
    (by decide : ["id", "lifecycleState"].Nodup)
  have hlookup :=
    fun name => Json.lookup_replaceFields hadded name
      (createBody request source).fieldList
  have hid : Json.lookup "id" (echoFields request source id state)
      = some (.string id) := by
    unfold echoFields
    rw [hlookup "id", Json.lookup_cons_self]
    rfl
  have hstate : Json.lookup "lifecycleState"
      (echoFields request source id state) = some (.string state) := by
    unfold echoFields
    rw [hlookup "lifecycleState", Json.lookup_cons_of_ne (by decide),
      Json.lookup_cons_self]
    rfl
  refine databaseOfJson?_of_saidOf hid hstate fun {name value} h => ?_
  have hsent := Json.lookup_presentFields (namedOnce_created request source)
    (List.mem_append_left _ h)
  unfold Json.saidOf echoFields
  rw [hlookup name, lookup_identity_and_state h, createBody_fieldList, hsent]
  cases hnull : value.isNull with
  | true => exact (Json.eq_null_of_isNull hnull).symm
  | false => rfl

/-- What a new database gets is all that is compared later. -/
theorem changesFrom_provisioning (d : AutonomousDatabase.Details) :
    d.comparable.changesFrom d.provisioning = RemoteAttributes.none := by
  simp only [RemoteAttributes.changesFrom,
    AutonomousDatabase.Details.comparable,
    AutonomousDatabase.Details.provisioning, RemoteAttributes.changed_self,
    RemoteAttributes.changed_none, RemoteAttributes.none]

/-- A new database that is echoed has the attributes that were asked for, from
wherever it was made. So one that was made with the attributes of a resource
differs in nothing from what the resource declares. -/
theorem created_reads_as_requested (request : ProvisionRequest)
    (source : Option String) (id state : String) :
    databaseOfJson? (.object (echoFields request source id state))
      = some ⟨id, .ofText state, request.attributes⟩
    ∧ ∀ d : AutonomousDatabase.Details, ∃ seen,
      databaseOfJson?
          (.object
            (echoFields { request with attributes := d.provisioning } source id
              state))
        = some seen
      ∧ (d.comparable.changesFrom seen.attributes).isEmpty = true := by
  refine ⟨databaseOfJson?_echoFields request source id state, fun d => ?_⟩
  refine ⟨_,
    databaseOfJson?_echoFields { request with attributes := d.provisioning }
      source id state, ?_⟩
  rw [changesFrom_provisioning]
  decide

end Cloud

end DatabaseOperator
