import DatabaseOperator.Proofs.Json.Conveyance

/-!
# The status after it has been patched

A status is stored by a merge patch that is filled up with `null` for every
field that is not set, in the status and in the snapshot inside it. One thing is
not filled up: the tags of the snapshot. Their names are not known beforehand,
so a tag that has been taken away stays in the document.

- `LifecycleState.replaces`: the state that a report names is read back from its
  written form.
- `RemoteAttributes.ofJson?_mergePatch`: attributes after a patch, with the tags
  laid over those that were there.
- `Status.withTagsBelow`: a status whose tags are laid over others.
- `patched_status_eq_iff`: the status that is read after a patch, and when it is
  the one that was written.
-/

namespace DatabaseOperator

open Json (Replaces NamedOnce merged)

/-! ## Single values -/

namespace LifecycleState

/-- A known state is not one that is kept as its text. -/
theorem known?_ne_unrecognised (name text : String) :
    known? name ≠ some (unrecognised text) := by
  have halternative : ∀ (c : Prop) [Decidable c] (state : LifecycleState)
      (rest : Option LifecycleState), state.isUnrecognised = false →
        rest ≠ some (unrecognised text) →
          (if c then some state else rest) ≠ some (unrecognised text) := by
    intro c _ state rest hstate hrest
    split
    next =>
      rintro ⟨⟩
      cases hstate
    next => exact hrest
  unfold known?
  iterate 16 refine halternative _ _ _ rfl ?_
  exact nofun

/-- The written form of the state that a report names, names that state. -/
theorem ofText_text (report : String) :
    ofText (ofText report).text = ofText report := by
  have hknown : ∀ state : LifecycleState, state.isUnrecognised = false →
      ofText state.text = state := by
    intro state h
    cases state with
    | unrecognised text => cases h
    | _ => decide +kernel
  cases h : known? (normalise report) with
  | some state =>
    have hstate : ofText report = state := by
      unfold ofText
      rw [h]
      rfl
    rw [hstate]
    refine hknown state ?_
    cases state with
    | unrecognised text => exact absurd h (known?_ne_unrecognised _ text)
    | _ => rfl
  | none =>
    have hstate : ofText report = unrecognised report := by
      unfold ofText
      rw [h]
      rfl
    rw [hstate]
    exact hstate

theorem replaces_ofText (report : String) :
    Replaces ofJson? (ofText report).toJson (ofText report) :=
  .of_not_object Json.noConfusion rfl (congrArg some (ofText_text report))

end LifecycleState

theorem Phase.replaces (phase : Phase) :
    Replaces Phase.ofJson? (.string phase.text) phase := by
  refine .of_not_object Json.noConfusion rfl ?_
  cases phase <;> decide

theorem PendingAction.replaces (pending : PendingAction) :
    Replaces PendingAction.ofJson? pending.toJson pending where
  present := Json.noConfusion
  read old := by
    have once : NamedOnce [("signature", .string pending.signature),
        ("since", .string pending.since)] :=
      (by decide : ["signature", "since"].Nodup)
    unfold toJson
    rw [Json.mergePatch_object]
    have hsignature :=
      Json.required?_of_merged (Json.replaces_string pending.signature)
        (Json.lookup_mergeFields once "signature" old.fieldList)
    have hsince := Json.required?_of_merged (Json.replaces_string pending.since)
      (Json.lookup_mergeFields once "since" old.fieldList)
    unfold ofJson?
    simp only [Json.record?, hsignature, hsince, Option.bind_eq_bind,
      Option.bind_some]

/-! ## Attributes -/

namespace RemoteAttributes

/-- Attributes whose tags are laid over others. -/
def withTagsBelow (a : RemoteAttributes) (lower : Dict String) :
    RemoteAttributes :=
  { a with freeformTags := a.freeformTags.map lower.overlay }

/-- Laid over others, the tags hide these exactly if they have all of their
keys. -/
theorem withTagsBelow_eq_iff (a : RemoteAttributes) (lower : Dict String) :
    a.withTagsBelow lower = a
      ↔ ∀ upper, a.freeformTags = some upper → ∀ key,
        lower.contains key = true → upper.contains key = true := by
  have htags : a.withTagsBelow lower = a
      ↔ a.freeformTags.map lower.overlay = a.freeformTags := by
    constructor
    · exact fun h => congrArg RemoteAttributes.freeformTags h
    · intro h
      unfold withTagsBelow
      rw [h]
  rw [htags]
  cases a.freeformTags with
  | none => simp
  | some upper =>
    rw [Option.map_some, Option.some.injEq, Dict.overlay_eq_iff]
    constructor
    · rintro h _ ⟨⟩
      exact h
    · intro h
      exact h upper rfl

/-- The attributes with `null` for each that is not set. -/
def filled (a : RemoteAttributes) : Json :=
  a.toJson.withNulls fieldNames

theorem filled_eq (a : RemoteAttributes) :
    a.filled
      = .object
        (fillNulls fieldNames
          (Json.presentFields (a.fields "dataStorageSizeInTbs"))) :=
  rfl

theorem filled_ne_null (a : RemoteAttributes) : a.filled ≠ .null := by
  rw [filled_eq]
  exact Json.noConfusion

theorem namedOnce_fields (a : RemoteAttributes) :
    NamedOnce (a.fields "dataStorageSizeInTbs") :=
  (by decide : fieldNames.Nodup)

/-- Every attribute is said anew, set or not. -/
theorem lookup_patched {a : RemoteAttributes} {name : String} {value : Json}
    (h : (name, value) ∈ a.fields "dataStorageSizeInTbs") (old : Json) :
    Json.lookup name (Json.mergePatch old a.filled).fieldList
      = merged (Json.lookup name old.fieldList) (some value) := by
  have hnames :
      (a.fields "dataStorageSizeInTbs").map Prod.fst = fieldNames := rfl
  have hname : name ∈ fieldNames := hnames ▸ List.mem_map.mpr ⟨_, h, rfl⟩
  have honce : NamedOnce
      (fillNulls fieldNames
        (Json.presentFields (a.fields "dataStorageSizeInTbs"))) :=
    Json.namedOnce_fillNulls (Json.namedOnce_presentFields a.namedOnce_fields)
  rw [filled_eq, Json.mergePatch_object, Json.fieldList,
    Json.lookup_mergeFields honce,
    Json.lookup_of_filled a.namedOnce_fields h fun _ => hname]

/-- The attributes that are read after a patch are those of the patch, but for
the tags, which are laid over those that were there. -/
theorem ofJson?_mergePatch {old : Json} {a : RemoteAttributes}
    {lower : Dict String}
    (tags : ∀ upper, a.freeformTags = some upper →
      Json.texts?
        (Json.mergePatch ((Json.lookup "freeformTags" old.fieldList).getD .null)
          (.ofTexts upper)) = some (lower.overlay upper)) :
    ofJson? (Json.mergePatch old a.filled) = some (a.withTagsBelow lower) := by
  generalize hpatched : (Json.mergePatch old a.filled).fieldList = fs
  have hobject :
      Json.record? fieldNames (Json.mergePatch old a.filled) = some fs := by
    rw [← hpatched, filled_eq, Json.mergePatch_object, Json.fieldList,
      Json.record?]
  -- every field is in the patch, a null where nothing is said
  have hsaid : ∀ {name value}, (name, value) ∈ a.fields "dataStorageSizeInTbs" →
      Json.lookup name fs
        = merged (Json.lookup name old.fieldList) (some value) :=
    fun h => hpatched ▸ lookup_patched h old
  -- so each is replaced, whichever its kind
  have hstring : ∀ {name : String} {x : Option String},
      (name, Json.ofOption .string x) ∈ a.fields "dataStorageSizeInTbs" →
      Json.optional? name Json.string? fs = some x :=
    fun h => Json.optional?_of_merged Json.replaces_string (hsaid h)
  have hbool : ∀ {name : String} {x : Option Bool},
      (name, Json.ofOption .bool x) ∈ a.fields "dataStorageSizeInTbs" →
      Json.optional? name Json.bool? fs = some x :=
    fun h => Json.optional?_of_merged Json.replaces_bool (hsaid h)
  have hint : ∀ {name : String} {x : Option Int32},
      (name, Json.ofOption (fun i => .int i.toInt) x)
        ∈ a.fields "dataStorageSizeInTbs" →
      Json.optional? name Json.int32? fs = some x :=
    fun h => Json.optional?_of_merged Json.replaces_int32 (hsaid h)
  have hstrings : ∀ {name : String} {x : Option (List String)},
      (name, Json.ofOption .ofStrings x) ∈ a.fields "dataStorageSizeInTbs" →
      Json.optional? name Json.strings? fs = some x :=
    fun h => Json.optional?_of_merged Json.replaces_strings (hsaid h)
  -- but an object of tags is merged
  have htags : Json.optional? "freeformTags" Json.texts? fs
      = some (a.freeformTags.map lower.overlay) :=
    Json.optional?_map_of_merged lower.overlay (by simp [Json.ofTexts]) tags
      (hsaid (by simp [fields]))
  have hfields :
      ofFields? "dataStorageSizeInTbs" fs = some (a.withTagsBelow lower) := by
    rw [ofFields?_eq_some_iff]
    refine ⟨hstring ?_, hstring ?_, hstring ?_, hstring ?_, hstring ?_,
      hbool ?_, hint ?_, hint ?_, hbool ?_, htags, hstring ?_, hstrings ?_,
      hstring ?_, hstrings ?_⟩
    all_goals simp only [withTagsBelow, fields, List.mem_cons, true_or, or_true]
  unfold ofJson?
  rw [hobject]
  exact hfields

end RemoteAttributes

/-! ## Conditions -/

/-- A condition is read back from its form. -/
theorem Condition.conveys (c : Condition) :
    Json.Conveys ofJson? c.toJson c := by
  refine Json.Conveys.record (by decide : fieldNames.Nodup)
    fun arrangement fs restated => ?_
  have htype := restated.required "type" (Json.conveys_string c.type) (by simp)
  have hstatus :=
    restated.required "status" (Json.conveys_string c.status) (by simp)
  have hreason :=
    restated.required "reason" (Json.conveys_string c.reason) (by simp)
  have hmessage :=
    restated.required "message" (Json.conveys_string c.message) (by simp)
  have htime :=
    restated.required "lastTransitionTime"
      (Json.conveys_string c.lastTransitionTime) (by simp)
  have hgeneration :=
    restated.optional "observedGeneration" Json.conveys_int64
      c.observedGeneration (by simp)
  simp only [htype, hstatus, hreason, hmessage, htime, hgeneration,
    Option.bind_eq_bind, Option.bind_some]

/-! ## The whole status -/

namespace Status

/-- The fields of a status; one that is not set holds `null`. -/
def fields (s : Status) : List (String × Json) :=
  [("phase", .string s.phase.text),
    ("identity", .ofOption .string s.identity),
    ("lifecycleState", .ofOption LifecycleState.toJson s.lifecycleState),
    ("snapshot", .ofOption RemoteAttributes.toJson s.snapshot),
    ("inFlight", .ofOption PendingAction.toJson s.inFlight),
    ("waiting", .ofOption PendingAction.toJson s.waiting),
    ("lastCompletedAction", .ofOption .string s.lastCompletedAction),
    ("failedAction", .ofOption .string s.failedAction),
    ("consecutiveFailures", .nat s.consecutiveFailures.toNat),
    ("consistencyRetries", .nat s.consistencyRetries.toNat),
    ("walletSecret", .ofOption .string s.walletSecret),
    ("observedGeneration",
      .ofOption (fun g => .int g.toInt) s.observedGeneration),
    ("conditions", conditionsJson s.conditions)]

theorem namedOnce_fields (s : Status) : NamedOnce s.fields :=
  (by decide : fieldNames.Nodup)

/-- The fields of a snapshot are filled up, those of other values are not. -/
def filledField (name : String) (value : Json) : Json :=
  if name = "snapshot" then value.withNulls RemoteAttributes.fieldNames
  else value

theorem filledField_snapshot (snapshot : Option RemoteAttributes) :
    filledField "snapshot" (.ofOption RemoteAttributes.toJson snapshot)
      = .ofOption RemoteAttributes.filled snapshot := by
  unfold filledField
  rw [if_pos rfl]
  cases snapshot with
  | none => simp only [Json.ofOption, Json.withNulls]
  | some a => simp only [Json.ofOption, RemoteAttributes.filled]

theorem statusFields_eq (s : Status) :
    statusFields s
      = (fillNulls clearableFields (Json.presentFields s.fields)).map fun f =>
        (f.1, filledField f.1 f.2) :=
  rfl

/-- The fields that are always set need not be cleared. -/
theorem clearable_of_isNull {s : Status} {name : String} {value : Json}
    (h : (name, value) ∈ s.fields) (hnull : value.isNull = true) :
    name ∈ clearableFields := by
  simp only [fields, List.mem_cons, Prod.mk.injEq, List.not_mem_nil, or_false]
    at h
  rcases h with ⟨rfl, rfl⟩ | ⟨rfl, -⟩ | ⟨rfl, -⟩ | ⟨rfl, -⟩ | ⟨rfl, -⟩
    | ⟨rfl, -⟩ | ⟨rfl, -⟩ | ⟨rfl, -⟩ | ⟨rfl, rfl⟩
    | ⟨rfl, rfl⟩ | ⟨rfl, -⟩ | ⟨rfl, -⟩ | ⟨rfl, -⟩
  all_goals first | cases hnull | decide

/-- Every field is said anew, set or not. -/
theorem lookup_patched {s : Status} {name : String} {value : Json}
    (h : (name, value) ∈ s.fields) (old : Json) :
    Json.lookup name (Json.mergeFields old.fieldList (statusFields s))
      = merged (Json.lookup name old.fieldList)
        (some (filledField name value)) := by
  have honce :
      NamedOnce (fillNulls clearableFields (Json.presentFields s.fields)) :=
    Json.namedOnce_fillNulls (Json.namedOnce_presentFields s.namedOnce_fields)
  rw [statusFields_eq,
    Json.lookup_mergeFields (Json.namedOnce_map_values filledField honce),
    Json.lookup_map_values filledField,
    Json.lookup_of_filled s.namedOnce_fields h (clearable_of_isNull h),
    Option.map_some]

theorem defaulted?_conditions {conditions : List Condition}
    {fs : List (String × Json)} {old : Option Json}
    (h : Json.lookup "conditions" fs
      = merged old (some (conditionsJson conditions))) :
    Json.defaulted? "conditions" (Json.list? Condition.ofJson?) [] fs
      = some conditions := by
  cases conditions with
  | nil =>
    unfold Json.defaulted?
    rw [h]
    rfl
  | cons c rest =>
    have hreplaces : Replaces (Json.list? Condition.ofJson?)
        (conditionsJson (c :: rest)) (c :: rest) :=
      .of_not_object Json.noConfusion rfl
        ((Json.Conveys.list Condition.conveys (c :: rest)).read .written)
    exact Json.defaulted?_of_merged hreplaces h

/-- The state is one that a report can name. -/
def Reported (s : Status) : Prop :=
  ∀ state, s.lifecycleState = some state → ∃ report, state = .ofText report

/-- A status whose tags are laid over others. -/
def withTagsBelow (s : Status) (lower : Dict String) : Status :=
  { s with snapshot := s.snapshot.map fun a => a.withTagsBelow lower }

theorem optional?_lifecycleState {s : Status} {fs : List (String × Json)}
    {old : Option Json} (reported : s.Reported)
    (h : Json.lookup "lifecycleState" fs
      = merged old (some (.ofOption LifecycleState.toJson s.lifecycleState))) :
    Json.optional? "lifecycleState" LifecycleState.ofJson? fs
      = some s.lifecycleState := by
  have hread : ∀ state, s.lifecycleState = some state →
      LifecycleState.ofJson? (Json.mergePatch (old.getD .null) state.toJson)
        = some (id state) := by
    intro state hstate
    obtain ⟨report, rfl⟩ := reported state hstate
    exact (LifecycleState.replaces_ofText report).read _
  have hmapped :=
    Json.optional?_map_of_merged id (fun _ => Json.noConfusion) hread h
  rwa [Option.map_id] at hmapped

theorem optional?_snapshot {snapshot : Option RemoteAttributes}
    {lower : Dict String} {fs : List (String × Json)} {old : Option Json}
    (tags : ∀ upper, Json.texts?
      (Json.mergePatch
        ((Json.lookup "freeformTags" (old.getD .null).fieldList).getD .null)
          (.ofTexts upper)) = some (lower.overlay upper))
    (h : Json.lookup "snapshot" fs
      = merged old
        (some
          (filledField "snapshot"
            (.ofOption RemoteAttributes.toJson snapshot)))) :
    Json.optional? "snapshot" RemoteAttributes.ofJson? fs
      = some (snapshot.map fun a => a.withTagsBelow lower) := by
  have hread : ∀ a, snapshot = some a →
      RemoteAttributes.ofJson? (Json.mergePatch (old.getD .null) a.filled)
        = some (a.withTagsBelow lower) :=
    fun a _ => RemoteAttributes.ofJson?_mergePatch fun upper _ => tags upper
  rw [filledField_snapshot] at h
  exact Json.optional?_map_of_merged _ RemoteAttributes.filled_ne_null hread h

/-- The status that is read after a patch is that of the patch, but for the
tags, which are laid over those that were there. -/
theorem ofJson?_mergeFields {old : Json} {s : Status} {lower : Dict String}
    (reported : s.Reported)
    (tags : ∀ upper, Json.texts?
      (Json.mergePatch
        ((Json.lookup "freeformTags"
          ((Json.lookup "snapshot" old.fieldList).getD .null).fieldList).getD
            .null) (.ofTexts upper)) = some (lower.overlay upper)) :
    ofJson? (.object (Json.mergeFields old.fieldList (statusFields s)))
      = some (s.withTagsBelow lower) := by
  generalize hpatched : Json.mergeFields old.fieldList (statusFields s) = fs
  have hsaid : ∀ name value, (name, value) ∈ s.fields →
      Json.lookup name fs
        = merged (Json.lookup name old.fieldList)
          (some (filledField name value)) :=
    fun _ _ h => hpatched ▸ lookup_patched h old
  -- all fields but the snapshot are replaced
  have hplain : ∀ name value, (name, value) ∈ s.fields → name ≠ "snapshot" →
      Json.lookup name fs
        = merged (Json.lookup name old.fieldList) (some value) := by
    intro name value h hne
    rw [hsaid name value h, filledField, if_neg hne]
  -- the kinds of which there are several fields
  have htext : ∀ name x, (name, Json.ofOption .string x) ∈ s.fields →
      name ≠ "snapshot" → Json.optional? name Json.string? fs = some x :=
    fun name _ h hne => Json.optional?_of_merged Json.replaces_string
      (hplain name _ h hne)
  have hpending : ∀ name x, (name, Json.ofOption PendingAction.toJson x)
      ∈ s.fields → name ≠ "snapshot" →
        Json.optional? name PendingAction.ofJson? fs = some x :=
    fun name _ h hne => Json.optional?_of_merged PendingAction.replaces
      (hplain name _ h hne)
  have hcount : ∀ name (x : UInt32), (name, Json.nat x.toNat) ∈ s.fields →
      name ≠ "snapshot" → Json.defaulted? name Json.uint32? 0 fs = some x :=
    fun name x h hne => Json.defaulted?_of_merged (Json.replaces_uint32 x)
      (hplain name _ h hne)
  -- the kinds of which there is one
  have hphase :
      Json.defaulted? "phase" Phase.ofJson? .pending fs = some s.phase :=
    Json.defaulted?_of_merged s.phase.replaces
      (hsaid "phase" (.string s.phase.text) (by simp [fields]))
  have hstate : Json.optional? "lifecycleState" LifecycleState.ofJson? fs
      = some s.lifecycleState :=
    optional?_lifecycleState reported
      (hsaid "lifecycleState" (.ofOption LifecycleState.toJson s.lifecycleState)
        (by simp [fields]))
  have hsnapshot : Json.optional? "snapshot" RemoteAttributes.ofJson? fs
      = some (s.snapshot.map fun a => a.withTagsBelow lower) :=
    optional?_snapshot tags
      (hsaid "snapshot" (.ofOption RemoteAttributes.toJson s.snapshot)
        (by simp [fields]))
  have hgeneration : Json.optional? "observedGeneration" Json.int64? fs
      = some s.observedGeneration :=
    Json.optional?_of_merged Json.replaces_int64
      (hsaid "observedGeneration"
        (.ofOption (fun g => .int g.toInt) s.observedGeneration)
          (by simp [fields]))
  have hconditions : Json.defaulted? "conditions" (Json.list? Condition.ofJson?)
      [] fs = some s.conditions :=
    defaulted?_conditions
      (hsaid "conditions" (conditionsJson s.conditions) (by simp [fields]))
  -- the fields of the several kinds, in the order in which they are read
  have hidentity := htext "identity" s.identity (by simp [fields]) (by decide)
  have hinFlight :=
    hpending "inFlight" s.inFlight (by simp [fields]) (by decide)
  have hwaiting := hpending "waiting" s.waiting (by simp [fields]) (by decide)
  have hcompleted :=
    htext "lastCompletedAction" s.lastCompletedAction (by simp [fields])
      (by decide)
  have hfailed := htext "failedAction" s.failedAction (by simp [fields])
    (by decide)
  have hfailures := hcount "consecutiveFailures" s.consecutiveFailures
    (by simp [fields]) (by decide)
  have hretries :=
    hcount "consistencyRetries" s.consistencyRetries (by simp [fields])
      (by decide)
  have hwallet := htext "walletSecret" s.walletSecret (by simp [fields])
    (by decide)
  have hobject : Json.record? fieldNames (.object fs) = some fs := rfl
  unfold ofJson?
  rw [hobject, Option.bind_eq_bind, Option.bind_some, hphase, hidentity, hstate,
    hsnapshot, hinFlight, hwaiting, hcompleted, hfailed, hfailures, hretries,
    hwallet, hgeneration, hconditions]
  rfl

/-! ## The tags that were there -/

/-- The tags of the snapshot; none if there is no snapshot, or it has none. -/
def tags (s : Status) : Dict String :=
  (s.snapshot.bind RemoteAttributes.freeformTags).getD ∅

/-- An optional value stands in a document if it is set. -/
theorem lookup_snapshot_toJson (s : Status) :
    Json.lookup "snapshot" s.toJson.fieldList
      = s.snapshot.map RemoteAttributes.toJson := by
  have hmem : ("snapshot", .ofOption RemoteAttributes.toJson s.snapshot)
    ∈ s.fields := by simp [fields]
  refine (Json.lookup_presentFields s.namedOnce_fields hmem).trans ?_
  cases s.snapshot <;> rfl

theorem lookup_tags_toJson (a : RemoteAttributes) :
    Json.lookup "freeformTags" a.toJson.fieldList
      = a.freeformTags.map Json.ofTexts := by
  have hmem : ("freeformTags", .ofOption Json.ofTexts a.freeformTags)
      ∈ a.fields "dataStorageSizeInTbs" := by
    simp [RemoteAttributes.fields]
  refine (Json.lookup_presentFields a.namedOnce_fields hmem).trans ?_
  cases a.freeformTags <;> rfl

/-- Tags are laid over those of the status that is stored. -/
theorem texts?_over_tags (s : Status) (upper : Dict String) :
    Json.texts? (Json.mergePatch
      ((Json.lookup "freeformTags"
        ((Json.lookup "snapshot" s.toJson.fieldList).getD .null).fieldList).getD
          .null)
      (.ofTexts upper)) = some (s.tags.overlay upper) := by
  rw [lookup_snapshot_toJson]
  unfold tags
  cases s.snapshot with
  | none =>
    have htags : (none.bind RemoteAttributes.freeformTags).getD
      (∅ : Dict String) = ∅ := rfl
    rw [htags, Dict.empty_overlay]
    exact Json.texts?_mergePatch_null upper
  | some a =>
    rw [Option.map_some, Option.getD_some, lookup_tags_toJson, Option.bind_some]
    cases a.freeformTags with
    | none =>
      rw [Option.getD_none, Dict.empty_overlay]
      exact Json.texts?_mergePatch_null upper
    | some lower => exact Json.texts?_mergePatch lower upper

theorem withTagsBelow_eq_iff (s : Status) (lower : Dict String) :
    s.withTagsBelow lower = s
      ↔ ∀ a upper, s.snapshot = some a → a.freeformTags = some upper →
        ∀ key, lower.contains key = true → upper.contains key = true := by
  have hsnapshot : s.withTagsBelow lower = s
      ↔ s.snapshot.map (fun a => a.withTagsBelow lower) = s.snapshot := by
    constructor
    · exact fun h => congrArg Status.snapshot h
    · intro h
      unfold withTagsBelow
      rw [h]
  rw [hsnapshot]
  cases s.snapshot with
  | none => simp
  | some a =>
    rw [Option.map_some, Option.some.injEq,
      RemoteAttributes.withTagsBelow_eq_iff]
    constructor
    · rintro h _ upper ⟨⟩
      exact h upper
    · intro h upper
      exact h a upper rfl

end Status

/-- **A patched status.** A document holds the encoding of some status. The
patch for another status, whose state is one that a report can name, leaves a
document from which that status is read, with its tags laid over those of the
status that was there. It is the status of the patch exactly if it sets no tags,
or has a tag under each key that was there. -/
theorem patched_status_eq_iff {s₀ s : Status} {fields : List (String × Json)}
    (version : Option String)
    (stored : Json.lookup "status" fields = some s₀.toJson)
    (reported : s.Reported) :
    ∃ j,
      (Json.mergePatch (.object fields) (statusPatch s version)).field? "status"
        = some j
      ∧ Status.ofJson? j = some (s.withTagsBelow s₀.tags)
      ∧ (Status.ofJson? j = some s
        ↔ ∀ a upper, s.snapshot = some a → a.freeformTags = some upper →
          ∀ key, s₀.tags.contains key = true → upper.contains key = true) := by
  have hpatch : ∃ rest, statusPatch s version
    = .object (("status", .object (statusFields s)) :: rest)
      ∧ NamedOnce (("status", .object (statusFields s)) :: rest) := by
    cases version with
    | none => exact ⟨_, rfl, List.nodup_singleton _⟩
    | some v => exact ⟨_, rfl, (by decide : ["status", "metadata"].Nodup)⟩
  obtain ⟨rest, hform, once⟩ := hpatch
  have hfield :
      (Json.mergePatch (.object fields) (statusPatch s version)).field? "status"
        = some (.object
          (Json.mergeFields s₀.toJson.fieldList (statusFields s))) := by
    rw [hform, Json.mergePatch_object, Json.fieldList]
    show Json.lookup "status" _ = _
    rw [Json.lookup_mergeFields once, Json.lookup_cons_self, stored,
      Json.merged_of_ne_null _ Json.noConfusion, Option.getD_some,
      Json.mergePatch_object]
  have hread := Status.ofJson?_mergeFields reported (Status.texts?_over_tags s₀)
  refine ⟨_, hfield, hread, ?_⟩
  rw [hread, Option.some.injEq]
  exact s.withTagsBelow_eq_iff s₀.tags

/-- The status of a database that is available and has one tag. -/
def Status.tagged (key value : String) : Status where
  lifecycleState := some .available
  snapshot := some { freeformTags := some (Dict.ofList [(key, value)]) }

/-- A tag that is given another value has it in the document. -/
theorem retagged_status_patched :
    ∃ j,
      (Json.mergePatch
        (.object [("status", (Status.tagged "owner" "a").toJson)])
        (statusPatch (.tagged "owner" "b") (some "2"))).field? "status" = some j
      ∧ Status.ofJson? j = some (.tagged "owner" "b") := by
  have hreported : (Status.tagged "owner" "b").Reported := by
    rintro state ⟨⟩
    exact ⟨"AVAILABLE", by decide +kernel⟩
  obtain ⟨j, hfield, -, hsame⟩ := patched_status_eq_iff (some "2")
    (Json.lookup_cons_self "status" (Status.tagged "owner" "a").toJson [])
      hreported
  refine ⟨j, hfield, hsame.mpr ?_⟩
  rintro a upper ⟨⟩ ⟨⟩ key
    (hkey : (Dict.ofList [("owner", "a")]).contains key = true)
  have hone : ∀ value : String, (Dict.ofList [("owner", value)]).get? key
      = Dict.lookIn key [("owner", value)] := by
    intro value
    refine Dict.get?_ofList ?_ key
    exact List.nodup_singleton "owner"
  unfold Dict.contains at hkey ⊢
  rw [hone] at hkey ⊢
  by_cases howner : "owner" = key
  · subst howner
    rfl
  · rw [Dict.lookIn_cons_of_ne howner] at hkey
    cases hkey

/-- A tag that is taken away stays in the document, next to the one that has
come in its place. -/
theorem removed_tag_stays :
    ((Json.mergePatch (.object [("status", (Status.tagged "owner" "a").toJson)])
      (statusPatch (.tagged "team" "b") (some "2"))).field? "status").bind
        Status.ofJson?
      ≠ some (.tagged "team" "b") := by
  decide +kernel

end DatabaseOperator
