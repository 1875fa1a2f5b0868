import DatabaseOperator.Lifecycle.Rule
import DatabaseOperator.Manifest.AutonomousDatabase
import DatabaseOperator.Manifest.PluggableDatabase
import DatabaseOperator.Proofs.Json.Conveyance
import DatabaseOperator.Proofs.Status.Patch

/-!
# Documents are read as they were written

What the operator stores is a document, and the next pass goes by what is read
from it: an attribute that came back otherwise would be taken for a change that
somebody made. Fields that are not set are left out and read as not set, a field
with a default is written unless it is an empty list, and a state is stored in
its one written form.

- `Status.conveys`, `AutonomousDatabase.Spec.conveys`,
  `PluggableDatabase.Spec.conveys`: each is read field by field, however its
  document is arranged.
- `Status.fits` and its like: no document nests too deep to be read from its
  text.
- `documents_survive`: statuses and specs are read as they were written, and a
  state is accepted as it was.
-/

namespace DatabaseOperator

open Json
    (Conveys Fits NamedOnce Restates Survives conveys_string conveys_bool
      conveys_int32 conveys_int64 conveys_uint32 conveys_strings conveys_texts)

/-! ## Parts -/

theorem SecretKeyRef.conveys (r : SecretKeyRef) :
    Conveys ofJson? r.toJson r := by
  refine Conveys.object (by decide : ["name", "key"].Nodup) rfl
    fun arrangement fs restated => ?_
  have hname := restated.required "name" (conveys_string r.name) (by simp)
  have hkey := restated.required "key" (conveys_string r.key) (by simp)
  simp only [hname, hkey, Option.bind_eq_bind, Option.bind_some]

theorem Phase.conveys (phase : Phase) :
    Conveys ofJson? (.string phase.text) phase :=
  .of_replaces phase.replaces rfl rfl

theorem LifecycleState.conveys {state : LifecycleState}
    (reported : ∃ report, state = ofText report) :
    Conveys ofJson? state.toJson state := by
  obtain ⟨report, rfl⟩ := reported
  exact .of_replaces (replaces_ofText report) rfl rfl

theorem PendingAction.conveys (p : PendingAction) :
    Conveys ofJson? p.toJson p := by
  refine Conveys.object (by decide : ["signature", "since"].Nodup) rfl
    fun arrangement fs restated => ?_
  have hsignature :=
    restated.required "signature" (conveys_string p.signature) (by simp)
  have hsince := restated.required "since" (conveys_string p.since) (by simp)
  simp only [hsignature, hsince, Option.bind_eq_bind, Option.bind_some]

theorem RemoteAttributes.conveys (a : RemoteAttributes) :
    Conveys ofJson? a.toJson a := by
  refine Conveys.record a.namedOnce_fields fun arrangement fs restated =>
    ofFields?_eq_some_iff.mpr ?_
  refine ⟨restated.optional _ conveys_string _ ?_,
    restated.optional _ conveys_string _ ?_,
    restated.optional _ conveys_string _ ?_,
    restated.optional _ conveys_string _ ?_,
    restated.optional _ conveys_string _ ?_,
    restated.optional _ conveys_bool _ ?_,
    restated.optional _ conveys_int32 _ ?_,
    restated.optional _ conveys_int32 _ ?_,
    restated.optional _ conveys_bool _ ?_,
    restated.optional _ conveys_texts _ ?_,
    restated.optional _ conveys_string _ ?_,
    restated.optional _ conveys_strings _ ?_,
    restated.optional _ conveys_string _ ?_,
    restated.optional _ conveys_strings _ ?_⟩
  all_goals simp only [fields, List.mem_cons, true_or, or_true]

/-! ## The status -/

namespace Status

theorem conveys {s : Status} (reported : s.Reported) :
    Conveys ofJson? s.toJson s := by
  refine Conveys.record s.namedOnce_fields fun arrangement fs restated => ?_
  have hconditions : Json.defaulted? "conditions" (Json.list? Condition.ofJson?)
      [] fs = some s.conditions := by
    have hmem : ("conditions", conditionsJson s.conditions) ∈ s.fields := by
      simp [fields]
    cases hs : s.conditions with
    | nil =>
      -- an empty list is written as `null` and so left out, and a missing one
      -- has no conditions by default
      rw [hs] at hmem
      exact restated.defaulted_of_null _ [] hmem
    | cons first rest =>
      rw [hs] at hmem
      exact restated.defaulted _ []
        (Conveys.list Condition.conveys (first :: rest)) hmem
  have hphase :=
    restated.defaulted "phase" .pending (Phase.conveys s.phase) (by simp)
  have hidentity :=
    restated.optional "identity" conveys_string s.identity (by simp)
  have hstate := restated.optional_of_some "lifecycleState" s.lifecycleState
    (fun state hs => LifecycleState.conveys (reported state hs)) (by simp)
  have hsnapshot :=
    restated.optional "snapshot" RemoteAttributes.conveys s.snapshot (by simp)
  have hinFlight :=
    restated.optional "inFlight" PendingAction.conveys s.inFlight (by simp)
  have hwaiting :=
    restated.optional "waiting" PendingAction.conveys s.waiting (by simp)
  have hcompleted :=
    restated.optional "lastCompletedAction" conveys_string s.lastCompletedAction
      (by simp)
  have hfailed :=
    restated.optional "failedAction" conveys_string s.failedAction (by simp)
  have hfailures :=
    restated.defaulted "consecutiveFailures" 0
      (conveys_uint32 s.consecutiveFailures) (by simp)
  have hretries :=
    restated.defaulted "consistencyRetries" 0
      (conveys_uint32 s.consistencyRetries) (by simp)
  have hwallet :=
    restated.optional "walletSecret" conveys_string s.walletSecret (by simp)
  have hgeneration :=
    restated.optional "observedGeneration" conveys_int64 s.observedGeneration
      (by simp)
  simp only [hphase, hidentity, hstate, hsnapshot, hinFlight, hwaiting,
    hcompleted, hfailed, hfailures, hretries, hwallet, hgeneration, hconditions,
    Option.bind_eq_bind, Option.bind_some]

end Status

/-! ## Specs of autonomous databases -/

namespace AutonomousDatabase

theorem WalletSpec.conveys (w : WalletSpec) : Conveys ofJson? w.toJson w := by
  refine Conveys.record (by decide : ["name", "password"].Nodup)
    fun arrangement fs restated => ?_
  have hname := restated.optional "name" conveys_string w.name (by simp)
  have hpassword :=
    restated.optional "password" SecretKeyRef.conveys w.password (by simp)
  simp only [hname, hpassword, Option.bind_eq_bind, Option.bind_some]

theorem CloudSettingsRef.conveys (r : CloudSettingsRef) :
    Conveys ofJson? r.toJson r := by
  refine Conveys.object (by decide : ["configMapName", "secretName"].Nodup) rfl
    fun arrangement fs restated => ?_
  have hconfigMap :=
    restated.required "configMapName" (conveys_string r.configMapName) (by simp)
  have hsecret :=
    restated.required "secretName" (conveys_string r.secretName) (by simp)
  simp only [hconfigMap, hsecret, Option.bind_eq_bind, Option.bind_some]

namespace Details

/-- The state that is asked for is one that a report can name. -/
def Reported (d : Details) : Prop :=
  ∀ state, d.lifecycleState = some state → ∃ report, state = .ofText report

theorem conveys {d : Details} (reported : d.Reported) :
    Conveys ofJson? d.toJson d := by
  refine Conveys.record (by decide : fieldNames.Nodup)
    fun arrangement fs restated => ?_
  have hid :=
    restated.optional "autonomousDatabaseOCID" conveys_string
      d.autonomousDatabaseId (by simp)
  have hclone :=
    restated.optional "cloneSource" conveys_string d.cloneSource (by simp)
  have hcompartment :=
    restated.optional "compartmentOCID" conveys_string d.compartmentId (by simp)
  have hdisplay :=
    restated.optional "displayName" conveys_string d.displayName (by simp)
  have hname := restated.optional "dbName" conveys_string d.dbName (by simp)
  have hworkload :=
    restated.optional "dbWorkload" conveys_string d.dbWorkload (by simp)
  have hversion :=
    restated.optional "dbVersion" conveys_string d.dbVersion (by simp)
  have hdedicated :=
    restated.optional "isDedicated" conveys_bool d.isDedicated (by simp)
  have hcores :=
    restated.optional "cpuCoreCount" conveys_int32 d.cpuCoreCount (by simp)
  have hstorage :=
    restated.optional "dataStorageSizeInTBs" conveys_int32
      d.dataStorageSizeInTbs (by simp)
  have hscaling :=
    restated.optional "isAutoScalingEnabled" conveys_bool d.isAutoScalingEnabled
      (by simp)
  have htags :=
    restated.optional "freeformTags" conveys_texts d.freeformTags (by simp)
  have hsubnet :=
    restated.optional "subnetOCID" conveys_string d.subnetId (by simp)
  have hgroups :=
    restated.optional "nsgOCIDs" conveys_strings d.nsgIds (by simp)
  have hendpoint :=
    restated.optional "privateEndpointLabel" conveys_string
      d.privateEndpointLabel (by simp)
  have haddresses :=
    restated.optional "whitelistedIps" conveys_strings d.whitelistedIps
      (by simp)
  have hstate := restated.optional_of_some "lifecycleState" d.lifecycleState
    (fun state hs => LifecycleState.conveys (reported state hs)) (by simp)
  have hpassword :=
    restated.optional "adminPassword" SecretKeyRef.conveys d.adminPassword
      (by simp)
  have hwallet :=
    restated.optional "wallet" WalletSpec.conveys d.wallet (by simp)
  simp only [hid, hclone, hcompartment, hdisplay, hname, hworkload, hversion,
    hdedicated, hcores, hstorage, hscaling, htags, hsubnet, hgroups, hendpoint,
    haddresses, hstate, hpassword, hwallet, Option.bind_eq_bind,
    Option.bind_some]

end Details

theorem Spec.conveys {s : Spec} (reported : s.details.Reported) :
    Conveys ofJson? s.toJson s := by
  refine Conveys.object (by decide : ["details", "hardLink", "ociConfig"].Nodup)
    rfl fun arrangement fs restated => ?_
  have hdetails :=
    restated.required "details" (Details.conveys reported) (by simp)
  have hhardLink :=
    restated.defaulted "hardLink" false (conveys_bool s.hardLink) (by simp)
  have hsettings := restated.required "ociConfig" s.settings.conveys (by simp)
  simp only [hdetails, hhardLink, hsettings, Option.bind_eq_bind,
    Option.bind_some]

end AutonomousDatabase

/-! ## Specs of pluggable databases -/

theorem PdbAction.conveys (a : PdbAction) :
    Conveys ofJson? (.string a.text) a := by
  refine .of_text ?_
  cases a <;> decide

theorem PdbState.conveys (p : PdbState) :
    Conveys ofJson? (.string p.text) p := by
  refine .of_text ?_
  cases p <;> decide

theorem DropAction.conveys (d : DropAction) :
    Conveys ofJson? (.string d.text) d := by
  refine .of_text ?_
  cases d <;> decide

namespace PluggableDatabase.Spec

theorem conveys (s : Spec) : Conveys ofJson? s.toJson s := by
  refine Conveys.record (by decide : fieldNames.Nodup)
    fun arrangement fs restated => ?_
  have hcdb := restated.required "cdbRef" (conveys_string s.cdbRef) (by simp)
  have hpdb := restated.required "pdbName" (conveys_string s.pdbName) (by simp)
  have haction := restated.required "action" s.action.conveys (by simp)
  have hsource :=
    restated.optional "srcPdbName" conveys_string s.srcPdbName (by simp)
  have hmanifest :=
    restated.optional "xmlFileName" conveys_string s.xmlFileName (by simp)
  have hfiles :=
    restated.optional "fileNameConversions" conveys_string s.fileNameConversions
      (by simp)
  have hsourceFiles :=
    restated.optional "sourceFileNameConversions" conveys_string
      s.sourceFileNameConversions (by simp)
  have hcopy :=
    restated.optional "copyAction" conveys_string s.copyAction (by simp)
  have htotal :=
    restated.optional "totalSize" conveys_string s.totalSize (by simp)
  have htemp := restated.optional "tempSize" conveys_string s.tempSize (by simp)
  have hunlimited :=
    restated.optional "unlimitedStorage" conveys_bool s.unlimitedStorage
      (by simp)
  have hreuse :=
    restated.optional "reuseTempFile" conveys_bool s.reuseTempFile (by simp)
  have htde := restated.optional "tdeImport" conveys_bool s.tdeImport (by simp)
  have hstate :=
    restated.optional "pdbState" PdbState.conveys s.pdbState (by simp)
  have hoption :=
    restated.optional "modifyOption" conveys_string s.modifyOption (by simp)
  have hdrop :=
    restated.defaulted "dropAction" .including s.dropAction.conveys (by simp)
  have hadmin :=
    restated.optional "adminName" SecretKeyRef.conveys s.adminName (by simp)
  have hpassword :=
    restated.optional "adminPassword" SecretKeyRef.conveys s.adminPassword
      (by simp)
  have hhardLink :=
    restated.defaulted "hardLink" false (conveys_bool s.hardLink) (by simp)
  simp only [hcdb, hpdb, haction, hsource, hmanifest, hfiles, hsourceFiles,
    hcopy, htotal, htemp, hunlimited, hreuse, htde, hstate, hoption, hdrop,
    hadmin, hpassword, hhardLink, Option.bind_eq_bind, Option.bind_some]

end PluggableDatabase.Spec

/-! ## How deep documents nest -/

@[simp] theorem SecretKeyRef.fits {n : Nat} (r : SecretKeyRef) :
    Fits (n + 1) r.toJson :=
  .object (by simp)

@[simp] theorem PendingAction.fits {n : Nat} (p : PendingAction) :
    Fits (n + 1) p.toJson :=
  .object (by simp)

@[simp] theorem Condition.fits {n : Nat} (c : Condition) :
    Fits (n + 1) c.toJson :=
  Json.fits_ofPresent (by simp)

@[simp] theorem RemoteAttributes.fits {n : Nat} (a : RemoteAttributes) :
    Fits (n + 2) a.toJson :=
  Json.fits_ofPresent (by simp [fields])

@[simp] theorem LifecycleState.fits {n : Nat} (state : LifecycleState) :
    Fits n state.toJson :=
  Json.fits_string state.text

@[simp] theorem Status.fits_conditionsJson {n : Nat}
    (conditions : List Condition) :
    Fits (n + 2) (conditionsJson conditions) := by
  cases conditions with
  | nil => exact .null
  | cons first rest => exact Json.fits_list Condition.fits (first :: rest)

theorem Status.fits (s : Status) : Fits 3 s.toJson :=
  Json.fits_ofPresent (by simp)

namespace AutonomousDatabase

@[simp] theorem WalletSpec.fits {n : Nat} (w : WalletSpec) :
    Fits (n + 2) w.toJson :=
  Json.fits_ofPresent (by simp)

@[simp] theorem CloudSettingsRef.fits {n : Nat} (r : CloudSettingsRef) :
    Fits (n + 1) r.toJson :=
  .object (by simp)

@[simp] theorem Details.fits {n : Nat} (d : Details) : Fits (n + 3) d.toJson :=
  Json.fits_ofPresent (by simp)

theorem Spec.fits (s : Spec) : Fits 4 s.toJson :=
  .object (by simp)

end AutonomousDatabase

theorem PluggableDatabase.Spec.fits (s : Spec) : Fits 2 s.toJson :=
  Json.fits_ofPresent (by simp)

/-! ## Documents and their texts -/

/-- **Documents are read as they were written.** A status, a spec of an
autonomous database and a spec of a pluggable database come back as they were
from the document that they are written as, and from the text of that, if the
states in them are such as a report can name. The written form of a state that a
report names, names the same state, so the state that is read from a stored
status is accepted by the same rules as the one that was reported. -/
theorem documents_survive :
    (∀ s : Status, s.Reported → Survives Status.ofJson? s.toJson s)
    ∧ (∀ s : AutonomousDatabase.Spec, s.details.Reported →
      Survives AutonomousDatabase.Spec.ofJson? s.toJson s)
    ∧ (∀ s : PluggableDatabase.Spec,
      Survives PluggableDatabase.Spec.ofJson? s.toJson s)
    ∧ (∀ report, LifecycleState.ofText (LifecycleState.ofText report).text
      = .ofText report)
    ∧ ∀ (s : Status) (report : String),
      s.lifecycleState = some (.ofText report) →
        ∃ stored,
          (Json.parse? s.toJson.render).bind Status.ofJson? = some stored
          ∧ ∀ (rule : StateRule) (identity : Option String),
            rule.holds identity stored.lifecycleState
              = rule.holds identity (some (.ofText report)) := by
  have hstatus :
      ∀ s : Status, s.Reported → Survives Status.ofJson? s.toJson s :=
    fun s reported => (Status.conveys reported).survives s.fits (by decide)
  refine ⟨hstatus, fun s reported =>
    (AutonomousDatabase.Spec.conveys reported).survives s.fits (by decide),
    fun s => s.conveys.survives s.fits (by decide), LifecycleState.ofText_text,
    fun s report hstate => ?_⟩
  have hreported : s.Reported := by
    intro state hs
    rw [hstate] at hs
    exact ⟨report, (Option.some.inj hs).symm⟩
  refine ⟨s, (hstatus s hreported).text, fun rule identity => ?_⟩
  rw [hstate]

/-- The status of a database that is reported open, with a tag without a value,
an empty list and a failure. -/
def Status.openForWriting : Status where
  phase := .failed
  identity := some "pdb \"one\""
  lifecycleState := some (.ofText " read write")
  snapshot :=
    some
      { freeformTags := some (Dict.ofList [("owner", "")]), nsgIds := some []
        cpuCoreCount := some (-1) }
  consecutiveFailures := 1
  conditions :=
    [⟨"Ready", "False", "Failed", "line one\nline two",
      "2024-01-01T00:00:00Z", none⟩]

/-- The spec of a database that is to be stopped. -/
def AutonomousDatabase.Spec.wantedStopped : AutonomousDatabase.Spec where
  details := { lifecycleState := some (.ofText "stopped"), wallet := some {} }
  settings := ⟨"settings", "token"⟩

/-- An open mode is stored as the state that it counts as, and accepted as
such. -/
theorem open_mode_survives :
    Survives Status.ofJson? Status.openForWriting.toJson .openForWriting
    ∧ Survives AutonomousDatabase.Spec.ofJson?
      AutonomousDatabase.Spec.wantedStopped.toJson .wantedStopped
    ∧ ∃ stored,
      (Json.parse? Status.openForWriting.toJson.render).bind Status.ofJson?
        = some stored
      ∧ (StateRule.anyOf [.available]).holds (some "one") stored.lifecycleState
        = true := by
  obtain ⟨hstatus, hspec, -, -, hrules⟩ := documents_survive
  obtain ⟨stored, hread, hrule⟩ := hrules .openForWriting " read write" rfl
  refine ⟨hstatus _ ?_, hspec _ ?_, stored, hread, ?_⟩
  · rintro state ⟨⟩
    exact ⟨" read write", rfl⟩
  · rintro state ⟨⟩
    exact ⟨"stopped", rfl⟩
  · rw [hrule]
    decide +kernel

end DatabaseOperator
