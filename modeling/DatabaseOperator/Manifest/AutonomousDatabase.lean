import DatabaseOperator.Manifest.Metadata
import DatabaseOperator.Status.Basic

/-!
# Autonomous databases

A resource that declares a database in the cloud: made by the operator, or bound
by its identifier. The operator keeps its attributes and its state in line with
the spec and stores its connection wallet.

- `AutonomousDatabase`: metadata, spec and status, with `toJson`, `form` and
  `ofJson?`.
- `AutonomousDatabase.Details`: the declared attributes.
- `Details.comparable`, `Details.provisioning`: the attributes kept in line, and
  those that a new database gets.
- `AutonomousDatabase.walletSecretName`: where the wallet goes.
-/

namespace DatabaseOperator

namespace AutonomousDatabase

/-- The wanted wallet: the Secret to write it to, and the password that protects
it. -/
structure WalletSpec where
  name : Option String := none
  password : Option SecretKeyRef := none
deriving DecidableEq, Repr

/-- The declared attributes of an autonomous database. -/
structure Details where
  autonomousDatabaseId : Option String := none
  cloneSource : Option String := none
  compartmentId : Option String := none
  displayName : Option String := none
  dbName : Option String := none
  dbWorkload : Option String := none
  dbVersion : Option String := none
  isDedicated : Option Bool := none
  cpuCoreCount : Option Int32 := none
  dataStorageSizeInTbs : Option Int32 := none
  isAutoScalingEnabled : Option Bool := none
  freeformTags : Option (Dict String) := none
  subnetId : Option String := none
  nsgIds : Option (List String) := none
  privateEndpointLabel : Option String := none
  whitelistedIps : Option (List String) := none
  lifecycleState : Option LifecycleState := none
  adminPassword : Option SecretKeyRef := none
  wallet : Option WalletSpec := none
deriving DecidableEq

/-- Where the settings of the cloud service are kept: a ConfigMap with the
region or endpoint, and a Secret with the token. -/
structure CloudSettingsRef where
  configMapName : String
  secretName : String
deriving DecidableEq, Repr

/-- What a resource declares. With a hard link the remote database goes when the
resource is deleted. -/
structure Spec where
  details : Details
  hardLink : Bool := false
  settings : CloudSettingsRef
deriving DecidableEq

end AutonomousDatabase

/-- An autonomous database as declared in the cluster. -/
structure AutonomousDatabase where
  metadata : Metadata
  spec : AutonomousDatabase.Spec
  status : Option Status := none
deriving DecidableEq

namespace AutonomousDatabase

/-! ## What is declared -/

/-- The declared attributes that are compared with what the remote reports.
Those that cannot change on a live database are not among them. -/
def Details.comparable (d : Details) : RemoteAttributes where
  displayName := d.displayName
  cpuCoreCount := d.cpuCoreCount
  dataStorageSizeInTbs := d.dataStorageSizeInTbs
  isAutoScalingEnabled := d.isAutoScalingEnabled
  freeformTags := d.freeformTags
  nsgIds := d.nsgIds
  privateEndpointLabel := d.privateEndpointLabel
  whitelistedIps := d.whitelistedIps

/-- The attributes that a new database gets. -/
def Details.provisioning (d : Details) : RemoteAttributes :=
  { d.comparable with
    compartmentId := d.compartmentId
    dbName := d.dbName
    dbWorkload := d.dbWorkload
    dbVersion := d.dbVersion
    isDedicated := d.isDedicated
    subnetId := d.subnetId }

/-- The Secret that holds the wallet: the one that is named, else one named
after the resource. -/
def walletSecretName (db : AutonomousDatabase) : String :=
  (db.spec.details.wallet.bind WalletSpec.name).getD
    (db.metadata.name.getD "" ++ "-instance-wallet")

/-! ## As JSON -/

/-- The JSON form of a wanted wallet. -/
def WalletSpec.toJson (w : WalletSpec) : Json :=
  .ofPresent [("name", .ofOption .string w.name),
    ("password", .ofOption SecretKeyRef.toJson w.password)]

/-- The form of a wanted wallet. -/
def WalletSpec.form : Json.Form :=
  .record "struct WalletSpec" true [("name", .optional, .text),
    ("password", .optional, SecretKeyRef.form)]

/-- The wanted wallet of a JSON document. -/
def WalletSpec.ofJson? (j : Json) : Option WalletSpec := do
  let fs ← j.record? ["name", "password"]
  some
    { name := ← Json.optional? "name" Json.string? fs
      password := ← Json.optional? "password" SecretKeyRef.ofJson? fs }

/-- The names of the declared attributes in their order. -/
def Details.fieldNames : List String :=
  ["autonomousDatabaseOCID", "cloneSource", "compartmentOCID", "displayName",
    "dbName", "dbWorkload", "dbVersion", "isDedicated", "cpuCoreCount",
    "dataStorageSizeInTBs", "isAutoScalingEnabled", "freeformTags",
    "subnetOCID", "nsgOCIDs", "privateEndpointLabel", "whitelistedIps",
    "lifecycleState", "adminPassword", "wallet"]

/-- The JSON form of the declared attributes; those that are not set are left
out. -/
def Details.toJson (d : Details) : Json :=
  .ofPresent
    [("autonomousDatabaseOCID", .ofOption .string d.autonomousDatabaseId),
      ("cloneSource", .ofOption .string d.cloneSource),
      ("compartmentOCID", .ofOption .string d.compartmentId),
      ("displayName", .ofOption .string d.displayName),
      ("dbName", .ofOption .string d.dbName),
      ("dbWorkload", .ofOption .string d.dbWorkload),
      ("dbVersion", .ofOption .string d.dbVersion),
      ("isDedicated", .ofOption .bool d.isDedicated),
      ("cpuCoreCount", .ofOption (fun i => .int i.toInt) d.cpuCoreCount),
      ("dataStorageSizeInTBs",
        .ofOption (fun i => .int i.toInt) d.dataStorageSizeInTbs),
      ("isAutoScalingEnabled", .ofOption .bool d.isAutoScalingEnabled),
      ("freeformTags", .ofOption Json.ofTexts d.freeformTags),
      ("subnetOCID", .ofOption .string d.subnetId),
      ("nsgOCIDs", .ofOption Json.ofStrings d.nsgIds),
      ("privateEndpointLabel", .ofOption .string d.privateEndpointLabel),
      ("whitelistedIps", .ofOption Json.ofStrings d.whitelistedIps),
      ("lifecycleState", .ofOption LifecycleState.toJson d.lifecycleState),
      ("adminPassword", .ofOption SecretKeyRef.toJson d.adminPassword),
      ("wallet", .ofOption WalletSpec.toJson d.wallet)]

/-- The form of the declared attributes. -/
def Details.form : Json.Form :=
  .record "struct AutonomousDatabaseDetails" true
    [("autonomousDatabaseOCID", .optional, .text),
      ("cloneSource", .optional, .text), ("compartmentOCID", .optional, .text),
      ("displayName", .optional, .text), ("dbName", .optional, .text),
      ("dbWorkload", .optional, .text), ("dbVersion", .optional, .text),
      ("isDedicated", .optional, .flag), ("cpuCoreCount", .optional, .int32),
      ("dataStorageSizeInTBs", .optional, .int32),
      ("isAutoScalingEnabled", .optional, .flag),
      ("freeformTags", .optional, .dict .text),
      ("subnetOCID", .optional, .text), ("nsgOCIDs", .optional, .list .text),
      ("privateEndpointLabel", .optional, .text),
      ("whitelistedIps", .optional, .list .text),
      ("lifecycleState", .optional, .text),
      ("adminPassword", .optional, SecretKeyRef.form),
      ("wallet", .optional, WalletSpec.form)]

/-- The declared attributes of a JSON document. -/
def Details.ofJson? (j : Json) : Option Details := do
  let fs ← j.record? Details.fieldNames
  some
    { autonomousDatabaseId :=
        ← Json.optional? "autonomousDatabaseOCID" Json.string? fs
      cloneSource := ← Json.optional? "cloneSource" Json.string? fs
      compartmentId := ← Json.optional? "compartmentOCID" Json.string? fs
      displayName := ← Json.optional? "displayName" Json.string? fs
      dbName := ← Json.optional? "dbName" Json.string? fs
      dbWorkload := ← Json.optional? "dbWorkload" Json.string? fs
      dbVersion := ← Json.optional? "dbVersion" Json.string? fs
      isDedicated := ← Json.optional? "isDedicated" Json.bool? fs
      cpuCoreCount := ← Json.optional? "cpuCoreCount" Json.int32? fs
      dataStorageSizeInTbs :=
        ← Json.optional? "dataStorageSizeInTBs" Json.int32? fs
      isAutoScalingEnabled :=
        ← Json.optional? "isAutoScalingEnabled" Json.bool? fs
      freeformTags := ← Json.optional? "freeformTags" Json.texts? fs
      subnetId := ← Json.optional? "subnetOCID" Json.string? fs
      nsgIds := ← Json.optional? "nsgOCIDs" Json.strings? fs
      privateEndpointLabel :=
        ← Json.optional? "privateEndpointLabel" Json.string? fs
      whitelistedIps := ← Json.optional? "whitelistedIps" Json.strings? fs
      lifecycleState :=
        ← Json.optional? "lifecycleState" LifecycleState.ofJson? fs
      adminPassword := ← Json.optional? "adminPassword" SecretKeyRef.ofJson? fs
      wallet := ← Json.optional? "wallet" WalletSpec.ofJson? fs }

/-- The JSON form of a reference to cloud settings. -/
def CloudSettingsRef.toJson (r : CloudSettingsRef) : Json :=
  .object [("configMapName", .string r.configMapName),
    ("secretName", .string r.secretName)]

/-- The form of a reference to cloud settings. -/
def CloudSettingsRef.form : Json.Form :=
  .record "struct OciConfigRef" true [("configMapName", .required, .text),
    ("secretName", .required, .text)]

/-- The reference to cloud settings of a JSON document. -/
def CloudSettingsRef.ofJson? (j : Json) : Option CloudSettingsRef := do
  let fs ← j.record? ["configMapName", "secretName"]
  some
    { configMapName := ← Json.required? "configMapName" Json.string? fs
      secretName := ← Json.required? "secretName" Json.string? fs }

/-- The JSON form of a spec. -/
def Spec.toJson (s : Spec) : Json :=
  .object
    [("details", s.details.toJson), ("hardLink", .bool s.hardLink),
      ("ociConfig", s.settings.toJson)]

/-- The form of a spec. -/
def Spec.form : Json.Form :=
  .record "struct AutonomousDatabaseSpec" true
    [("details", .required, Details.form), ("hardLink", .defaulted, .flag),
      ("ociConfig", .required, CloudSettingsRef.form)]

/-- The spec of a JSON document. -/
def Spec.ofJson? (j : Json) : Option Spec := do
  let fs ← j.record? ["details", "hardLink", "ociConfig"]
  some
    { details := ← Json.required? "details" Details.ofJson? fs
      hardLink := ← Json.defaulted? "hardLink" Json.bool? false fs
      settings := ← Json.required? "ociConfig" CloudSettingsRef.ofJson? fs }

/-- The document of an autonomous database. -/
def toJson (db : AutonomousDatabase) : Json :=
  .ofPresent
    [("apiVersion", .string apiVersion),
      ("kind", .string "AutonomousDatabase"),
      ("metadata", db.metadata.toJson),
      ("spec", db.spec.toJson),
      ("status", .ofOption Status.toJson db.status)]

/-- The form of documents of autonomous databases. -/
def form : Json.Form :=
  .record "struct AutonomousDatabase" true
    [("metadata", .required, Metadata.form), ("spec", .required, Spec.form),
      ("status", .optional, Status.form)]

/-- The autonomous database of a document, whatever version and kind the
document claims. -/
def ofJson? (j : Json) : Option AutonomousDatabase := do
  let fs ← j.record? ["metadata", "spec", "status"]
  some
    { metadata := ← Json.required? "metadata" Metadata.ofJson? fs
      spec := ← Json.required? "spec" Spec.ofJson? fs
      status := ← Json.optional? "status" Status.ofJson? fs }

end AutonomousDatabase

end DatabaseOperator
