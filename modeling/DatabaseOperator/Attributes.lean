import DatabaseOperator.Json.Form

/-!
# Attributes of a database

The attributes that a spec declares and that a remote control plane reports. On
the declared side an attribute that is not set has no opinion.

- `RemoteAttributes`: the fourteen attributes, each of which may be unset.
- `RemoteAttributes.changesFrom`: the declared attributes that are reported
  otherwise.
- `RemoteAttributes.overlay`: attributes after an update has been carried out.
- `RemoteAttributes.toJson`, `RemoteAttributes.ofJson?`: the document form used
  in status.
-/

namespace DatabaseOperator

/-- The attributes of a remote database. -/
structure RemoteAttributes where
  compartmentId : Option String := none
  displayName : Option String := none
  dbName : Option String := none
  dbWorkload : Option String := none
  dbVersion : Option String := none
  isDedicated : Option Bool := none
  cpuCoreCount : Option Int32 := none
  dataStorageSizeInTbs : Option Int32 := none
  isAutoScalingEnabled : Option Bool := none
  freeformTags : Option (Dict String) := none
  subnetId : Option String := none
  nsgIds : Option (List String) := none
  privateEndpointLabel : Option String := none
  whitelistedIps : Option (List String) := none
deriving DecidableEq, Inhabited

namespace RemoteAttributes

/-- No attribute is set. -/
def none : RemoteAttributes := {}

/-- No attribute is set. -/
def isEmpty (a : RemoteAttributes) : Bool :=
  a == none

/-! ## Differences -/

/-- A declared value, if one is declared and another or none is confirmed. -/
def changed {α : Type} [DecidableEq α] (desired confirmed : Option α) :
    Option α :=
  if confirmed = desired then Option.none else desired

/-- The declared attributes that the confirmed ones do not agree with. -/
def changesFrom (desired confirmed : RemoteAttributes) : RemoteAttributes where
  compartmentId := changed desired.compartmentId confirmed.compartmentId
  displayName := changed desired.displayName confirmed.displayName
  dbName := changed desired.dbName confirmed.dbName
  dbWorkload := changed desired.dbWorkload confirmed.dbWorkload
  dbVersion := changed desired.dbVersion confirmed.dbVersion
  isDedicated := changed desired.isDedicated confirmed.isDedicated
  cpuCoreCount := changed desired.cpuCoreCount confirmed.cpuCoreCount
  dataStorageSizeInTbs :=
    changed desired.dataStorageSizeInTbs confirmed.dataStorageSizeInTbs
  isAutoScalingEnabled :=
    changed desired.isAutoScalingEnabled confirmed.isAutoScalingEnabled
  freeformTags := changed desired.freeformTags confirmed.freeformTags
  subnetId := changed desired.subnetId confirmed.subnetId
  nsgIds := changed desired.nsgIds confirmed.nsgIds
  privateEndpointLabel :=
    changed desired.privateEndpointLabel confirmed.privateEndpointLabel
  whitelistedIps := changed desired.whitelistedIps confirmed.whitelistedIps

/-- The attributes with those of `changes` that are set put in their place. -/
def overlay (a changes : RemoteAttributes) : RemoteAttributes where
  compartmentId := changes.compartmentId <|> a.compartmentId
  displayName := changes.displayName <|> a.displayName
  dbName := changes.dbName <|> a.dbName
  dbWorkload := changes.dbWorkload <|> a.dbWorkload
  dbVersion := changes.dbVersion <|> a.dbVersion
  isDedicated := changes.isDedicated <|> a.isDedicated
  cpuCoreCount := changes.cpuCoreCount <|> a.cpuCoreCount
  dataStorageSizeInTbs := changes.dataStorageSizeInTbs
    <|> a.dataStorageSizeInTbs
  isAutoScalingEnabled := changes.isAutoScalingEnabled
    <|> a.isAutoScalingEnabled
  freeformTags := changes.freeformTags <|> a.freeformTags
  subnetId := changes.subnetId <|> a.subnetId
  nsgIds := changes.nsgIds <|> a.nsgIds
  privateEndpointLabel := changes.privateEndpointLabel
    <|> a.privateEndpointLabel
  whitelistedIps := changes.whitelistedIps <|> a.whitelistedIps

/-! ## As JSON -/

/-- The names of the attributes in status documents, in their order. -/
def fieldNames : List String :=
  ["compartmentId", "displayName", "dbName", "dbWorkload", "dbVersion",
    "isDedicated", "cpuCoreCount", "dataStorageSizeInTbs",
    "isAutoScalingEnabled", "freeformTags", "subnetId", "nsgIds",
    "privateEndpointLabel", "whitelistedIps"]

/-- The attributes as fields, the storage size under a given name; one that is
not set holds `null`. -/
def fields (storageName : String) (a : RemoteAttributes) :
    List (String × Json) :=
  [("compartmentId", .ofOption .string a.compartmentId),
    ("displayName", .ofOption .string a.displayName),
    ("dbName", .ofOption .string a.dbName),
    ("dbWorkload", .ofOption .string a.dbWorkload),
    ("dbVersion", .ofOption .string a.dbVersion),
    ("isDedicated", .ofOption .bool a.isDedicated),
    ("cpuCoreCount", .ofOption (fun i => .int i.toInt) a.cpuCoreCount),
    (storageName, .ofOption (fun i => .int i.toInt) a.dataStorageSizeInTbs),
    ("isAutoScalingEnabled", .ofOption .bool a.isAutoScalingEnabled),
    ("freeformTags", .ofOption Json.ofTexts a.freeformTags),
    ("subnetId", .ofOption .string a.subnetId),
    ("nsgIds", .ofOption Json.ofStrings a.nsgIds),
    ("privateEndpointLabel", .ofOption .string a.privateEndpointLabel),
    ("whitelistedIps", .ofOption Json.ofStrings a.whitelistedIps)]

/-- The attributes read from fields, the storage size under a given name. -/
def ofFields? (storageName : String) (fs : List (String × Json)) :
    Option RemoteAttributes := do
  some
    { compartmentId := ← Json.optional? "compartmentId" Json.string? fs
      displayName := ← Json.optional? "displayName" Json.string? fs
      dbName := ← Json.optional? "dbName" Json.string? fs
      dbWorkload := ← Json.optional? "dbWorkload" Json.string? fs
      dbVersion := ← Json.optional? "dbVersion" Json.string? fs
      isDedicated := ← Json.optional? "isDedicated" Json.bool? fs
      cpuCoreCount := ← Json.optional? "cpuCoreCount" Json.int32? fs
      dataStorageSizeInTbs := ← Json.optional? storageName Json.int32? fs
      isAutoScalingEnabled :=
        ← Json.optional? "isAutoScalingEnabled" Json.bool? fs
      freeformTags := ← Json.optional? "freeformTags" Json.texts? fs
      subnetId := ← Json.optional? "subnetId" Json.string? fs
      nsgIds := ← Json.optional? "nsgIds" Json.strings? fs
      privateEndpointLabel :=
        ← Json.optional? "privateEndpointLabel" Json.string? fs
      whitelistedIps := ← Json.optional? "whitelistedIps" Json.strings? fs }

/-- The JSON form of attributes; those that are not set are left out. -/
def toJson (a : RemoteAttributes) : Json :=
  .ofPresent (a.fields "dataStorageSizeInTbs")

/-- The form of attributes. -/
def form : Json.Form :=
  .record "struct RemoteAttributes" true
    [("compartmentId", .optional, .text), ("displayName", .optional, .text),
      ("dbName", .optional, .text), ("dbWorkload", .optional, .text),
      ("dbVersion", .optional, .text), ("isDedicated", .optional, .flag),
      ("cpuCoreCount", .optional, .int32),
      ("dataStorageSizeInTbs", .optional, .int32),
      ("isAutoScalingEnabled", .optional, .flag),
      ("freeformTags", .optional, .dict .text), ("subnetId", .optional, .text),
      ("nsgIds", .optional, .list .text),
      ("privateEndpointLabel", .optional, .text),
      ("whitelistedIps", .optional, .list .text)]

/-- The attributes of a JSON document. -/
def ofJson? (j : Json) : Option RemoteAttributes := do
  ofFields? "dataStorageSizeInTbs" (← Json.record? fieldNames j)

/-! ## Small facts -/

theorem changed_self {α : Type} [DecidableEq α] (a : Option α) :
    changed a a = Option.none := by
  simp [changed]

theorem changed_none {α : Type} [DecidableEq α] (confirmed : Option α) :
    changed Option.none confirmed = Option.none := by
  simp [changed]

theorem changesFrom_self (a : RemoteAttributes) : a.changesFrom a = none := by
  simp [changesFrom, changed_self, none]

end RemoteAttributes

end DatabaseOperator
