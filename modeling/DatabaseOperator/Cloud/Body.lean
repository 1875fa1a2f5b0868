import DatabaseOperator.Json.Written
import DatabaseOperator.Remote.Call

/-!
# Bodies of the cloud service

What the cloud service is sent and what it answers, as JSON. Its field names are
those of status documents, but for the storage size.

- `Cloud.createBody`, `Cloud.updateBody`, `Cloud.walletBody`: what is sent.
- `Cloud.readDatabase?`, `Cloud.readDatabases?`: the objects of an answer.
- `Cloud.errorText`: what an answer says about a failure.
-/

namespace DatabaseOperator.Cloud

/-- The name of the storage size in bodies. -/
def storageField : String := "dataStorageSizeInTBs"

/-! ## What is sent -/

/-- Where a new database comes from: from nothing, or from another database as a
full clone. -/
def originFields (source : Option String) : List (String × Json) :=
  match source with
  | some id =>
    [("source", .string "DATABASE"), ("sourceId", .string id),
      ("cloneType", .string "FULL")]
  | none => [("source", .string "NONE")]

/-- The body of a call that makes a database; what is not set is left out. -/
def createBody (request : ProvisionRequest) (source : Option String) : Json :=
  .ofPresent
    (request.attributes.fields storageField
      ++ ("adminPassword", .ofOption .string request.adminPassword)
        :: originFields source)

/-- The attributes of a live database that can be changed. -/
def updatableFields : List String :=
  ["displayName", "cpuCoreCount", storageField, "isAutoScalingEnabled",
    "freeformTags", "nsgIds", "privateEndpointLabel", "whitelistedIps"]

/-- The body of a call that changes a database: the changes that can be made,
and no others. -/
def updateBody (changes : RemoteAttributes) : Json :=
  .ofPresent ((changes.fields storageField).filter fun f =>
    updatableFields.contains f.1)

/-- The body of a call that asks for a wallet. -/
def walletBody (password : String) : Json :=
  .object [("password", .string password)]

/-! ## What is answered -/

/-- The names of the fields of a database in their order. -/
def databaseFields : List String :=
  ["id", "lifecycleState", "compartmentId", "displayName", "dbName",
    "dbWorkload", "dbVersion", "isDedicated", "cpuCoreCount", storageField,
    "isAutoScalingEnabled", "freeformTags", "subnetId", "nsgIds",
    "privateEndpointLabel", "whitelistedIps"]

/-- The parts of a database that are read. Of a tag given twice both values are
read, and the last one counts. -/
def databaseShape : Written.Shape :=
  .record
    (databaseFields.map fun name =>
      (name, if name = "freeformTags" then .dict .any else .any))

/-- The database of a JSON value. A state that is not reported is an
unrecognised one without text. -/
def databaseOfJson? (j : Json) : Option Snapshot := do
  let fs ← j.record? databaseFields
  some
    { id := ← Json.required? "id" Json.string? fs
      state := .ofText (← Json.defaulted? "lifecycleState" Json.string? "" fs)
      attributes := ← RemoteAttributes.ofFields? storageField fs }

/-- The database of the text of an answer. -/
def readDatabase? (text : String) : Option Snapshot := do
  databaseOfJson? (← (← Written.read? text).ofShape? databaseShape)

/-- The databases of the text of an answer. -/
def readDatabases? (text : String) : Option (List Snapshot) := do
  Json.list? databaseOfJson?
    (← (← Written.read? text).ofShape? (.list databaseShape))

/-- What an answer says about a failure: its message, else its code, else all of
its text. -/
def errorText (text : String) : String :=
  let words := (Json.parse? text).bind fun j =>
    (j.field? "message").bind Json.string?
      <|> (j.field? "code").bind Json.string?
  words.getD text

/-- The endpoint of the service in a region. -/
def regionalEndpoint (region : String) : String :=
  "https://database." ++ region ++ ".oraclecloud.com"

end DatabaseOperator.Cloud
