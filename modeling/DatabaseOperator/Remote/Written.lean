import DatabaseOperator.Remote.Call

/-!
# Remote calls as JSON

How calls to a control plane and what they carry are written down, in logs and
in scripts.

- `PdbRequest.toJson`, `ProvisionRequest.toJson`, `ListFilter.toJson`, with
  `ofJson?` for each: what calls carry. All fields are written, and in reading a
  missing field counts as `null`.
- `Snapshot.ofJson?`: the reverse of `Snapshot.toJson`.
- `RemoteCall.toJson`: a call by its name and what it carries.
-/

namespace DatabaseOperator

/-- A text or `null`. -/
def Json.ofText? : Option String → Json :=
  .ofOption .string

/-- The JSON form of a request for a pluggable database. -/
def PdbRequest.toJson (r : PdbRequest) : Json :=
  .object
    [("action", .string r.action.text),
      ("pdbName", .string r.pdbName),
      ("srcPdbName", .ofText? r.srcPdbName),
      ("xmlFileName", .ofText? r.xmlFileName),
      ("fileNameConversions", .ofText? r.fileNameConversions),
      ("sourceFileNameConversions", .ofText? r.sourceFileNameConversions),
      ("copyAction", .ofText? r.copyAction),
      ("totalSize", .ofText? r.totalSize),
      ("tempSize", .ofText? r.tempSize),
      ("unlimitedStorage", .ofOption .bool r.unlimitedStorage),
      ("reuseTempFile", .ofOption .bool r.reuseTempFile),
      ("tdeImport", .ofOption .bool r.tdeImport),
      ("pdbState", .ofText? (r.pdbState.map PdbState.text)),
      ("modifyOption", .ofText? r.modifyOption),
      ("dropAction", .string r.dropAction.text),
      ("adminName", .ofText? r.adminName),
      ("adminPassword", .ofText? r.adminPassword)]

/-- The request of a JSON document. -/
def PdbRequest.ofJson? : Json → Option PdbRequest
  | .object fs => do
    some
      { action := ← Json.required? "action" PdbAction.ofJson? fs
        pdbName := ← Json.required? "pdbName" Json.string? fs
        srcPdbName := ← Json.optional? "srcPdbName" Json.string? fs
        xmlFileName := ← Json.optional? "xmlFileName" Json.string? fs
        fileNameConversions :=
          ← Json.optional? "fileNameConversions" Json.string? fs
        sourceFileNameConversions :=
          ← Json.optional? "sourceFileNameConversions" Json.string? fs
        copyAction := ← Json.optional? "copyAction" Json.string? fs
        totalSize := ← Json.optional? "totalSize" Json.string? fs
        tempSize := ← Json.optional? "tempSize" Json.string? fs
        unlimitedStorage := ← Json.optional? "unlimitedStorage" Json.bool? fs
        reuseTempFile := ← Json.optional? "reuseTempFile" Json.bool? fs
        tdeImport := ← Json.optional? "tdeImport" Json.bool? fs
        pdbState := ← Json.optional? "pdbState" PdbState.ofJson? fs
        modifyOption := ← Json.optional? "modifyOption" Json.string? fs
        dropAction :=
          (← Json.optional? "dropAction" DropAction.ofJson? fs).getD .including
        adminName := ← Json.optional? "adminName" Json.string? fs
        adminPassword := ← Json.optional? "adminPassword" Json.string? fs }
  | _ => none

/-- The JSON form of a request for a new database. -/
def ProvisionRequest.toJson (r : ProvisionRequest) : Json :=
  .object
    [("attributes", r.attributes.toJson),
      ("adminPassword", .ofText? r.adminPassword),
      ("retryToken", .ofText? r.retryToken)]

/-- The request of a JSON document. -/
def ProvisionRequest.ofJson? : Json → Option ProvisionRequest
  | .object fs => do
    some
      { attributes :=
          (← Json.optional? "attributes" RemoteAttributes.ofJson? fs).getD {}
        adminPassword := ← Json.optional? "adminPassword" Json.string? fs
        retryToken := ← Json.optional? "retryToken" Json.string? fs }
  | _ => none

/-- The JSON form of a list filter. -/
def ListFilter.toJson (f : ListFilter) : Json :=
  .object [("compartmentId", .ofText? f.compartmentId),
    ("displayName", .ofText? f.displayName)]

/-- The list filter of a JSON document. -/
def ListFilter.ofJson? : Json → Option ListFilter
  | .object fs => do
    some
      { compartmentId := ← Json.optional? "compartmentId" Json.string? fs
        displayName := ← Json.optional? "displayName" Json.string? fs }
  | _ => none

/-- The snapshot of a JSON document. -/
def Snapshot.ofJson? : Json → Option Snapshot
  | .object fs => do
    some
      { id := ← Json.required? "id" Json.string? fs
        state := ← Json.required? "state" LifecycleState.ofJson? fs
        attributes :=
          (← Json.optional? "attributes" RemoteAttributes.ofJson? fs).getD {} }
  | _ => none

namespace RemoteCall

/-- What a call carries. -/
def arguments : RemoteCall → Json
  | get id | delete id => .string id
  | list filter => filter.toJson
  | create request => request.toJson
  | cloneDatabase source request => .array [.string source, request.toJson]
  | update id changes => .array [.string id, changes.toJson]
  | changeState id target => .array [.string id, target.toJson]
  | downloadWallet id password => .array [.string id, .string password]
  | createPdb r | clonePdb r | plugPdb r | unplugPdb r | modifyPdb r
  | deletePdb r | mapPdb r => r.toJson

/-- A call by its name and what it carries. -/
def toJson (c : RemoteCall) : Json :=
  .array [.string c.name, c.arguments]

end RemoteCall

end DatabaseOperator
