import DatabaseOperator.Json.Form

/-!
# Metadata of cluster objects

The part that every object of the cluster has in common.

- `OwnerReference`: the object that another one belongs to and goes with.
- `ManagedFields`: a note on who manages which fields of an object.
- `Metadata`: names, versions, finalizers, the mark of a requested deletion, and
  what the operator only passes on.
- `Metadata.anyName`: the name of an object, or what its name is to be made
  from.
- `SecretKeyRef`: a reference to one key of a Secret.
- `apiVersion`: the version under which the kinds of this operator are served.

Each has a `toJson`, an `ofJson?`, and a `form` that says what its documents
look like.
-/

namespace DatabaseOperator

/-- The API group of the kinds of this operator. -/
def apiGroup : String := "database.oracle.com"

/-- The group and version of the kinds of this operator. -/
def apiVersion : String := apiGroup ++ "/v1alpha1"

/-! ## Parts of metadata -/

/-- The object that another one belongs to. -/
structure OwnerReference where
  apiVersion : String
  kind : String
  name : String
  uid : String
  controller : Option Bool := none
  blockOwnerDeletion : Option Bool := none
deriving DecidableEq, Repr

namespace OwnerReference

/-- The JSON form of a reference to an owner. -/
def toJson (o : OwnerReference) : Json :=
  .ofPresent
    [("apiVersion", .string o.apiVersion),
      ("kind", .string o.kind),
      ("name", .string o.name),
      ("uid", .string o.uid),
      ("controller", .ofOption .bool o.controller),
      ("blockOwnerDeletion", .ofOption .bool o.blockOwnerDeletion)]

/-- The form of a reference to an owner. -/
def form : Json.Form :=
  .record "OwnerReference" false
    [("apiVersion", .optional, .text), ("blockOwnerDeletion", .optional, .flag),
      ("controller", .optional, .flag), ("kind", .optional, .text),
      ("name", .optional, .text), ("uid", .optional, .text)]

/-- The reference to an owner of a JSON document. Texts that are missing are
empty. -/
def ofJson? : Json → Option OwnerReference
  | .object fs => do
    some
      { apiVersion := (← Json.optional? "apiVersion" Json.string? fs).getD ""
        kind := (← Json.optional? "kind" Json.string? fs).getD ""
        name := (← Json.optional? "name" Json.string? fs).getD ""
        uid := (← Json.optional? "uid" Json.string? fs).getD ""
        controller := ← Json.optional? "controller" Json.bool? fs
        blockOwnerDeletion :=
          ← Json.optional? "blockOwnerDeletion" Json.bool? fs }
  | _ => none

end OwnerReference

/-- The instant of a JSON text. -/
def Instant.ofJson? (j : Json) : Option Instant := do
  ofLenient? (← j.string?)

/-- A timestamp of metadata as JSON, to the second. -/
def Instant.toJson (t : Instant) : Json :=
  .string t.wholeSeconds

/-- A note on who manages which fields of an object. -/
structure ManagedFields where
  apiVersion : Option String := none
  fieldsType : Option String := none
  fields : Option Json := none
  manager : Option String := none
  operation : Option String := none
  subresource : Option String := none
  time : Option Instant := none
deriving DecidableEq

namespace ManagedFields

/-- The JSON form of a note. -/
def toJson (m : ManagedFields) : Json :=
  .ofPresent
    [("apiVersion", .ofOption .string m.apiVersion),
      ("fieldsType", .ofOption .string m.fieldsType),
      ("fieldsV1", m.fields.getD .null),
      ("manager", .ofOption .string m.manager),
      ("operation", .ofOption .string m.operation),
      ("subresource", .ofOption .string m.subresource),
      ("time", .ofOption Instant.toJson m.time)]

/-- The form of a note. -/
def form : Json.Form :=
  .record "ManagedFieldsEntry" false
    [("apiVersion", .optional, .text), ("fieldsType", .optional, .text),
      ("fieldsV1", .optional, .any), ("manager", .optional, .text),
      ("operation", .optional, .text), ("subresource", .optional, .text),
      ("time", .optional, .instant)]

/-- The note of a JSON document. -/
def ofJson? : Json → Option ManagedFields
  | .object fs => do
    some
      { apiVersion := ← Json.optional? "apiVersion" Json.string? fs
        fieldsType := ← Json.optional? "fieldsType" Json.string? fs
        fields := ← Json.optional? "fieldsV1" some fs
        manager := ← Json.optional? "manager" Json.string? fs
        operation := ← Json.optional? "operation" Json.string? fs
        subresource := ← Json.optional? "subresource" Json.string? fs
        time := ← Json.optional? "time" Instant.ofJson? fs }
  | _ => none

end ManagedFields

/-! ## Metadata -/

/-- The metadata of an object; nothing here has to be set. -/
structure Metadata where
  name : Option String := none
  generateName : Option String := none
  namespaceName : Option String := none
  uid : Option String := none
  generation : Option Int64 := none
  resourceVersion : Option String := none
  labels : Option (Dict String) := none
  annotations : Option (Dict String) := none
  finalizers : Option (List String) := none
  ownerReferences : Option (List OwnerReference) := none
  managedFields : Option (List ManagedFields) := none
  selfLink : Option String := none
  creationTimestamp : Option Instant := none
  deletionTimestamp : Option Instant := none
  deletionGracePeriodSeconds : Option Int64 := none
deriving DecidableEq

/-- The reference to an object of one of the operator's kinds as the controlling
owner. -/
def OwnerReference.ofMetadata (kind : String) (m : Metadata) :
    OwnerReference where
  apiVersion := DatabaseOperator.apiVersion
  kind
  name := (m.name <|> m.generateName).getD ""
  uid := m.uid.getD ""
  controller := some true
  blockOwnerDeletion := some true

namespace Metadata

/-- The name of the object, else the stem that its name is made from. -/
def anyName (m : Metadata) : String :=
  (m.name <|> m.generateName).getD ""

/-- The finalizers on the object. -/
def finalizerList (m : Metadata) : List String :=
  m.finalizers.getD []

/-- Someone asked for the object to be deleted. -/
def isDeleting (m : Metadata) : Bool :=
  m.deletionTimestamp.isSome

/-- The JSON form of metadata; what is not set is left out. -/
def toJson (m : Metadata) : Json :=
  .ofPresent
    [("name", .ofOption .string m.name),
      ("generateName", .ofOption .string m.generateName),
      ("namespace", .ofOption .string m.namespaceName),
      ("uid", .ofOption .string m.uid),
      ("generation", .ofOption (fun g => .int g.toInt) m.generation),
      ("resourceVersion", .ofOption .string m.resourceVersion),
      ("labels", .ofOption Json.ofTexts m.labels),
      ("annotations", .ofOption Json.ofTexts m.annotations),
      ("finalizers", .ofOption Json.ofStrings m.finalizers),
      ("ownerReferences",
        .ofOption (fun os => .array (os.map OwnerReference.toJson))
          m.ownerReferences),
      ("managedFields",
        .ofOption (fun ms => .array (ms.map ManagedFields.toJson))
          m.managedFields),
      ("selfLink", .ofOption .string m.selfLink),
      ("creationTimestamp", .ofOption Instant.toJson m.creationTimestamp),
      ("deletionTimestamp", .ofOption Instant.toJson m.deletionTimestamp),
      ("deletionGracePeriodSeconds",
        .ofOption (fun s => .int s.toInt) m.deletionGracePeriodSeconds)]

/-- The form of metadata. -/
def form : Json.Form :=
  .record "ObjectMeta" false
    [("annotations", .optional, .dict .text),
      ("creationTimestamp", .optional, .instant),
      ("deletionGracePeriodSeconds", .optional, .int64),
      ("deletionTimestamp", .optional, .instant),
      ("finalizers", .optional, .list .text),
      ("generateName", .optional, .text), ("generation", .optional, .int64),
      ("labels", .optional, .dict .text),
      ("managedFields", .optional, .list ManagedFields.form),
      ("name", .optional, .text), ("namespace", .optional, .text),
      ("ownerReferences", .optional, .list OwnerReference.form),
      ("resourceVersion", .optional, .text), ("selfLink", .optional, .text),
      ("uid", .optional, .text)]

/-- The metadata of a JSON document, which has to be an object. -/
def ofJson? : Json → Option Metadata
  | .object fs => do
    some
      { name := ← Json.optional? "name" Json.string? fs
        generateName := ← Json.optional? "generateName" Json.string? fs
        namespaceName := ← Json.optional? "namespace" Json.string? fs
        uid := ← Json.optional? "uid" Json.string? fs
        generation := ← Json.optional? "generation" Json.int64? fs
        resourceVersion := ← Json.optional? "resourceVersion" Json.string? fs
        labels := ← Json.optional? "labels" Json.texts? fs
        annotations := ← Json.optional? "annotations" Json.texts? fs
        finalizers := ← Json.optional? "finalizers" Json.strings? fs
        ownerReferences :=
          ← Json.optional? "ownerReferences"
            (Json.list? OwnerReference.ofJson?) fs
        managedFields :=
          ← Json.optional? "managedFields" (Json.list? ManagedFields.ofJson?) fs
        selfLink := ← Json.optional? "selfLink" Json.string? fs
        creationTimestamp :=
          ← Json.optional? "creationTimestamp" Instant.ofJson? fs
        deletionTimestamp :=
          ← Json.optional? "deletionTimestamp" Instant.ofJson? fs
        deletionGracePeriodSeconds :=
          ← Json.optional? "deletionGracePeriodSeconds" Json.int64? fs }
  | _ => none

end Metadata

/-! ## References to Secrets -/

/-- One key of a Secret in the namespace of the resource. -/
structure SecretKeyRef where
  name : String
  key : String
deriving DecidableEq, Repr

namespace SecretKeyRef

/-- The JSON form of a reference. -/
def toJson (r : SecretKeyRef) : Json :=
  .object [("name", .string r.name), ("key", .string r.key)]

/-- The form of a reference. -/
def form : Json.Form :=
  .record "struct SecretKeyRef" true [("name", .required, .text),
    ("key", .required, .text)]

/-- The reference of a JSON document. -/
def ofJson? (j : Json) : Option SecretKeyRef := do
  let fs ← j.record? ["name", "key"]
  some
    { name := ← Json.required? "name" Json.string? fs
      key := ← Json.required? "key" Json.string? fs }

end SecretKeyRef

end DatabaseOperator
