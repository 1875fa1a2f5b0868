import DatabaseOperator.Manifest.Metadata
import DatabaseOperator.Pluggable.Request
import DatabaseOperator.Status.Basic

/-!
# Pluggable databases

A resource that asks the gateway of a container database for one action on a
pluggable database.

- `PluggableDatabase`: metadata, spec and status, with `toJson`, `form` and
  `ofJson?`.
- `PluggableDatabase.Spec.request`: the action with its parameters, credentials
  left out.
-/

namespace DatabaseOperator

/-- What a resource asks for. With a hard link the pluggable database is dropped
when the resource is deleted. -/
structure PluggableDatabase.Spec where
  cdbRef : String
  pdbName : String
  action : PdbAction
  srcPdbName : Option String := none
  xmlFileName : Option String := none
  fileNameConversions : Option String := none
  sourceFileNameConversions : Option String := none
  copyAction : Option String := none
  totalSize : Option String := none
  tempSize : Option String := none
  unlimitedStorage : Option Bool := none
  reuseTempFile : Option Bool := none
  tdeImport : Option Bool := none
  pdbState : Option PdbState := none
  modifyOption : Option String := none
  dropAction : DropAction := .including
  adminName : Option SecretKeyRef := none
  adminPassword : Option SecretKeyRef := none
  hardLink : Bool := false
deriving DecidableEq, Repr

/-- A pluggable database as declared in the cluster. -/
structure PluggableDatabase where
  metadata : Metadata
  spec : PluggableDatabase.Spec
  status : Option Status := none
deriving DecidableEq

namespace PluggableDatabase

/-- The declared action with its parameters, credentials left out. -/
def Spec.request (s : Spec) : PdbRequest where
  action := s.action
  pdbName := s.pdbName
  srcPdbName := s.srcPdbName
  xmlFileName := s.xmlFileName
  fileNameConversions := s.fileNameConversions
  sourceFileNameConversions := s.sourceFileNameConversions
  copyAction := s.copyAction
  totalSize := s.totalSize
  tempSize := s.tempSize
  unlimitedStorage := s.unlimitedStorage
  reuseTempFile := s.reuseTempFile
  tdeImport := s.tdeImport
  pdbState := s.pdbState
  modifyOption := s.modifyOption
  dropAction := s.dropAction

/-! ## As JSON -/

/-- The names of the fields of a spec in their order. -/
def Spec.fieldNames : List String :=
  ["cdbRef", "pdbName", "action", "srcPdbName", "xmlFileName",
    "fileNameConversions", "sourceFileNameConversions", "copyAction",
    "totalSize", "tempSize", "unlimitedStorage", "reuseTempFile", "tdeImport",
    "pdbState", "modifyOption", "dropAction", "adminName", "adminPassword",
    "hardLink"]

/-- The JSON form of a spec; what is not set is left out. -/
def Spec.toJson (s : Spec) : Json :=
  .ofPresent
    [("cdbRef", .string s.cdbRef),
      ("pdbName", .string s.pdbName),
      ("action", .string s.action.text),
      ("srcPdbName", .ofOption .string s.srcPdbName),
      ("xmlFileName", .ofOption .string s.xmlFileName),
      ("fileNameConversions", .ofOption .string s.fileNameConversions),
      ("sourceFileNameConversions",
        .ofOption .string s.sourceFileNameConversions),
      ("copyAction", .ofOption .string s.copyAction),
      ("totalSize", .ofOption .string s.totalSize),
      ("tempSize", .ofOption .string s.tempSize),
      ("unlimitedStorage", .ofOption .bool s.unlimitedStorage),
      ("reuseTempFile", .ofOption .bool s.reuseTempFile),
      ("tdeImport", .ofOption .bool s.tdeImport),
      ("pdbState", .ofOption (fun p => .string p.text) s.pdbState),
      ("modifyOption", .ofOption .string s.modifyOption),
      ("dropAction", .string s.dropAction.text),
      ("adminName", .ofOption SecretKeyRef.toJson s.adminName),
      ("adminPassword", .ofOption SecretKeyRef.toJson s.adminPassword),
      ("hardLink", .bool s.hardLink)]

/-- The form of a spec. -/
def Spec.form : Json.Form :=
  .record "struct PluggableDatabaseSpec" true
    [("cdbRef", .required, .text), ("pdbName", .required, .text),
      ("action", .required, PdbAction.form), ("srcPdbName", .optional, .text),
      ("xmlFileName", .optional, .text),
      ("fileNameConversions", .optional, .text),
      ("sourceFileNameConversions", .optional, .text),
      ("copyAction", .optional, .text), ("totalSize", .optional, .text),
      ("tempSize", .optional, .text), ("unlimitedStorage", .optional, .flag),
      ("reuseTempFile", .optional, .flag), ("tdeImport", .optional, .flag),
      ("pdbState", .optional, PdbState.form),
      ("modifyOption", .optional, .text),
      ("dropAction", .defaulted, DropAction.form),
      ("adminName", .optional, SecretKeyRef.form),
      ("adminPassword", .optional, SecretKeyRef.form),
      ("hardLink", .defaulted, .flag)]

/-- The spec of a JSON document. -/
def Spec.ofJson? (j : Json) : Option Spec := do
  let fs ← j.record? Spec.fieldNames
  some
    { cdbRef := ← Json.required? "cdbRef" Json.string? fs
      pdbName := ← Json.required? "pdbName" Json.string? fs
      action := ← Json.required? "action" PdbAction.ofJson? fs
      srcPdbName := ← Json.optional? "srcPdbName" Json.string? fs
      xmlFileName := ← Json.optional? "xmlFileName" Json.string? fs
      fileNameConversions :=
        ← Json.optional? "fileNameConversions" Json.string? fs
      sourceFileNameConversions :=
        ← Json.optional? "sourceFileNameConversions" Json.string? fs
      copyAction := ← Json.optional? "copyAction" Json.string? fs
      totalSize := ← Json.optional? "totalSize" Json.string? fs
      tempSize := ← Json.optional? "tempSize" Json.string? fs
      unlimitedStorage := ← Json.optional? "unlimitedStorage" Json.bool? fs
      reuseTempFile := ← Json.optional? "reuseTempFile" Json.bool? fs
      tdeImport := ← Json.optional? "tdeImport" Json.bool? fs
      pdbState := ← Json.optional? "pdbState" PdbState.ofJson? fs
      modifyOption := ← Json.optional? "modifyOption" Json.string? fs
      dropAction :=
        ← Json.defaulted? "dropAction" DropAction.ofJson? .including fs
      adminName := ← Json.optional? "adminName" SecretKeyRef.ofJson? fs
      adminPassword := ← Json.optional? "adminPassword" SecretKeyRef.ofJson? fs
      hardLink := ← Json.defaulted? "hardLink" Json.bool? false fs }

/-- The document of a pluggable database. -/
def toJson (db : PluggableDatabase) : Json :=
  .ofPresent
    [("apiVersion", .string apiVersion),
      ("kind", .string "PluggableDatabase"),
      ("metadata", db.metadata.toJson),
      ("spec", db.spec.toJson),
      ("status", .ofOption Status.toJson db.status)]

/-- The form of documents of pluggable databases. -/
def form : Json.Form :=
  .record "struct PluggableDatabase" true
    [("metadata", .required, Metadata.form), ("spec", .required, Spec.form),
      ("status", .optional, Status.form)]

/-- The pluggable database of a document, whatever version and kind the document
claims. -/
def ofJson? (j : Json) : Option PluggableDatabase := do
  let fs ← j.record? ["metadata", "spec", "status"]
  some
    { metadata := ← Json.required? "metadata" Metadata.ofJson? fs
      spec := ← Json.required? "spec" Spec.ofJson? fs
      status := ← Json.optional? "status" Status.ofJson? fs }

end PluggableDatabase

end DatabaseOperator
