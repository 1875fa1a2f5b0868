import DatabaseOperator.Manifest.Metadata

/-!
# Container databases

A resource that says how the gateway of a container database is reached. The
operator only reads it.

- `ContainerDatabase`: metadata and spec, with `toJson`, `form` and `ofJson?`.
-/

namespace DatabaseOperator

namespace ContainerDatabase

/-- The keys and certificates for the connection to a gateway. -/
structure TlsSpec where
  key : SecretKeyRef
  cert : SecretKeyRef
  ca : Option SecretKeyRef := none
deriving DecidableEq, Repr

/-- How the gateway of a container database is reached. -/
structure Spec where
  cdbName : String
  gatewayUrl : String
  adminUser : SecretKeyRef
  adminPassword : SecretKeyRef
  tls : Option TlsSpec := none
deriving DecidableEq, Repr

end ContainerDatabase

/-- A container database as declared in the cluster. -/
structure ContainerDatabase where
  metadata : Metadata
  spec : ContainerDatabase.Spec
deriving DecidableEq

namespace ContainerDatabase

/-- The JSON form of keys and certificates. -/
def TlsSpec.toJson (t : TlsSpec) : Json :=
  .ofPresent [("key", t.key.toJson), ("cert", t.cert.toJson),
    ("ca", .ofOption SecretKeyRef.toJson t.ca)]

/-- The form of keys and certificates. -/
def TlsSpec.form : Json.Form :=
  .record "struct GatewayTlsSpec" true
    [("key", .required, SecretKeyRef.form),
      ("cert", .required, SecretKeyRef.form),
      ("ca", .optional, SecretKeyRef.form)]

/-- The keys and certificates of a JSON document. -/
def TlsSpec.ofJson? (j : Json) : Option TlsSpec := do
  let fs ← j.record? ["key", "cert", "ca"]
  some
    { key := ← Json.required? "key" SecretKeyRef.ofJson? fs
      cert := ← Json.required? "cert" SecretKeyRef.ofJson? fs
      ca := ← Json.optional? "ca" SecretKeyRef.ofJson? fs }

/-- The JSON form of a spec. -/
def Spec.toJson (s : Spec) : Json :=
  .ofPresent
    [("cdbName", .string s.cdbName),
      ("gatewayUrl", .string s.gatewayUrl),
      ("adminUser", s.adminUser.toJson),
      ("adminPassword", s.adminPassword.toJson),
      ("tls", .ofOption TlsSpec.toJson s.tls)]

/-- The form of a spec. -/
def Spec.form : Json.Form :=
  .record "struct ContainerDatabaseSpec" true
    [("cdbName", .required, .text), ("gatewayUrl", .required, .text),
      ("adminUser", .required, SecretKeyRef.form),
      ("adminPassword", .required, SecretKeyRef.form),
      ("tls", .optional, TlsSpec.form)]

/-- The spec of a JSON document. -/
def Spec.ofJson? (j : Json) : Option Spec := do
  let fs ← j.record? ["cdbName", "gatewayUrl", "adminUser",
    "adminPassword", "tls"]
  some
    { cdbName := ← Json.required? "cdbName" Json.string? fs
      gatewayUrl := ← Json.required? "gatewayUrl" Json.string? fs
      adminUser := ← Json.required? "adminUser" SecretKeyRef.ofJson? fs
      adminPassword := ← Json.required? "adminPassword" SecretKeyRef.ofJson? fs
      tls := ← Json.optional? "tls" TlsSpec.ofJson? fs }

/-- The document of a container database. -/
def toJson (db : ContainerDatabase) : Json :=
  .object
    [("apiVersion", .string apiVersion),
      ("kind", .string "ContainerDatabase"),
      ("metadata", db.metadata.toJson),
      ("spec", db.spec.toJson)]

/-- The form of documents of container databases. -/
def form : Json.Form :=
  .record "struct ContainerDatabase" true
    [("metadata", .required, Metadata.form), ("spec", .required, Spec.form)]

/-- The container database of a document, whatever version and kind the document
claims. -/
def ofJson? (j : Json) : Option ContainerDatabase := do
  let fs ← j.record? ["metadata", "spec"]
  some
    { metadata := ← Json.required? "metadata" Metadata.ofJson? fs
      spec := ← Json.required? "spec" Spec.ofJson? fs }

end ContainerDatabase

end DatabaseOperator
