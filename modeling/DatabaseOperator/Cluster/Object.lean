import DatabaseOperator.Manifest.Managed

/-!
# Objects of the cluster

- `ObjectKind`: the kinds of object that the operator reads or writes.
- `ObjectRef`: one object, by its kind, namespace and name.
- `ObjectRef.path`: where the cluster's API serves it.
- `Metadata.requireNamespace`: the namespace of a resource that is to be read or
  written.
-/

namespace DatabaseOperator

/-- The kinds of object that the operator reads or writes. -/
inductive ObjectKind where
  | autonomousDatabase
  | pluggableDatabase
  | containerDatabase
  | secret
  | configMap
deriving DecidableEq, Repr

namespace ObjectKind

/-- All kinds. -/
def all : List ObjectKind :=
  [autonomousDatabase, pluggableDatabase, containerDatabase, secret, configMap]

/-- The name of a kind. -/
def text : ObjectKind → String
  | autonomousDatabase => "AutonomousDatabase"
  | pluggableDatabase => "PluggableDatabase"
  | containerDatabase => "ContainerDatabase"
  | secret => "Secret"
  | configMap => "ConfigMap"

/-- The kind of a name. -/
def ofText? (name : String) : Option ObjectKind :=
  all.find? fun kind => kind.text == name

/-- The name of the objects of a kind in paths. -/
def plural : ObjectKind → String
  | autonomousDatabase => "autonomousdatabases"
  | pluggableDatabase => "pluggabledatabases"
  | containerDatabase => "containerdatabases"
  | secret => "secrets"
  | configMap => "configmaps"

/-- The part of the API that serves a kind. -/
def api : ObjectKind → String
  | autonomousDatabase | pluggableDatabase | containerDatabase =>
    "/apis/" ++ apiVersion
  | secret | configMap => "/api/v1"

end ObjectKind

/-- The kind of object that resources of a kind are. -/
def ResourceKind.objectKind : ResourceKind → ObjectKind
  | autonomousDatabase => .autonomousDatabase
  | pluggableDatabase => .pluggableDatabase

/-- One object of the cluster. -/
structure ObjectRef where
  kind : ObjectKind
  namespaceName : String
  name : String
deriving DecidableEq, Repr

/-- The path under which the API serves an object. -/
def ObjectRef.path (r : ObjectRef) : String :=
  r.kind.api ++ "/namespaces/" ++ r.namespaceName ++ "/" ++ r.kind.plural
    ++ "/" ++ r.name

/-- The namespace of a resource, which it has to have. -/
def Metadata.requireNamespace (m : Metadata) : Except OperatorError String :=
  match m.namespaceName with
  | some n => .ok n
  | none => .error (.missingKey ".metadata.namespace")

/-! ## Small facts -/

theorem ResourceKind.text_objectKind (kind : ResourceKind) :
    kind.objectKind.text = kind.text := by
  cases kind <;> rfl

end DatabaseOperator
