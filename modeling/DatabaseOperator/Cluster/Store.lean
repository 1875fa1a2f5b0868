import DatabaseOperator.Cluster.Call
import DatabaseOperator.Pass.Call
import DatabaseOperator.Status.Patch

/-!
# The store of a resource in the cluster

What a pass keeps is kept in the cluster: the status in the resource itself,
wallets in Secrets next to it. A write of the status names the version that was
last seen, so that one that lost a race is refused.

- `ClusterStore`: the resource whose store it is, and the version of it last
  seen.
- `ClusterStore.ofDatabase?`: the store of a declared database.
- `ClusterStore.perform`: a call to the store carried out.
- `addFinalizer`: the mark by which the operator keeps a resource.
-/

namespace DatabaseOperator

/-- The store of a resource: the resource, how others refer to it, and the
version of it last seen. -/
structure ClusterStore where
  kind : ResourceKind
  namespaceName : String
  name : String
  owner : OwnerReference
  version : Option String
deriving DecidableEq

namespace ClusterStore

/-- The store of a declared database. -/
def ofDatabase? (db : ManagedDatabase) : Except OperatorError ClusterStore :=
  db.metadata.requireNamespace.map fun namespaceName =>
    { kind := db.kind
      namespaceName
      name := db.metadata.anyName
      owner := .ofMetadata db.kind.text db.metadata
      version := db.metadata.resourceVersion }

variable (s : ClusterStore)

/-- The resource itself. -/
def object : ObjectRef where
  kind := s.kind.objectKind
  namespaceName := s.namespaceName
  name := s.name

/-- A Secret next to the resource. -/
def secret (name : String) : ObjectRef where
  kind := .secret
  namespaceName := s.namespaceName
  name

/-- The metadata of the resource as the cluster answers it. -/
def metadata? (j : Json) : Option Metadata :=
  (s.kind.read? j).map ManagedDatabase.metadata

/-- The status written over the version last seen. The version that the cluster
answers is the one last seen from then on. -/
def saveStatus (status : Status) :
    ClusterProgram (Except OperatorError Unit × ClusterStore) :=
  (ClusterCall.patchStatus s.object (statusPatch status s.version)).send.bind
    fun
    | .error e => .done (.error (.cluster e), s)
    | .ok j =>
      match readAnswer s.kind.form s.metadata? j with
      | .ok m => .done (.ok (), { s with version := m.resourceVersion })
      | .error e => .done (.error e, s)

/-- The change of metadata that sets the finalizers of a version; without any
the field is removed. -/
def finalizersPatch (version : Option String) (finalizers : List String) :
    Json :=
  .object
    [("metadata", .object
      [("resourceVersion", .ofOption .string version),
        ("finalizers", if finalizers.isEmpty then .null
          else .ofStrings finalizers)])]

/-- The finalizer of this operator taken off, those of others staying. -/
def releaseFinalizer : ClusterAction Unit := do
  let current ← readObject s.kind.form s.metadata? s.object
  let others := current.finalizerList.filter fun f => f != s.kind.finalizer
  let _ ← askCluster
    (.patch s.object (finalizersPatch current.resourceVersion others))

/-- A Secret next to the resource is there and has content. -/
def secretHasData (name : String) : ClusterAction Bool := do
  return (← findObject Secret.form Secret.ofJson? (s.secret name)).any
    Secret.hasData

/-- A Secret that belongs to the resource written, whatever was there before. -/
def writeSecret (name : String) (data : Dict ByteArray) :
    ClusterAction Unit := do
  let _ ← askCluster
    (.apply (s.secret name) (walletSecret s.owner name s.namespaceName data))

/-- A call that leaves the version last seen as it is. -/
def keeping {α : Type} (action : ClusterAction α) :
    ClusterProgram (Except OperatorError α × ClusterStore) :=
  action.run.bind fun result => .done (result, s)

/-- A call to the store carried out. -/
def perform :
    (c : StoreCall) →
      ClusterProgram (Except OperatorError c.Answer × ClusterStore)
  | .saveStatus status => s.saveStatus status
  | .releaseFinalizer => s.keeping s.releaseFinalizer
  | .readSecret name key => s.keeping (readSecretKey s.namespaceName name key)
  | .secretHasData name => s.keeping (s.secretHasData name)
  | .writeSecret name data => s.keeping (s.writeSecret name data)

end ClusterStore

/-- The finalizer of this operator put on a declared database, behind those of
others. -/
def addFinalizer (db : ManagedDatabase) : ClusterAction Unit := do
  let s ← MonadExcept.ofExcept (ClusterStore.ofDatabase? db)
  let finalizers := db.metadata.finalizerList ++ [db.kind.finalizer]
  let _ ← askCluster
    (.patch s.object (ClusterStore.finalizersPatch s.version finalizers))

end DatabaseOperator
