import DatabaseOperator.Cluster.Call
import DatabaseOperator.ControlPlane
import DatabaseOperator.Manifest.ContainerDatabase

/-!
# Connections to control planes

Where the control plane of a resource is, and how the operator shows who it is,
stands in the cluster next to the resource.

- `Connection`: a control plane that can be called, and what else its settings
  say.
- `ManagedDatabase.connect`: the connection of a declared database.
-/

namespace DatabaseOperator

/-- A control plane that can be called, and the compartment for databases that
name none. -/
structure Connection where
  plane : ControlPlane
  defaultCompartment : Option String := none
deriving DecidableEq, Repr

namespace Connection

/-- A control plane, or why there is none. -/
def ofPlane (plane : Except RemoteError ControlPlane) :
    ClusterAction ControlPlane :=
  MonadExcept.ofExcept (plane.mapError .remote)

/-- The endpoint that settings name, directly or by a region. -/
def endpoint? (settings : Dict String) : Option String :=
  settings.get? "endpoint"
    <|> (settings.get? "region").map Cloud.regionalEndpoint

/-- The connection to the cloud service that an autonomous database names. -/
def ofAutonomous (db : AutonomousDatabase) : ClusterAction Connection := do
  let namespaceName ← MonadExcept.ofExcept db.metadata.requireNamespace
  let name := db.spec.settings.configMapName
  match ← findObject configMapForm configMapData?
    { kind := .configMap, namespaceName, name } with
  | none => throw (.notFound ("configmap " ++ namespaceName ++ "/" ++ name))
  | some settings =>
    match endpoint? settings with
    | none =>
      throw
        (.invalidConfig
          ("configmap " ++ name ++ " must set region or endpoint"))
    | some endpoint =>
      let token ← readSecretKey namespaceName
        db.spec.settings.secretName "token"
      let plane ← ofPlane ((Cloud.Service.connect? endpoint token).map .cloud)
      return { plane, defaultCompartment := settings.get? "compartment" }

/-- The text that a reference points to, if there is a reference. -/
def readRef? (namespaceName : String) :
    Option SecretKeyRef → ClusterAction (Option String)
  | some r => some <$> readSecretKey namespaceName r.name r.key
  | none => return none

/-- The connection to the gateway that a pluggable database names. -/
def ofPluggable (db : PluggableDatabase) : ClusterAction Connection := do
  let namespaceName ← MonadExcept.ofExcept db.metadata.requireNamespace
  let name := db.spec.cdbRef
  let object : ObjectRef := { kind := .containerDatabase, namespaceName, name }
  match ← findObject ContainerDatabase.form ContainerDatabase.ofJson? object
    with
  | none =>
    throw (.notFound ("containerdatabase " ++ namespaceName ++ "/" ++ name))
  | some container =>
    let spec := container.spec
    let user ← readSecretKey namespaceName spec.adminUser.name
      spec.adminUser.key
    let password ← readSecretKey namespaceName spec.adminPassword.name
      spec.adminPassword.key
    let clientKey ← readRef? namespaceName
      (spec.tls.map ContainerDatabase.TlsSpec.key)
    let clientCert ← readRef? namespaceName
      (spec.tls.map ContainerDatabase.TlsSpec.cert)
    let ca ← readRef? namespaceName (spec.tls.bind ContainerDatabase.TlsSpec.ca)
    let settings : Gateway.Settings :=
      { baseUrl := spec.gatewayUrl
        user
        password
        clientKey
        clientCert
        ca
        dropAction := db.spec.dropAction }
    let plane ← ofPlane ((Gateway.Service.connect? settings).map .gateway)
    return { plane }

end Connection

/-- The connection of a declared database. -/
def ManagedDatabase.connect : ManagedDatabase → ClusterAction Connection
  | autonomous db => Connection.ofAutonomous db
  | pluggable db => Connection.ofPluggable db

end DatabaseOperator
