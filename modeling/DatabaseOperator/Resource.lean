import DatabaseOperator.Manifest.AutonomousDatabase
import DatabaseOperator.Manifest.PluggableDatabase
import DatabaseOperator.Remote.Call

/-!
# Managed resources

What a pass needs to know of a resource, whichever kind it is of.

- `ManagedResource`: the common view.
- `ManagedResource.ofAutonomous`, `ManagedResource.ofPluggable`: the view of
  each kind.
- `ManagedResource.retryToken`: the token by which a repeated create is
  recognised.
- `ManagedResource.withDefaultCompartment`: the view completed from the settings
  of the cloud service.
-/

namespace DatabaseOperator

/-- The kinds of managed resource. -/
inductive ResourceKind where
  | autonomousDatabase
  | pluggableDatabase
deriving DecidableEq, Repr

/-- The name of a kind. -/
def ResourceKind.text : ResourceKind → String
  | autonomousDatabase => "AutonomousDatabase"
  | pluggableDatabase => "PluggableDatabase"

/-- Where a wallet is stored, and the password that protects it. Without a
password the wallet stays pending. -/
structure WalletTarget where
  secretName : String
  password : Option SecretKeyRef := none
deriving DecidableEq, Repr

/-- The common view of a managed resource. -/
structure ManagedResource where
  kind : ResourceKind
  name : String
  namespaceName : String
  uid : Option String := none
  generation : Option Int64 := none
  adoptIdentity : Option String := none
  desiredAttributes : RemoteAttributes := {}
  provisioningAttributes : RemoteAttributes := {}
  desiredState : Option LifecycleState := none
  cloneSource : Option String := none
  adminName : Option SecretKeyRef := none
  adminPassword : Option SecretKeyRef := none
  pdbRequest : Option PdbRequest := none
  hardLink : Bool := false
  deletionRequested : Bool := false
  wallet : Option WalletTarget := none
  listFilter : ListFilter := {}
  status : Status := {}
deriving DecidableEq

namespace ManagedResource

/-- A missing remote object can be made. -/
def canProvision (r : ManagedResource) : Bool :=
  match r.kind with
  | .autonomousDatabase => true
  | .pluggableDatabase =>
    r.pdbRequest.any fun request => request.action.isProvisioning

/-- The token that every create for this resource carries, the same in all
passes. -/
def retryToken (r : ManagedResource) : Option String :=
  r.uid.map fun uid => r.name ++ "-" ++ uid

/-- The view of an autonomous database. One that was bound and does not declare
a compartment is looked for in the compartment it was last seen in. -/
def ofAutonomous (db : AutonomousDatabase) : ManagedResource :=
  let details := db.spec.details
  let status := db.status.getD {}
  { kind := .autonomousDatabase
    name := db.metadata.anyName
    namespaceName := db.metadata.namespaceName.getD ""
    uid := db.metadata.uid
    generation := db.metadata.generation
    adoptIdentity := details.autonomousDatabaseId
    desiredAttributes := details.comparable
    provisioningAttributes := details.provisioning
    desiredState := details.lifecycleState
    cloneSource := details.cloneSource
    adminPassword := details.adminPassword
    hardLink := db.spec.hardLink
    deletionRequested := db.metadata.isDeleting
    wallet := details.wallet.map fun w =>
      { secretName := db.walletSecretName, password := w.password }
    listFilter :=
      { compartmentId :=
          details.compartmentId
            <|> status.snapshot.bind RemoteAttributes.compartmentId
        displayName := details.displayName }
    status }

/-- The view of a pluggable database. One that is only changed or removed is
known by its name. -/
def ofPluggable (db : PluggableDatabase) : ManagedResource :=
  { kind := .pluggableDatabase
    name := db.metadata.anyName
    namespaceName := db.metadata.namespaceName.getD ""
    uid := db.metadata.uid
    generation := db.metadata.generation
    adoptIdentity :=
      if db.spec.action.givesIdentity then none else some db.spec.pdbName
    adminName := db.spec.adminName
    adminPassword := db.spec.adminPassword
    pdbRequest := some db.spec.request
    hardLink := db.spec.hardLink
    deletionRequested := db.metadata.isDeleting
    listFilter := { displayName := some db.spec.pdbName }
    status := db.status.getD {} }

/-- The view with a compartment to fall back on where the spec names none. -/
def withDefaultCompartment (r : ManagedResource) (compartment : String) :
    ManagedResource :=
  { r with
    provisioningAttributes :=
      { r.provisioningAttributes with
        compartmentId := r.provisioningAttributes.compartmentId
          <|> some compartment }
    listFilter :=
      { r.listFilter with
        compartmentId := r.listFilter.compartmentId <|> some compartment } }

/-- The view without a request for a pluggable database. -/
def withoutPdbRequest (r : ManagedResource) : ManagedResource :=
  { r with pdbRequest := none, adoptIdentity := none }

end ManagedResource

end DatabaseOperator
