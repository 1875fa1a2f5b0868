import DatabaseOperator.Cluster.Connection
import DatabaseOperator.Cluster.Store
import DatabaseOperator.Metrics.Basic
import DatabaseOperator.Pass.Drive

/-!
# Reconciliations

A reconciliation looks at one declared database as the cluster holds it. The
first thing it does is to put its finalizer on, so that the database cannot
disappear before its remote object is dealt with; after that each reconciliation
is a pass, or what is done instead of one.

- `OperatorCall`, `OperatorProgram`: what a reconciliation asks for, and a
  computation that does.
- `Reconciliation`: the database, the settings and the time.
- `Reconciliation.run`: the whole of it.
- `Settings.delayAfterError`: when a reconciliation that failed is repeated.
- `Metrics.countDriven`: what the metrics remember of one.
-/

namespace DatabaseOperator

/-! ## What a reconciliation asks for -/

/-- The calls of a reconciliation: to the cluster's API, for a connection to the
control plane of a database, and to that control plane. -/
inductive OperatorCall where
  | cluster (call : ClusterCall)
  | connect (db : ManagedDatabase)
  | remote (call : RemoteCall)

/-- What becomes of a call. A connection brings the compartment for databases
that name none. -/
@[reducible] def OperatorCall.Answer : OperatorCall → Type
  | cluster call => call.Answer
  | connect _ => Except OperatorError (Option String)
  | remote call => Reply call.Answer

/-- A computation that makes such calls. -/
abbrev OperatorProgram : Type → Type :=
  Program OperatorCall OperatorCall.Answer

/-- A computation that calls the cluster's API alone. -/
def ClusterProgram.toOperator {α : Type} (program : ClusterProgram α) :
    OperatorProgram α :=
  program.substitute fun call => Program.query (OperatorCall.cluster call)

/-- A call of a pass, made on the store of the resource or on its control
plane. -/
def ClusterStore.answer (s : ClusterStore) :
    (call : PassCall) → OperatorProgram (call.Answer × ClusterStore)
  | .remote call => .ask (.remote call) fun reply => .done (reply, s)
  | .store call => (s.perform call).toOperator

/-- A pass, or part of one, over the resource of a store. -/
def ClusterStore.carryOut {α : Type} (s : ClusterStore)
    (program : PassProgram α) : OperatorProgram α :=
  (program.substituteWith ClusterStore.answer s).bind fun (result, _) =>
    .done result

/-! ## The reconciliation -/

/-- One look at a declared database: the database, the settings and the time. -/
structure Reconciliation where
  settings : Settings
  database : ManagedDatabase
  now : Instant

namespace Reconciliation

variable (r : Reconciliation)

/-- The finalizer of this operator is on the database. -/
def isGuarded : Bool :=
  r.database.metadata.finalizerList.contains r.database.kind.finalizer

/-- The finalizer put on, and the time of the next look. -/
def guard : OperatorProgram Driven :=
  (ClusterProgram.toOperator (addFinalizer r.database)).bind fun result =>
    .done (.skipped (result.map fun () => some (.ofSeconds 1)))

/-- The view that the pass has, with the compartment that the connection brings.
Pluggable databases have none. -/
def resourceFor (compartment : Option String) : ManagedResource :=
  match r.database, compartment with
  | .autonomous db, some compartment =>
    (ManagedResource.ofAutonomous db).withDefaultCompartment compartment
  | db, _ => db.view

/-- The pass over the database, once it is known whether its control plane can
be called. -/
def pass (connection : Except OperatorError (Option String)) :
    OperatorProgram Driven :=
  match ClusterStore.ofDatabase? r.database with
  | .error fault => .done (.skipped (.error fault))
  | .ok store =>
    let resource := r.resourceFor (connection.toOption.bind id)
    let p : Pass := { settings := r.settings, resource, now := r.now }
    store.carryOut (p.drive r.database.validate (connection.map fun _ => ()))

/-- The whole reconciliation. A database that is being deleted without the
finalizer is none of the operator's business any more. -/
def run : OperatorProgram Driven :=
  if r.isGuarded then .ask (.connect r.database) r.pass
  else if r.database.metadata.isDeleting then .done (.skipped (.ok none))
  else r.guard

end Reconciliation

/-- The delay after which a reconciliation that failed is repeated. A write that
lost a race is repeated soon. -/
def Settings.delayAfterError (s : Settings) (db : ManagedDatabase)
    (error : OperatorError) : Duration :=
  if error.isConflict then s.conflictRequeue
  else
    s.backoff.delayForError error
      (db.status?.map Status.consecutiveFailures |>.getD 0)

/-! ## Metrics -/

/-- The labels of a resource. -/
def ManagedResource.labels (r : ManagedResource) : ResourceLabels :=
  { namespaceName := r.namespaceName, name := r.name }

namespace Metrics

/-- The metrics after a pass that came to its end. -/
def countOutcome (m : Metrics) (r : ManagedResource) (seconds : Float)
    (o : Pass.Outcome) : Metrics :=
  let m := m.countPass r.labels seconds
  let m := match o.dispatched with
    | some action =>
      m.countAction { kind := r.kind.text, action := action.text }
    | none => m
  let current := if o.finalized then none else o.status.lifecycleState
  m.moveState r.kind.text r.labels
    (r.status.lifecycleState.map LifecycleState.text)
    (current.map LifecycleState.text)

/-- The metrics after a resource was looked at. Without a pass there is nothing
to remember. -/
def countDriven (m : Metrics) (r : ManagedResource) (seconds : Float) :
    Driven → Metrics
  | .passed (.ok o) => m.countOutcome r seconds o
  | .passed (.error _) => m.countError r.labels
  | .skipped _ => m

end Metrics

end DatabaseOperator
