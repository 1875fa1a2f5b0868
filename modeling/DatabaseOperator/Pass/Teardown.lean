import DatabaseOperator.Lifecycle.Deletion
import DatabaseOperator.Pass.Tracking

/-!
# Passes over a resource that is being deleted

Deletion comes before everything else. Without a hard link the resource is let
go at once; with one its remote object is torn down first.

- `Pass.locate`: what the remote knows of the object.
- `Pass.afterDeleteFailure`: the delete call failed.
- `Pass.tearDown`: the whole of such a pass.
-/

namespace DatabaseOperator.Pass

variable (p : Pass)

/-- The signature of the delete call. -/
def deleteSignature : String :=
  (CorrectiveAction.delete true).signature

/-- The status with what the remote knows of the object, and the observed state;
`none` if neither a direct read nor the list finds it. Any other failure of the
direct read ends the pass. -/
def locate (s : Status) (id : String) :
    PassProgram (Except RemoteError (Status × Option LifecycleState)) := do
  match ← p.call (.get id) with
  | .ok snapshot =>
    let s := observe s snapshot
    return .ok (s, s.lifecycleState)
  | .error e =>
    if e.isNotFound then
      match ← p.findListed id with
      | some listed =>
        let s := observe s listed
        return .ok (s, s.lifecycleState)
      | none => return .ok (s, none)
    else return .error e

/-- The age of a delete call that is under way. -/
def deleteAge (s : Status) : Option Duration :=
  (s.inFlight.filter fun pending => pending.signature == deleteSignature).map
    fun pending =>
    Instant.age pending.since p.now

/-- The status after the delete call failed. The resource is kept, however the
call failed. -/
def afterDeleteFailure (s : Status) (e : RemoteError) : Status × Duration :=
  let s := countFailure { s with inFlight := none }
  let message := "delete failed: " ++ e.message
  match e.errorClass with
  | .transient =>
    (s.reportRetrying p.stamp Reason.transientFailure message, p.backoffDelay s)
  | .conflict =>
    (s.reportRetrying p.stamp Reason.remoteConflict message,
      p.settings.conflictRequeue)
  | .permanent =>
    (s.reportFailed p.stamp Reason.actionFailed message,
      p.settings.backoff.maxDelay)

/-- The delete call, marked in the store before it is sent. An object that is
not there any more lets the resource go. -/
def sendDelete (s : Status) (id : String) :
    PassProgram (Except OperatorError Outcome) := do
  let marked := { s with inFlight := some (p.pending deleteSignature) }
  match ← askStore (.saveStatus marked) with
  | .error e => return .error e
  | .ok _ =>
    let sent : Progress :=
      { status := marked, persisted := marked, dispatched := some .delete }
    match ← p.call (.delete id) with
    | .ok _ =>
      finish { sent with status := { marked with consecutiveFailures := 0 } }
        p.settings.pollInterval
    | .error e =>
      if e.isNotFound then release sent
      else
        let (s, requeue) := p.afterDeleteFailure marked e
        finish { sent with status := s } requeue

/-- The teardown of the object with an identity. -/
def tearDownObject (s persisted : Status) (id : String) :
    PassProgram (Except OperatorError Outcome) := do
  match ← p.locate s id with
  | .error e =>
    match p.afterReadError s e with
    | .stop s requeue => finish { status := s, persisted } requeue
    | .proceed s => finish { status := s, persisted } p.settings.pollInterval
  | .ok (s, observed) =>
    match nextDeletionStep p.resource.hardLink (some id) observed
      (p.deleteAge s) p.settings.maxWait
        p.settings.pollInterval with
    | .release => release { status := s, persisted }
    | .awaitTeardown delay =>
      finish
        { status :=
            s.reportDeleting p.stamp
              "waiting for the remote object to terminate"
          persisted }
        delay
    | .dispatch => p.sendDelete s id

/-- A pass over a resource that is being deleted. An object whose creation was
sent is waited for, so that it can be removed; without any object the resource
is let go. -/
def tearDown (s persisted : Status) :
    PassProgram (Except OperatorError Outcome) := do
  if !p.resource.hardLink then release { status := s, persisted }
  else
    let s := s.reportDeleting p.stamp "terminating remote object"
    match ←
      if s.identity.isNone then p.recoverCreate s else pure (.proceed s) with
    | .stop s requeue =>
      finish
        { status :=
            s.reportDeleting p.stamp
              "waiting for an earlier create before terminating"
          persisted }
        requeue
    | .proceed s =>
      match s.identity with
      | none => release { status := s, persisted }
      | some id => p.tearDownObject s persisted id

end DatabaseOperator.Pass
