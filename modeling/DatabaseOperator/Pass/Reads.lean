import DatabaseOperator.Pass.Basic

/-!
# What a pass reads

An object with a known identity is read directly. A direct read can lag behind
right after a write, so the list of objects is consulted too whenever an action
is under way or the direct read finds nothing, and where the two disagree the
list is believed.

- `Pass.mergeReads`: a direct read and what the list says, put together.
- `Pass.afterReadError`, `Pass.afterMismatch`, `Pass.afterMissing`: the ways in
  which a read can go wrong.
- `Pass.refresh`: the reads of a pass.
-/

namespace DatabaseOperator.Pass

variable (p : Pass)

/-! ## Failed and contradictory reads -/

/-- A read failed: the failure is reported, and the next pass comes by its
class. -/
def afterReadError (s : Status) (e : RemoteError) : Step :=
  let s := countFailure s
  match e.errorClass with
  | .transient =>
    .stop (s.reportRetrying p.stamp Reason.transientFailure e.message)
      (p.backoffDelay s)
  | .conflict =>
    .stop (s.reportRetrying p.stamp Reason.remoteConflict e.message)
      p.settings.conflictRequeue
  | .permanent =>
    .stop (s.reportFailed p.stamp Reason.actionFailed e.message)
      p.settings.backoff.maxDelay

/-- The direct read and the list disagree on the state, or only the list has the
object. The first disagreement in a row is merely looked at again, the next ones
count as failures. -/
def afterMismatch (s : Status) (direct : Option LifecycleState)
    (listed : Snapshot) : Step :=
  let reported := match direct with
    | some state => state.text
    | none => "not found"
  let message := "direct read reports " ++ reported ++ ", list reports "
    ++ listed.state.text
  let s := observe s listed
  let s := { s with consistencyRetries := s.consistencyRetries + 1 }
  if s.consistencyRetries ≤ 1 then .stop s p.settings.conflictRequeue
  else
    let s := countFailure s
    .stop (s.reportRetrying p.stamp Reason.consistencyMismatch message)
      (p.backoffDelay s)

/-- An action under way is young enough for its object not to be readable
yet. -/
def awaitsAppearance (pending : PendingAction) : Bool :=
  Instant.age pending.since p.now < p.settings.maxWait
    && (isCreateSignature pending.signature
      || isBindSignature pending.signature)

/-- The signature that explains why an object is gone: that of the last
completed action, else of the one under way. -/
def lastSignature (s : Status) : String :=
  (s.lastCompletedAction <|> s.inFlight.map PendingAction.signature).getD ""

/-- Neither the direct read nor the list finds the object. It may be too young,
or this operator has removed it, or it has disappeared. -/
def afterMissing (s : Status) : Step :=
  if s.inFlight.any p.awaitsAppearance then
    .stop
      (s.reportProgressing p.stamp .provisioning Reason.awaitingConfirmation
        "remote object is not readable yet")
      p.settings.pollInterval
  else if isUnplugSignature (lastSignature s)
    then .proceed { s with lifecycleState := some .unplugged }
  else if isDeleteSignature (lastSignature s)
    then .proceed { s with lifecycleState := some .terminated }
  else
    let message := "remote object " ++ s.identity.getD "" ++ " no longer exists"
    let s := { s with lifecycleState := some .terminated, inFlight := none }
    .stop (s.reportFailed p.stamp Reason.remoteObjectMissing message)
      p.settings.resyncInterval

/-! ## Reads put together -/

/-- The snapshot to go by when both reads agree on the state: the list has the
fresher attributes, if any. -/
def fresher (direct : Snapshot) (listed : Option Snapshot) : Snapshot :=
  match listed with
  | some listed => if listed.attributes.isEmpty then direct else listed
  | none => direct

/-- A direct read and what the list says, put together. -/
def mergeReads (s : Status) (direct : Except RemoteError Snapshot)
    (listed : Option Snapshot) : Step :=
  match direct, listed with
  | .ok direct, some listed =>
    if direct.state = listed.state then
      .proceed
        (observe { s with consistencyRetries := 0 }
          (fresher direct (some listed)))
    else p.afterMismatch s (some direct.state) listed
  | .ok direct, none =>
    .proceed (observe { s with consistencyRetries := 0 } direct)
  | .error e, some listed =>
    if e.isNotFound then p.afterMismatch s none listed
    else .proceed (observe s listed)
  | .error e, none =>
    if e.isNotFound then p.afterMissing s else p.afterReadError s e

/-- The list is to be consulted beside a direct read. -/
def consultsList (s : Status) (direct : Except RemoteError Snapshot) : Bool :=
  s.inFlight.isSome || 0 < s.consistencyRetries
    || match direct with
      | .ok _ => false
      | .error e => e.isNotFound

/-! ## The reads -/

/-- What the list says of an object; nothing if the list cannot be read. -/
def findListed (id : String) : PassProgram (Option Snapshot) := do
  match ← p.call (.list p.resource.listFilter) with
  | .ok items => return (items : List Snapshot).find? fun item => item.id == id
  | .error _ => return none

/-- The reads of a pass for an object with a known identity. -/
def refresh (s : Status) (id : String) : PassProgram Step := do
  let direct ← p.call (.get id)
  let listed ← if consultsList s direct then p.findListed id else pure none
  return p.mergeReads s direct listed

end DatabaseOperator.Pass
