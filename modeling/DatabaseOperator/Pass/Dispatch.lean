import DatabaseOperator.Pass.Basic

/-!
# Sending an action

An action is recorded as under way and stored before it is sent, so that a pass
that comes after a crash knows of it.

- `Pass.readCredentials`: the credentials of an action that makes an object.
- `Pass.carryOut`: the remote call for an action.
- `Pass.afterSuccess`, `Pass.afterFailure`: what its answer means.
- `Pass.dispatch`: all of it in order.
-/

namespace DatabaseOperator.Pass

variable (p : Pass)

/-- The credentials that go with an action, as far as the resource refers to
any. -/
structure Credentials where
  adminName : Option String := none
  adminPassword : Option String := none
deriving DecidableEq

/-- The value behind an optional reference to a Secret. -/
def readReference :
    Option SecretKeyRef → PassProgram (Except OperatorError (Option String))
  | none => .done (.ok none)
  | some r => .ask (.store (.readSecret r.name r.key)) fun
    | .ok value => .done (.ok (some value))
    | .error e => .done (.error e)

/-- The credentials for an action. Only one that makes an object needs them. -/
def readCredentials (action : CorrectiveAction) :
    PassProgram (Except OperatorError Credentials) := do
  if action.createsObject then
    match ← readReference p.resource.adminName with
    | .error e => return .error e
    | .ok adminName =>
      match ← readReference p.resource.adminPassword with
      | .error e => return .error e
      | .ok adminPassword => return .ok { adminName, adminPassword }
  else return .ok {}

/-- What is sent to make the database of this resource. -/
def provisionRequest (credentials : Credentials) : ProvisionRequest where
  attributes := p.resource.provisioningAttributes
  adminPassword := credentials.adminPassword
  retryToken := p.resource.retryToken

/-- A remote call that reports the object it worked on. -/
def reporting (answer : Except RemoteError Snapshot) :
    Except RemoteError (Option Snapshot) :=
  answer.map some

/-- A remote call that reports nothing but its success. -/
def silent (answer : Except RemoteError Unit) :
    Except RemoteError (Option Snapshot) :=
  answer.map fun _ => none

/-- The remote call for a request on a pluggable database. -/
def carryOutPdb (request : PdbRequest) :
    PassProgram (Except RemoteError (Option Snapshot)) := do
  match request.action with
  | .create => return reporting (← p.call (.createPdb request))
  | .clone => return reporting (← p.call (.clonePdb request))
  | .plug => return reporting (← p.call (.plugPdb request))
  | .map => return reporting (← p.call (.mapPdb request))
  | .modify => return reporting (← p.call (.modifyPdb request))
  | .unplug => return silent (← p.call (.unplugPdb request))
  | .delete => return silent (← p.call (.deletePdb request))

/-- A call on the object on record. -/
def onIdentity (identity : Option String)
    (send : String → PassProgram (Except RemoteError (Option Snapshot))) :
    PassProgram (Except RemoteError (Option Snapshot)) :=
  match identity with
  | some id => send id
  | none => .done (.error (.permanent "no remote identity recorded"))

/-- The remote call for an action on the object with an identity. An object that
is bound keeps the identity it is bound by, however the remote spells it. -/
def carryOut (identity : Option String) (action : CorrectiveAction)
    (credentials : Credentials) :
    PassProgram (Except RemoteError (Option Snapshot)) :=
  match action with
  | .provision => do
    match p.resource.cloneSource with
    | some source =>
      return reporting
        (← p.call (.cloneDatabase source (p.provisionRequest credentials)))
    | none =>
      return reporting (← p.call (.create (p.provisionRequest credentials)))
  | .bind id => do
    let found : Except RemoteError Snapshot ← p.call (.get id)
    return reporting (found.map fun snapshot => { snapshot with id })
  | .updateAttributes changes => onIdentity identity fun id => do
    return reporting (← p.call (.update id changes))
  | .changeState target => onIdentity identity fun id => do
    return reporting (← p.call (.changeState id target))
  | .delete _ => onIdentity identity fun id => do
    return silent (← p.call (.delete id))
  | .pdb request =>
    p.carryOutPdb
      (request.withCredentials credentials.adminName credentials.adminPassword)

/-! ## What the answer means -/

/-- The status after an action on a pluggable database that was completed. -/
def completePdb (s : Status) (request : PdbRequest) : Status :=
  let s :=
    { s with lastCompletedAction := some request.signature, inFlight := none }
  match request.action with
  | .unplug => { s with lifecycleState := some .unplugged }
  | .delete => { s with lifecycleState := some .terminated }
  | _ => s

/-- The status after the remote took an action. One on a pluggable database is
complete with that, and so is a binding; any other stays under way until it is
seen to have happened. -/
def afterSuccess (s : Status) (action : CorrectiveAction)
    (snapshot : Option Snapshot) : Status × Duration :=
  let s := { s with consecutiveFailures := 0 }
  let s := match snapshot with
    | some found => observe s found
    | none => s
  let s := match action with
    | .pdb request => completePdb s request
    | .bind _ => { s with inFlight := none }
    | _ => s
  let message := action.kind.text ++ " accepted, remote reports "
    ++ s.observedText
  (s.reportProgressing p.stamp action.phase Reason.actionDispatched message,
    p.settings.pollInterval)

/-- The status after an action failed. A create that may have had its effect all
the same keeps its mark, so that it is not sent twice; one that was refused for
good is not sent again. -/
def afterFailure (s : Status) (action : CorrectiveAction) (e : RemoteError) :
    Status × Duration :=
  let maybeDone := action.createsObject && e.errorClass == .transient
  let s := if maybeDone then s else { s with inFlight := none }
  let s := countFailure s
  let message := action.kind.text ++ " failed: " ++ e.message
  match e.errorClass with
  | .transient =>
    (s.reportRetrying p.stamp Reason.transientFailure message, p.backoffDelay s)
  | .conflict =>
    (s.reportRetrying p.stamp Reason.remoteConflict message,
      p.settings.conflictRequeue)
  | .permanent =>
    let s := { s with failedAction := some action.signature }
    (s.reportFailed p.stamp Reason.actionFailed message,
      p.settings.resyncInterval)

/-! ## In order -/

/-- The status after the credentials for an action could not be read. -/
def afterMissingCredentials (s : Status) (action : CorrectiveAction)
    (e : OperatorError) : Status × Duration :=
  let message := "credentials for " ++ action.kind.text ++ " unavailable: "
    ++ e.message
  let s := countFailure s
  (s.reportRetrying p.stamp Reason.credentialsUnavailable message,
    p.backoffDelay s)

/-- The status that is stored before an action is sent. -/
def markDispatched (s : Status) (action : CorrectiveAction) : Status :=
  { s with inFlight := some (p.pending action.signature) }.reportProgressing
    p.stamp action.phase Reason.actionDispatched (action.kind.text ++ " sent")

/-- The end of a pass that sends an action: credentials, the mark in the store,
the call, and its answer. Without the mark nothing is sent. -/
def dispatch (s persisted : Status) (action : CorrectiveAction) :
    PassProgram (Except OperatorError Outcome) := do
  match ← p.readCredentials action with
  | .error e =>
    let (s, requeue) := p.afterMissingCredentials s action e
    finish { status := s, persisted } requeue
  | .ok credentials =>
    let marked := p.markDispatched s action
    match ← askStore (.saveStatus marked) with
    | .error e => return .error e
    | .ok _ =>
      let (s, requeue) ← do
        match ← p.carryOut marked.identity action credentials with
        | .ok snapshot => pure (p.afterSuccess marked action snapshot)
        | .error e => pure (p.afterFailure marked action e)
      finish
        { status := s, persisted := marked,
          dispatched := some action.kind } requeue

/-! ## Small facts -/

theorem inFlight_markDispatched (s : Status) (action : CorrectiveAction) :
    (p.markDispatched s action).inFlight = some (p.pending action.signature) :=
  rfl

end DatabaseOperator.Pass
