import DatabaseOperator.Pass.Basic
import DatabaseOperator.Wallet

/-!
# Nothing left to do

The end of a pass that needs no action: the observed state is reported, and a
database that is ready gets its wallet stored.

- `Pass.completeOneShot`: an object that is there completes the action that was
  to bring it.
- `Pass.reportState`: what the observed state amounts to.
- `Pass.settle`: the whole ending.
-/

namespace DatabaseOperator.Pass

variable (p : Pass)

/-- The operator has removed the object itself, so its absence is no
surprise. -/
def teardownExpected (s : Status) : Bool :=
  s.lastCompletedAction.any fun signature => isDeleteSignature signature
    || isUnplugSignature signature

/-- An object on record completes the action that was to make or find it, even
if its answer was lost. -/
def completeOneShot (s : Status) : Status :=
  match p.resource.pdbRequest with
  | some request =>
    if s.identity.isSome && request.action.givesIdentity
      && s.lastCompletedAction != some request.signature then
      { s with lastCompletedAction := some request.signature, inFlight := none }
    else s
  | none => s

/-- The status at the beginning of the ending: nothing is waiting, and no action
that failed is needed any more. -/
def forgetObstacles (s : Status) : Status :=
  let failed := s.failedAction.isSome
  let s := { s with waiting := none, failedAction := none }
  if failed then s.clearFailed p.stamp else s

/-- The phase while the remote is in the middle of a change. -/
def transitionPhase (state : LifecycleState) : Phase :=
  if state = .provisioning then .provisioning else .updating

/-- What an observed state amounts to. A state that is none of the special ones
leaves the rest to do. -/
def reportState (s : Status) (state : LifecycleState) : Step :=
  let seen := "remote reports " ++ state.text
  if state = .failed then
    .stop (s.reportFailed p.stamp Reason.remoteFailed seen)
      p.settings.resyncInterval
  else if state = .terminated ∧ !teardownExpected s then
    .stop
      (s.reportFailed p.stamp Reason.remoteObjectMissing
        "remote object was terminated outside this controller")
      p.settings.resyncInterval
  else if state.isUnrecognised then
    .stop
      (s.reportProgressing p.stamp .updating Reason.remoteTransition
        ("remote reports unrecognised state " ++ state.text))
      p.settings.pollInterval
  else if state.isTornDown && teardownExpected s then
    .stop ({ s with consecutiveFailures := 0 }.reportTerminated p.stamp seen)
      p.settings.resyncInterval
  else if state.isTransitional then
    .stop
      (s.reportProgressing p.stamp
        (transitionPhase state) Reason.remoteTransition seen)
        p.settings.pollInterval
  else .proceed s

/-- The wallet of a database that is ready. The rest of the pass follows only if
it is stored or not wanted. -/
def bringWallet (s : Status) : PassProgram Step :=
  match p.resource.wallet, s.identity with
  | some target, some identity => do
    match ← materializeWallet target identity with
    | .ok _ => return .proceed { s with walletSecret := some target.secretName }
    | .error e =>
      let s := countFailure s
      return .stop
        (s.reportRetrying p.stamp Reason.walletPending
          ("wallet not materialized: " ++ e.message))
        (p.backoffDelay s)
  | _, _ => .done (.proceed s)

/-- The status of a resource with which all is well. -/
def reportConverged (s : Status) (state : LifecycleState) : Status :=
  { s with consecutiveFailures := 0 }.reportReady p.stamp
    ("remote reports " ++ state.text)

/-- The ending of a pass that needs no action: the status, and when to look
again. -/
def settle (s : Status) : PassProgram (Status × Duration) := do
  let s := p.completeOneShot (p.forgetObstacles s)
  match s.lifecycleState with
  | none =>
    return (s.reportProgressing p.stamp .pending Reason.awaitingConfirmation
      "no remote object yet", p.settings.resyncInterval)
  | some state =>
    match p.reportState s state with
    | .stop s requeue => return (s, requeue)
    | .proceed s =>
      match ← if state.isReady then p.bringWallet s else pure (.proceed s) with
      | .stop s requeue => return (s, requeue)
      | .proceed s =>
        return (p.reportConverged s state, p.settings.resyncInterval)

end DatabaseOperator.Pass
