import DatabaseOperator.Pass.Reads

/-!
# Actions followed from pass to pass

What was sent is marked in the status until it is seen to have happened, and
what cannot be sent yet is marked as waiting. Every such mark loses its force
after the longest wait.

- `Pass.recoverCreate`: an object whose creation was sent, but whose identity is
  not known, is found again.
- `Pass.trackInFlight`: an action that was sent and not confirmed is not sent
  again at once.
- `Pass.waitFor`: an action whose precondition does not hold is held back.
-/

namespace DatabaseOperator.Pass

variable (p : Pass)

/-- The time to the next look at something that has been awaited for `age`. -/
def remaining (age : Duration) : Duration :=
  remainingWait p.settings.maxWait p.settings.pollInterval age

/-! ## Lost creates -/

/-- The only live object that is listed under the name of the resource. If there
are several, none is taken. -/
def findCreated : PassProgram (Option Snapshot) := do
  match ← p.call (.list p.resource.listFilter) with
  | .ok items =>
    match (items : List Snapshot).filter fun item => !item.state.isTornDown with
    | [item] => return some item
    | _ => return none
  | .error _ => return none

/-- A create that was sent has not shown its object: for a while it is waited
for, then it may be sent again. -/
def awaitCreated (s : Status) (pending : PendingAction) : Step :=
  let age := Instant.age pending.since p.now
  if age < p.settings.maxWait then
    .stop
      (s.reportProgressing p.stamp .provisioning Reason.awaitingConfirmation
        (pending.signature ++ " sent, waiting for the remote object to appear"))
      (p.remaining age)
  else .proceed { s with inFlight := none }

/-- The identity is not known, but a create that was sent may have had its
effect. The object is looked for by its name. Without a name it cannot be told
from others, so the create is sent once more: the remote recognises it by the
retry token. -/
def recoverCreate (s : Status) : PassProgram Step :=
  match s.inFlight with
  | none => .done (.proceed s)
  | some pending =>
    if !isCreateSignature pending.signature
      then .done (.proceed { s with inFlight := none })
    else if p.resource.listFilter.displayName.isSome then do
      match ← p.findCreated with
      | some found => return .proceed (observe s found)
      | none => return p.awaitCreated s pending
    else if p.resource.retryToken.isSome
      then .done (.proceed { s with inFlight := none })
    else .done (p.awaitCreated s pending)

/-! ## Actions under way -/

/-- The action that is needed was sent before: it is not sent again until the
longest wait is over. An action that is no longer needed is forgotten once the
remote is not in the middle of a change. -/
def trackInFlight (s : Status) (action : Option CorrectiveAction) : Step :=
  match s.inFlight with
  | none => .proceed s
  | some pending =>
    match action.filter fun a => a.signature == pending.signature with
    | some a =>
      let age := Instant.age pending.since p.now
      if age < p.settings.maxWait then
        .stop
          (s.reportProgressing p.stamp a.phase Reason.awaitingConfirmation
            (pending.signature ++ " sent, remote reports " ++ s.observedText))
          (p.remaining age)
      else .proceed { s with inFlight := none }
    | none =>
      if s.lifecycleState.any LifecycleState.isTransitional then .proceed s
      else .proceed { s with inFlight := none }

/-! ## Preconditions -/

/-- The beginning of the wait for an action: the one on record for the same
action, else now. -/
def waitingSince (s : Status) (signature : String) : Instant :=
  match s.waiting.filter fun w => w.signature == signature with
  | some w => Instant.ofKept w.since p.now
  | none => p.now

/-- The status with the wait for an action on record. -/
def recordWait (s : Status) (signature : String) : Status :=
  if s.waiting.any fun w => w.signature == signature then s
  else { s with waiting := some (p.pending signature) }

/-- The precondition of an action does not hold. The pass ends; once the longest
wait is over that counts as a failure, and a new wait begins. -/
def waitFor (s : Status) (action : CorrectiveAction) (expected : StateRule) :
    Status × Duration :=
  let signature := action.signature
  let message :=
    action.kind.text ++ " waits for " ++ expected.text ++ ", remote reports "
      ++ s.observedText
  match decideWait p.settings.maxWait p.settings.pollInterval
    (p.waitingSince s signature) p.now with
  | .poll delay =>
    ((p.recordWait s signature).reportWaiting p.stamp
      Reason.waitingForPrecondition message, delay)
  | .expired =>
    let s := countFailure { s with waiting := some (p.pending signature) }
    (s.reportWaiting p.stamp Reason.preconditionTimeout message,
      p.backoffDelay s)

end DatabaseOperator.Pass
