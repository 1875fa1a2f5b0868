import DatabaseOperator.Pass.Dispatch
import DatabaseOperator.Pass.Settled
import DatabaseOperator.Pass.Teardown

/-!
# A whole pass

- `Pass.act`: an action that is needed is refused, held back or sent.
- `Pass.run`: a whole pass.
-/

namespace DatabaseOperator.Pass

variable (p : Pass)

/-- The status of an action that is not repeated, since it failed for good
before. -/
def declineFailed (s : Status) : Status :=
  { s with phase := .failed }

/-- The status when another action than the one that failed for good is
needed. -/
def forgetFailed (s : Status) : Status :=
  if s.failedAction.isSome then
    { s with failedAction := none }.clearFailed p.stamp
  else s

/-- The status when an action is needed that can never be sent. -/
def declineIllegal (s : Status) (action : CorrectiveAction) : Status :=
  { s with failedAction := some action.signature }.reportFailed p.stamp
    Reason.illegalAction
    (action.kind.text ++ " is not an action this controller can send")

/-- What becomes of an action that is needed: not repeated if it failed for good
before, held back while its precondition does not hold, and sent otherwise. -/
def act (s persisted : Status) (action : CorrectiveAction) :
    PassProgram (Except OperatorError Outcome) :=
  if s.failedAction = some action.signature then
    finish { status := declineFailed s, persisted } p.settings.resyncInterval
  else
    let s := p.forgetFailed s
    match Precondition.check action.kind s.identity s.lifecycleState with
    | .met => p.dispatch { s with waiting := none } persisted action
    | .unmet expected =>
      let (s, requeue) := p.waitFor s action expected
      finish { status := s, persisted } requeue
    | .noRule =>
      finish { status := p.declineIllegal s action, persisted }
        p.settings.resyncInterval

/-- The first stage: what is known of the remote object is refreshed, or an
object whose creation was sent is looked for. -/
def observeRemote (s : Status) : PassProgram Step :=
  match s.identity with
  | none => p.recoverCreate s
  | some id => p.refresh s id

/-- A whole pass. -/
def run : PassProgram (Except OperatorError Outcome) := do
  let persisted := p.resource.status
  let s := p.initialStatus
  if p.resource.deletionRequested then p.tearDown s persisted
  else
    match ← p.observeRemote s with
    | .stop s requeue => finish { status := s, persisted } requeue
    | .proceed s =>
      let action := p.resource.nextAction? s
      match p.trackInFlight s action with
      | .stop s requeue => finish { status := s, persisted } requeue
      | .proceed s =>
        match action with
        | none =>
          let (s, requeue) ← p.settle s
          finish { status := s, persisted } requeue
        | some action => p.act s persisted action

end DatabaseOperator.Pass
