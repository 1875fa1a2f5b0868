import DatabaseOperator.Status.Basic

/-!
# Reports on a status

How the outcome of a pass is put into phase and conditions. Each report sets the
conditions it has something to say about and leaves the others.

- `ConditionType`, `Reason`: the words in use.
- `Stamp`: the generation and the time that a report is written under.
- `setCondition`: one condition; its transition time moves only when its status
  turns.
- `Status.reportReady`, `reportProgressing`, `reportRetrying` and so on: the
  reports.
-/

namespace DatabaseOperator

namespace ConditionType

/-- The remote object matches the spec and can be used. -/
def ready : String := "Ready"

/-- An action or a wait is under way. -/
def progressing : String := "Progressing"

/-- A failure needs someone to act. -/
def failed : String := "Failed"

end ConditionType

namespace Reason

/-- Nothing is left to do. -/
def converged : String := "Converged"

/-- An action was sent. -/
def actionDispatched : String := "ActionDispatched"

/-- The effect of an action is awaited. -/
def awaitingConfirmation : String := "AwaitingConfirmation"

/-- The remote is in the middle of a change. -/
def remoteTransition : String := "RemoteTransition"

/-- An action is held back until its precondition holds. -/
def waitingForPrecondition : String := "WaitingForPrecondition"

/-- An action has been held back for too long. -/
def preconditionTimeout : String := "PreconditionTimeout"

/-- A call failed in a way that is worth a retry. -/
def transientFailure : String := "TransientFailure"

/-- The remote object was busy. -/
def remoteConflict : String := "RemoteConflict"

/-- Direct reads and the list keep disagreeing. -/
def consistencyMismatch : String := "EventualConsistencyMismatch"

/-- The remote refused a call. -/
def actionFailed : String := "ActionFailed"

/-- An action that can never be sent is needed. -/
def illegalAction : String := "IllegalAction"

/-- The remote object disappeared. -/
def remoteObjectMissing : String := "RemoteObjectMissing"

/-- The remote object has failed. -/
def remoteFailed : String := "RemoteFailed"

/-- The spec is not valid. -/
def validationFailed : String := "ValidationFailed"

/-- Credentials cannot be read. -/
def credentialsUnavailable : String := "CredentialsUnavailable"

/-- The wallet has not been stored yet. -/
def walletPending : String := "WalletPending"

/-- The resource is being deleted. -/
def deleting : String := "Deleting"

/-- The operator has removed the remote object. -/
def remoteRemoved : String := "RemoteRemoved"

/-- There is no failure. -/
def noFailure : String := "NoFailure"

end Reason

/-- What a report is written under: the generation of the spec, and the time. -/
structure Stamp where
  generation : Option Int64
  now : Instant

/-- The status of a condition that holds or does not. -/
def flagText (value : Bool) : String :=
  if value then "True" else "False"

/-- A condition after a report: reason, message and generation are new, the time
of the last transition only if the status turned. -/
def Condition.revise (c : Condition) (stamp : Stamp)
    (status reason message : String) : Condition :=
  { c with
    status
    reason
    message
    observedGeneration := stamp.generation
    lastTransitionTime := if c.status = status then c.lastTransitionTime
      else stamp.now.timestamp }

/-- Conditions with one set: the first of its type is revised, a missing one
comes last. -/
def setCondition (stamp : Stamp) (type status reason message : String) :
    List Condition → List Condition
  | [] =>
    [{ type, status, reason, message
       lastTransitionTime := stamp.now.timestamp
       observedGeneration := stamp.generation }]
  | c :: rest =>
    if c.type = type then c.revise stamp status reason message :: rest
    else c :: setCondition stamp type status reason message rest

namespace Status

variable (s : Status) (stamp : Stamp)

/-- A status with one condition set. -/
def set (type : String) (value : Bool) (reason message : String) : Status :=
  { s with
    conditions :=
      setCondition stamp type (flagText value) reason message s.conditions }

/-- Nothing stands in the way of readiness but what is under way. -/
def setUnderWay (reason message : String) : Status :=
  (s.set stamp ConditionType.ready false reason message).set stamp
    ConditionType.progressing true reason message

/-- The remote object matches the spec. -/
def reportReady (message : String) : Status :=
  let s := { s with phase := .ready }
  let s := s.set stamp ConditionType.ready true Reason.converged message
  let s := s.set stamp ConditionType.progressing false Reason.converged message
  s.set stamp ConditionType.failed false Reason.noFailure ""

/-- An action was sent, or the remote is finishing one. -/
def reportProgressing (phase : Phase) (reason message : String) : Status :=
  { s with phase }.setUnderWay stamp reason message

/-- An action is held back until its precondition is observed. -/
def reportWaiting (reason message : String) : Status :=
  s.reportProgressing stamp .waiting reason message

/-- A failure that is retried; the phase stays. -/
def reportRetrying (reason message : String) : Status :=
  s.setUnderWay stamp reason message

/-- A failure that is not retried. -/
def reportFailed (reason message : String) : Status :=
  let s := { s with phase := .failed }
  let s := s.set stamp ConditionType.ready false reason message
  let s := s.set stamp ConditionType.progressing false reason message
  s.set stamp ConditionType.failed true reason message

/-- A failure on record is over. Without one nothing changes. -/
def clearFailed : Status :=
  if s.conditions.any fun c => c.type == ConditionType.failed
    && c.status == flagText true then
    s.set stamp ConditionType.failed false Reason.noFailure ""
  else s

/-- The remote object is gone because the operator removed it. -/
def reportTerminated (message : String) : Status :=
  let s := { s with phase := .terminated }
  let s := s.set stamp ConditionType.ready false Reason.remoteRemoved message
  let s :=
    s.set stamp ConditionType.progressing false Reason.remoteRemoved message
  s.set stamp ConditionType.failed false Reason.noFailure ""

/-- The resource is being deleted. -/
def reportDeleting (message : String) : Status :=
  s.reportProgressing stamp .deleting Reason.deleting message

end Status

/-! ## Small facts -/

theorem Condition.type_revise (c : Condition) (stamp : Stamp)
    (status reason message : String) :
    (c.revise stamp status reason message).type = c.type :=
  rfl

end DatabaseOperator
