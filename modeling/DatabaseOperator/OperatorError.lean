import DatabaseOperator.Http.Target
import DatabaseOperator.Json.Form
import DatabaseOperator.Remote.Error

/-!
# Failures of the operator

What can go wrong while the operator works on a resource, apart from what a pass
turns into status.

- `ClusterError`: a request to the cluster's API that failed.
- `OperatorError`: the causes.
- `OperatorError.isRetryable`, `OperatorError.isConflict`: how the operator
  reacts.
- `OperatorError.message`: the cause in words.
-/

namespace DatabaseOperator

/-- A failed request to the cluster's API: the API refused it, its answer could
not be cut into lines, its answer is no object of the kind that was asked for,
or it was never sent, since the object it is about has no name or a name that no
request can ask for. -/
inductive ClusterError where
  | rejected (code : Nat) (reason message : String)
  | endlessLine
  | unreadable (fault : Option Json.Fault)
  | unnamed
  | unsendable (fault : RequestTarget.Fault)
deriving DecidableEq, Repr

namespace ClusterError

/-- The failure in words. -/
def message : ClusterError → String
  | rejected code reason text =>
    "ApiError: " ++ text ++ ": " ++ reason
      ++ " (ErrorResponse \x7b status: \"Failure\", message: "
      ++ Text.quoted text ++ ", reason: " ++ Text.quoted reason ++ ", code: "
        ++ Text.digits code ++ " \x7d)"
  | endlessLine => "Error finding newline character"
  | unreadable fault =>
    "Error deserializing response"
      ++ (fault.elim "" fun (f : Json.Fault) => ": " ++ f.message)
  | unnamed =>
    "Failed to build request: failed to validate request: "
      ++ "A non-empty name is required"
  | unsendable fault =>
    "Failed to build request: failed to build request: " ++ fault.message

/-- Another attempt may succeed: the API was not at fault with the request
itself, or the request lost a race or came too fast. -/
def isRetryable : ClusterError → Bool
  | rejected code _ _ =>
    if 400 ≤ code ∧ code < 500 then code == 409 || code == 429 else true
  | endlessLine | unreadable _ | unnamed | unsendable _ => true

/-- A write that lost a race against another one. -/
def isConflict : ClusterError → Bool
  | rejected code _ _ => code == 409
  | endlessLine | unreadable _ | unnamed | unsendable _ => false

/-- The API knows no object of that name. -/
def isAbsence : ClusterError → Bool
  | rejected _ reason _ => reason == "NotFound"
  | endlessLine | unreadable _ | unnamed | unsendable _ => false

end ClusterError

/-- Why the operator could not carry on with a resource. -/
inductive OperatorError where
  | cluster (cause : ClusterError)
  | serialization (text : String)
  | missingKey (path : String)
  | invalidConfig (text : String)
  | notFound (text : String)
  | validation (text : String)
  | remote (cause : RemoteError)
  | transient (text : String)
  | permanent (text : String)
deriving DecidableEq, Repr

namespace OperatorError

/-- The failure in words. -/
def message : OperatorError → String
  | cluster cause => "Kubernetes API error: " ++ cause.message
  | serialization text => "Serialization error: " ++ text
  | missingKey path => "Missing object key: " ++ path
  | invalidConfig text => "Invalid configuration: " ++ text
  | notFound text => "Resource not found: " ++ text
  | validation text => "Validation error: " ++ text
  | remote cause => "Remote actuator error: " ++ cause.message
  | transient text => "Transient error (will retry): " ++ text
  | permanent text => "Permanent error (will not retry): " ++ text

/-- Another attempt may succeed. What a resource refers to may appear later, so
its absence counts. -/
def isRetryable : OperatorError → Bool
  | cluster cause => cause.isRetryable
  | remote cause => cause.errorClass != .permanent
  | notFound _ | transient _ => true
  | serialization _ | missingKey _ | invalidConfig _ | validation _
  | permanent _ => false

/-- A write that lost a race against another one. -/
def isConflict : OperatorError → Bool
  | cluster cause => cause.isConflict
  | _ => false

/-! ## Small facts -/

theorem isRetryable_of_isConflict {e : OperatorError} (h : e.isConflict) :
    e.isRetryable := by
  cases e with
  | cluster cause =>
    cases cause with
    | rejected code reason text =>
      have hc :
          code = 409 := by simpa [isConflict, ClusterError.isConflict] using h
      subst hc
      rfl
    | endlessLine => rfl
    | unreadable fault => rfl
    | unnamed => rfl
    | unsendable fault => rfl
  | _ => simp [isConflict] at h

end OperatorError

end DatabaseOperator
