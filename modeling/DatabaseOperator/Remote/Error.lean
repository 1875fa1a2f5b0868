import DatabaseOperator.Text.Digits

/-!
# Failures of remote calls

Why a call to a remote control plane failed, and how the operator reacts.

- `RemoteError`: the causes.
- `ErrorClass`, `RemoteError.errorClass`: retry with backoff, retry sooner, or
  do not retry.
- `RemoteError.ofStatus`: the cause that an HTTP status stands for.
- `RemoteError.message`: the cause in words.
-/

namespace DatabaseOperator

/-- How the operator reacts to a failed call. -/
inductive ErrorClass where
  | transient
  | conflict
  | permanent
deriving DecidableEq, Repr

/-- Why a remote call failed. -/
inductive RemoteError where
  | transient (text : String)
  | conflict (text : String)
  | permanent (text : String)
  | notFound (text : String)
  | unsupported (backend operation : String)
deriving DecidableEq, Repr

namespace RemoteError

/-- The reaction to a failure. What the remote does not know or cannot do is not
retried. -/
def errorClass : RemoteError → ErrorClass
  | transient _ => .transient
  | conflict _ => .conflict
  | permanent _ | notFound _ | unsupported _ _ => .permanent

/-- The remote answered that it does not know the object. -/
def isNotFound : RemoteError → Bool
  | notFound _ => true
  | _ => false

/-- The failure in words. -/
def message : RemoteError → String
  | transient text => "transient remote failure: " ++ text
  | conflict text => "remote object is in an incompatible state: " ++ text
  | permanent text => "remote request rejected: " ++ text
  | notFound text => "remote object not found: " ++ text
  | unsupported backend operation =>
    backend ++ " backend does not support " ++ operation

/-- The failure that an HTTP status and the text of its answer stand for.
Throttling and faults of the server are worth a retry, a conflict or an unmet
precondition mean that the object is busy. -/
def ofStatus (status : Nat) (text : String) : RemoteError :=
  let text := "HTTP " ++ Text.digits status ++ ": " ++ text
  if status = 404 then notFound text
  else if status = 409 ∨ status = 412 then conflict text
  else if status = 429 ∨ (500 ≤ status ∧ status ≤ 599) then transient text
  else permanent text

/-! ## Small facts -/

theorem errorClass_of_isNotFound {e : RemoteError} (h : e.isNotFound) :
    e.errorClass = .permanent := by
  cases e <;> simp_all [isNotFound, RemoteError.errorClass]

end RemoteError

end DatabaseOperator
