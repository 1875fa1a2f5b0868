import DatabaseOperator.Pass.Run

/-!
# Passes that may not take place

A pass over a resource takes place only if its spec is valid and its control
plane can be called. Otherwise the status says why not, and nothing is sent to
the remote.

- `Driven`: what became of a resource, with a pass or without one.
- `Pass.reject`, `Pass.block`, `Pass.detach`: what is done instead of a pass.
- `Pass.drive`: a pass, or what is done instead.
-/

namespace DatabaseOperator

/-- What became of a resource: it went through a pass, or the next look at it is
due without one. -/
inductive Driven where
  | passed (result : Except OperatorError Pass.Outcome)
  | skipped (next : Except OperatorError (Option Duration))

/-- When the next look at the resource is due; without a time it is due when the
resource changes. -/
def Driven.next : Driven → Except OperatorError (Option Duration)
  | passed result => result.map Pass.Outcome.requeue
  | skipped next => next

namespace Pass

variable (p : Pass)

/-- The status of a spec that is not valid. -/
def rejectedStatus (fault : OperatorError) : Status :=
  p.initialStatus.reportFailed p.stamp Reason.validationFailed fault.message

/-- The status of a resource whose control plane cannot be called. -/
def blockedStatus (fault : OperatorError) : Status :=
  let s := countFailure p.initialStatus
  if fault.isRetryable
    then s.reportRetrying p.stamp Reason.credentialsUnavailable fault.message
  else s.reportFailed p.stamp Reason.credentialsUnavailable fault.message

/-- A spec that is not valid is not looked at again until it changes. -/
def reject (fault : OperatorError) : PassProgram Driven :=
  let status := p.rejectedStatus fault
  if status = p.resource.status then .done (.skipped (.ok none))
  else
    .ask (.store (.saveStatus status)) fun result =>
      .done (.skipped (result.map fun () => none))

/-- A control plane that cannot be called is tried again after the delay that
the failures call for. -/
def block (fault : OperatorError) : PassProgram Driven :=
  let status := p.blockedStatus fault
  .ask (.store (.saveStatus status)) fun result =>
    .done (.skipped (result.map fun () => some (p.backoffDelay status)))

/-- A resource whose remote object is to stay is let go without its control
plane. -/
def detach : PassProgram Driven :=
  .ask (.store .releaseFinalizer) fun result =>
    .done (.skipped (result.map fun () => none))

/-- A pass, or what is done instead. A resource that is being deleted need not
be valid. -/
def drive (validation connection : Except OperatorError Unit) :
    PassProgram Driven :=
  match p.resource.deletionRequested, validation, connection with
  | false, .error fault, _ => p.reject fault
  | _, _, .ok () => p.run.bind fun result => .done (.passed result)
  | true, _, .error fault =>
    if p.resource.hardLink then p.block fault else detach
  | false, .ok (), .error fault => p.block fault

/-! ## Small facts -/

theorem drive_of_invalid {fault : OperatorError}
    (h : p.resource.deletionRequested = false)
    (connection : Except OperatorError Unit) :
    p.drive (.error fault) connection = p.reject fault := by
  unfold drive
  rw [h]

end Pass

end DatabaseOperator
