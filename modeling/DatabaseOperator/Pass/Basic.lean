import DatabaseOperator.Backoff
import DatabaseOperator.Config
import DatabaseOperator.Drift
import DatabaseOperator.Pass.Call
import DatabaseOperator.Status.Report

/-!
# Passes

A pass looks at one resource once: it refreshes what is known of the remote
object, finds the one thing to do next and sends at most one action. It never
waits for an action to finish; it records what it sent, and a later pass sees
what became of it. A failure of the remote ends up in the status and in the time
of the next pass; only a failure of the store makes a pass fail.

- `Settings`: the intervals that passes go by.
- `Pass`: the resource, the settings and the time.
- `Pass.Outcome`: what a pass leaves behind.
- `Pass.Step`: a stage either leaves the rest of the pass to do or ends it.
- `Pass.finish`, `Pass.release`: the two ways to end.
-/

namespace DatabaseOperator

/-- The intervals that passes go by. -/
structure Settings where
  pollInterval : Duration := .ofSeconds 10
  maxWait : Duration := .ofSeconds 900
  resyncInterval : Duration := .ofSeconds 60
  conflictRequeue : Duration := .ofSeconds 5
  callTimeout : Duration := .ofSeconds 30
  backoff : Backoff := {}

/-- The settings that a configuration asks for. -/
def Settings.ofConfig (c : Config) : Settings where
  pollInterval := c.pollInterval
  maxWait := c.maxWait
  resyncInterval := c.resyncInterval
  conflictRequeue := c.conflictRequeue
  callTimeout := c.remoteCallTimeout

/-- One look at a resource: what is looked at, by which settings, and when. -/
structure Pass where
  settings : Settings
  resource : ManagedResource
  now : Instant

namespace Pass

/-- What a pass leaves behind: when to look again, which action was sent, the
status, and whether the resource was let go. A resource that was let go is not
looked at again. -/
structure Outcome where
  requeue : Option Duration
  dispatched : Option ActionKind
  status : Status
  finalized : Bool
deriving DecidableEq

/-- How a stage of a pass ends: the rest of the pass follows, or the pass is
over and the next one is due after a while. Either way the status is the one so
far. -/
inductive Step where
  | proceed (status : Status)
  | stop (status : Status) (requeue : Duration)
deriving DecidableEq

/-- How far a pass has come: the status so far, the status last known to be
stored, and the action sent. -/
structure Progress where
  status : Status
  persisted : Status
  dispatched : Option ActionKind := none

variable (p : Pass)

/-- What reports of this pass are written under. -/
def stamp : Stamp :=
  { generation := p.resource.generation, now := p.now }

/-- The mark of an action that is followed from now on. -/
def pending (signature : String) : PendingAction :=
  { signature, since := p.now.timestamp }

/-- The delay that the failures on record call for. -/
def backoffDelay (s : Status) : Duration :=
  p.settings.backoff.delayForFailures s.consecutiveFailures

/-- A remote call, given up after the time that calls may take. -/
def call (c : RemoteCall) : PassProgram (Except RemoteError c.Answer) :=
  askRemote
    ("remote call timed out after "
      ++ Text.digits p.settings.callTimeout.seconds ++ "s") c

/-- The status before the first stage: the stored one, for the spec as it is
now. -/
def initialStatus : Status :=
  { p.resource.status with observedGeneration := p.resource.generation }

/-- A status with what a snapshot reports. An identity on record stays, and so
do attributes if the snapshot has none. -/
def observe (s : Status) (snapshot : Snapshot) : Status :=
  { s with
    identity := s.identity <|> some snapshot.id
    lifecycleState := some snapshot.state
    snapshot := if snapshot.attributes.isEmpty then s.snapshot
      else some snapshot.attributes }

/-- A status with one more failure in a row. -/
def countFailure (s : Status) : Status :=
  { s with consecutiveFailures := s.consecutiveFailures + 1 }

/-- The pass ends: the status is stored if it changed, and the next pass is due
after a while. -/
def finish (progress : Progress) (requeue : Duration) :
    PassProgram (Except OperatorError Outcome) :=
  let outcome : Outcome :=
    { requeue := some requeue
      dispatched := progress.dispatched
      status := progress.status
      finalized := false }
  if progress.status = progress.persisted then .done (.ok outcome)
  else .ask (.store (.saveStatus progress.status)) fun
    | .ok () => .done (.ok outcome)
    | .error e => .done (.error e)

/-- The pass ends by letting the resource go. -/
def release (progress : Progress) :
    PassProgram (Except OperatorError Outcome) :=
  .ask (.store .releaseFinalizer) fun
    | .ok () =>
      .done (.ok
        { requeue := none
          dispatched := progress.dispatched
          status := progress.status
          finalized := true })
    | .error e => .done (.error e)

/-! ## Small facts -/

theorem identity_observe_of_some {s : Status} {identity : String}
    (h : s.identity = some identity) (snapshot : Snapshot) :
    (observe s snapshot).identity = some identity := by
  simp [observe, h]

end Pass

end DatabaseOperator
