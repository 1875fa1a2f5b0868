import DatabaseOperator.Lifecycle.Rule

/-!
# Deletion

What happens to the remote object when the resource that declares it is deleted.

- `DeletionStep`: let the resource go, wait for a teardown, or send the delete.
- `nextDeletionStep`: the step for what was just observed.
-/

namespace DatabaseOperator

/-- The next step of a deletion. -/
inductive DeletionStep where
  | release
  | awaitTeardown (delay : Duration)
  | dispatch
deriving DecidableEq, Repr

/-- The step for a resource that is being deleted. A resource without a hard
link leaves its object alone, one without an identity has none, and an object
that could not be found or is torn down needs no further call. A delete that was
sent less than `maxWait` ago is given time. -/
def nextDeletionStep (hardLink : Bool) (identity : Option String)
    (observed : Option LifecycleState) (pendingAge : Option Duration)
    (maxWait pollInterval : Duration) : DeletionStep :=
  if !hardLink || identity.isNone then .release
  else match observed with
    | none => .release
    | some state =>
      if state.isTornDown then .release
      else match pendingAge with
        | none => .dispatch
        | some age =>
          if age < maxWait then
            .awaitTeardown (remainingWait maxWait pollInterval age)
          else .dispatch

/-! ## Small facts -/

theorem nextDeletionStep_of_tornDown {state : LifecycleState}
    (h : state.isTornDown) (hardLink : Bool) (identity : Option String)
    (pendingAge : Option Duration) (maxWait pollInterval : Duration) :
    nextDeletionStep hardLink identity (some state) pendingAge maxWait
      pollInterval = .release := by
  unfold nextDeletionStep
  split <;> simp [h]

end DatabaseOperator
