import DatabaseOperator.Lifecycle.State
import DatabaseOperator.Time.Instant

/-!
# Rules on the observed state, and bounded waits

An action is sent only while the remote object is in a state that accepts it.
Until then the operator looks again from time to time, and after a bound the
stall is reported.

- `StateRule`: which observations an action accepts.
- `StateRule.holds`: the rule on an identity and an observed state.
- `StateRule.text`: the rule in words.
- `WaitDecision`, `decideWait`: look again after a while, or report that the
  wait has run out.
- `remainingWait`: the time to the next look while something younger than the
  bound is awaited.
-/

namespace DatabaseOperator

/-- Which observations an action accepts: that no remote object belongs to the
resource, or a state of it. -/
inductive StateRule where
  | absent
  | anyOf (states : List LifecycleState)
  | anyExcept (states : List LifecycleState)
deriving DecidableEq, Repr

namespace StateRule

/-- The rule holds of what is known. An object whose state has not been read yet
passes a rule that only excludes states, and no rule that lists them. -/
def holds :
    StateRule → (identity : Option String) →
      (observed : Option LifecycleState) → Bool
  | absent, identity, _ => identity.isNone
  | anyOf states, some _, some state => states.contains state
  | anyOf _, _, _ => false
  | anyExcept states, some _, some state => !states.contains state
  | anyExcept _, some _, none => true
  | anyExcept _, none, _ => false

/-- The names of states, a bar between each two. -/
def alternatives (states : List LifecycleState) : String :=
  Text.joinWith "|" (states.map LifecycleState.text)

/-- The rule in words. -/
def text : StateRule → String
  | absent => "no remote object"
  | anyOf states => alternatives states
  | anyExcept states => "any state but " ++ alternatives states

end StateRule

/-! ## Bounded waits -/

/-- The time to the next look at something that has been awaited for `waited`:
the poll interval, cut so that the look falls no later than the bound. -/
def remainingWait (maxWait pollInterval waited : Duration) : Duration :=
  min pollInterval (maxWait - waited)

/-- What to do about a wait: look again after a while, or report that the bound
has been reached. -/
inductive WaitDecision where
  | poll (delay : Duration)
  | expired
deriving DecidableEq, Repr

/-- The decision on a wait that began at `since`. -/
def decideWait (maxWait pollInterval : Duration) (since now : Instant) :
    WaitDecision :=
  let waited := Instant.sinceClamped since now
  if maxWait ≤ waited then .expired
  else .poll (remainingWait maxWait pollInterval waited)

/-! ## Small facts -/

theorem remainingWait_le_pollInterval (maxWait pollInterval waited : Duration) :
    remainingWait maxWait pollInterval waited ≤ pollInterval := by
  rw [Duration.le_iff, remainingWait, Duration.nanos_min]
  exact Nat.min_le_left _ _

theorem decideWait_eq_expired_iff {maxWait pollInterval : Duration}
    {since now : Instant} :
    decideWait maxWait pollInterval since now = .expired
      ↔ maxWait ≤ Instant.sinceClamped since now := by
  simp only [decideWait]
  split <;> simp_all

end DatabaseOperator
