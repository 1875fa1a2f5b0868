import DatabaseOperator.OperatorError
import DatabaseOperator.Time.Duration

/-!
# Exponential backoff

The delay before another attempt grows by a factor with every attempt, up to a
bound.

- `Backoff`: the settings.
- `Backoff.delayForAttempt`: the delay before a numbered attempt, the first
  being zero.
- `Backoff.delayForFailures`: the delay after so many failures in a row.
- `Backoff.delayForError`: the delay after a failure, by its kind.
-/

namespace DatabaseOperator

/-- The settings of a backoff. `draw` is the place of the jitter inside its
range, from zero to one; without jitter it has no effect on a finite delay. -/
structure Backoff where
  initialDelay : Duration := .ofSeconds 5
  maxDelay : Duration := .ofSeconds 300
  multiplier : Float := 2.0
  jitter : Float := 0.0
  draw : Float := 0.5

namespace Backoff

/-- A float raised to a natural power by repeated squaring, times `result`;
`fuel` bounds the binary digits of the exponent. -/
def powerOnto (fuel : Nat) (base : Float) (exponent : Nat) (result : Float) :
    Float :=
  match fuel with
  | 0 => result
  | fuel + 1 =>
    let result := if exponent % 2 = 1 then result * base else result
    if exponent / 2 = 0 then result
    else powerOnto fuel (base * base) (exponent / 2) result

/-- A float raised to a natural power. The squarings come lowest binary digit
first, which settles the rounding. -/
def power (base : Float) (exponent : Nat) : Float :=
  powerOnto (exponent + 1) base exponent 1.0

/-- The exponent for an attempt: past the thirty-second the delay stays. -/
def exponent (attempt : UInt32) : Nat :=
  min attempt.toNat 32

/-- The delay before an attempt in seconds, jitter included and bounded. What is
no number counts as zero. -/
def secondsForAttempt (b : Backoff) (attempt : UInt32) : Float :=
  let base := b.initialDelay.toFloat * power b.multiplier (exponent attempt)
  let range := base * b.jitter
  let jittered := base + (b.draw * range * 2.0 - range)
  let floored := if jittered > 0.0 then jittered else 0.0
  let bound := b.maxDelay.toFloat
  if floored < bound then floored else bound

/-- The delay before a numbered attempt. -/
def delayForAttempt (b : Backoff) (attempt : UInt32) : Duration :=
  .ofFloat (b.secondsForAttempt attempt)

/-- The delay after so many failures in a row, the first of which counts one. -/
def delayForFailures (b : Backoff) (failures : UInt32) : Duration :=
  b.delayForAttempt (if failures = 0 then 0 else failures - 1)

/-- The delay after a failure: an attempt that cannot help waits as long as
there is. -/
def delayForError (b : Backoff) (error : OperatorError) (attempt : UInt32) :
    Duration :=
  if error.isRetryable then b.delayForAttempt attempt else b.maxDelay

end Backoff

end DatabaseOperator
