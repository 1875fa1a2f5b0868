import DatabaseOperator.Decimal.Binary

/-!
# Durations

Spans of time that are not negative, in nanoseconds.

- `Duration`: a span; ordered, with a difference that stops at zero.
- `Duration.ofSeconds`, `Duration.seconds`, `Duration.subNanos`: whole seconds
  and the rest.
- `Duration.toFloat`, `Duration.ofFloat`: a span as floating-point seconds.
-/

namespace DatabaseOperator

/-- A span of time, counted in nanoseconds. -/
structure Duration where
  nanos : Nat
deriving DecidableEq, Repr, Inhabited

namespace Duration

/-- No time at all. -/
def zero : Duration := ⟨0⟩

/-- A whole number of seconds. -/
def ofSeconds (n : Nat) : Duration := ⟨n * 1000000000⟩

/-- Seconds and nanoseconds. -/
def ofParts (seconds nanos : Nat) : Duration := ⟨seconds * 1000000000 + nanos⟩

/-- The whole seconds of a span. -/
def seconds (d : Duration) : Nat := d.nanos / 1000000000

/-- The nanoseconds beyond the whole seconds. -/
def subNanos (d : Duration) : Nat := d.nanos % 1000000000

instance : LE Duration := ⟨fun a b => a.nanos ≤ b.nanos⟩

instance : LT Duration := ⟨fun a b => a.nanos < b.nanos⟩

instance (a b : Duration) : Decidable (a ≤ b) :=
  inferInstanceAs (Decidable (a.nanos ≤ b.nanos))

instance (a b : Duration) : Decidable (a < b) :=
  inferInstanceAs (Decidable (a.nanos < b.nanos))

instance : Min Duration := ⟨fun a b => if a ≤ b then a else b⟩

/-- What is left of a span after another, at least nothing. -/
instance : Sub Duration := ⟨fun a b => ⟨a.nanos - b.nanos⟩⟩

/-! ## Seconds as floating-point numbers -/

/-- The seconds of a span as a double-precision float: whole seconds and
fraction are converted apart. -/
def toFloat (d : Duration) : Float :=
  Float.ofNat d.seconds + Float.ofNat d.subNanos / 1000000000.0

/-- The span of a number of seconds, to the nearest nanosecond. A number that is
not positive is no time. -/
def ofFloat (x : Float) : Duration :=
  if 0 < x then
    let (m, e) := Decimal.significand x
    match e with
    | Int.ofNat n => ⟨m * Nat.pow 2 n * 1000000000⟩
    | Int.negSucc n =>
      ⟨Decimal.roundQuotient (m * 1000000000) (Nat.pow 2 (n + 1))⟩
  else zero

/-! ## Small facts -/

theorem le_iff {a b : Duration} : a ≤ b ↔ a.nanos ≤ b.nanos := Iff.rfl

theorem lt_iff {a b : Duration} : a < b ↔ a.nanos < b.nanos := Iff.rfl

theorem nanos_sub (a b : Duration) : (a - b).nanos = a.nanos - b.nanos := rfl

theorem nanos_min (a b : Duration) : (min a b).nanos = min a.nanos b.nanos := by
  show (if a ≤ b then a else b).nanos = _
  split
  · next h => exact (Nat.min_eq_left h).symm
  · next h => exact (Nat.min_eq_right (Nat.le_of_lt (Nat.lt_of_not_le h))).symm

theorem ofParts_seconds_subNanos (d : Duration) :
    ofParts d.seconds d.subNanos = d := by
  cases d
  simp only [ofParts, seconds, subNanos, mk.injEq]
  omega

end Duration

end DatabaseOperator
