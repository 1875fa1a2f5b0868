import DatabaseOperator.Proofs.Time.Timestamp

/-!
# Ages

How old a mark is taken to be: by its text, and by the readings of the clock.

- `Instant.sinceEpoch`, `Instant.le_sinceClamped`: what lies at least so far
  back by the clock is at least so old.
- `Instant.le_sinceClamped_trans`: what lies so far back twice does so as a
  whole.
- `Instant.age_lt_iff`: a text is young if it cannot be read, or names a time
  that is not long ago.
- `Instant.age_timestamp_self`: what is written now is not old.
-/

namespace DatabaseOperator

namespace Instant

/-- The nanoseconds from the beginning of 1970; those of a leap second run on
into the next one. -/
def sinceEpoch (t : Instant) : Int :=
  t.seconds * 1000000000 + t.nanos.val

/-- Up to a clock that is not in a leap second no less time has passed than its
reading says. -/
theorem sub_le_nanosBetween {start stop : Instant}
    (plain : stop.inLeapSecond = false) :
    stop.sinceEpoch - start.sinceEpoch ≤ nanosBetween start stop := by
  unfold nanosBetween sinceEpoch
  simp only [plain, Bool.false_eq_true, ↓reduceIte]
  split
  next => split <;> omega
  next => split <;> omega

/-- What began by some time is as old, after a while from then, as that
while. -/
theorem le_sinceClamped {start present stop : Instant} {d : Duration}
    (plain : stop.inLeapSecond = false)
    (past : start.sinceEpoch ≤ present.sinceEpoch)
    (later : present.sinceEpoch + d.nanos ≤ stop.sinceEpoch) :
    d ≤ sinceClamped start stop := by
  have hpassed : stop.sinceEpoch - start.sinceEpoch ≤ nanosBetween start stop :=
    sub_le_nanosBetween plain
  show d.nanos ≤ (nanosBetween start stop).toNat
  omega

/-- A time that has passed twice has passed as a whole. Less than a second may
be lost if a leap second lies between. -/
theorem le_nanosBetween_trans {start middle stop : Instant} {nanos : Int}
    (positive : 0 < nanos)
    (long : middle.inLeapSecond = true → 1000000000 ≤ nanos)
    (first : nanos ≤ nanosBetween start middle)
    (second : nanos ≤ nanosBetween middle stop) :
    nanos ≤ nanosBetween start stop := by
  have hday : ∀ t : Instant, t.secondOfDay = t.seconds % 86400 :=
    fun t => Int.fmod_eq_emod_of_nonneg _ (by decide)
  have hstart := start.nanos_lt
  have hstart' := start.secondOfDay_of_inLeapSecond
  have hmiddle := middle.nanos_lt
  have hmiddle' := middle.secondOfDay_of_inLeapSecond
  have hstop := stop.nanos_lt
  have hstop' := stop.secondOfDay_of_inLeapSecond
  unfold nanosBetween at *
  simp only [inLeapSecond, decide_eq_true_eq, hday] at *
  by_cases hleap : 1000000000 ≤ middle.nanos.val
  · -- a leap second may be counted before it and after it, but a second has
    -- passed each time
    have hlong := long hleap
    have hlast := hmiddle' hleap
    clear long hmiddle'
    simp only [hleap, ↓reduceIte] at first second ⊢
    omega
  · clear long hmiddle'
    simp only [hleap, ↓reduceIte, ite_self] at first second ⊢
    omega

/-- What is old when something begins that grows as old is as old by then. -/
theorem le_sinceClamped_trans {start middle stop : Instant} {d : Duration}
    (long : middle.inLeapSecond = true → Duration.ofSeconds 1 ≤ d)
    (first : d ≤ sinceClamped start middle)
    (second : d ≤ sinceClamped middle stop) : d ≤ sinceClamped start stop := by
  change d.nanos ≤ (nanosBetween start middle).toNat at first
  change d.nanos ≤ (nanosBetween middle stop).toNat at second
  show d.nanos ≤ (nanosBetween start stop).toNat
  rcases Nat.eq_zero_or_pos d.nanos with hzero | hpositive
  · omega
  · have hlong : middle.inLeapSecond = true → (1000000000 : Int) ≤ d.nanos :=
        fun leap => by
      have hsecond : 1000000000 ≤ d.nanos := long leap
      omega
    have hfirst : (d.nanos : Int) ≤ nanosBetween start middle := by omega
    have hsecond : (d.nanos : Int) ≤ nanosBetween middle stop := by omega
    have hwhole :=
      le_nanosBetween_trans (Int.natCast_pos.mpr hpositive) hlong hfirst hsecond
    omega

/-- A text is young if it cannot be read, or if the time that it names is not
long ago. -/
theorem age_lt_iff {text : String} {now : Instant} {d : Duration}
    (positive : Duration.zero < d) :
    age text now < d
      ↔ ofTimestamp? text = none
      ∨ ∃ since, ofTimestamp? text = some since
        ∧ sinceClamped since now < d := by
  unfold age
  cases hread : ofTimestamp? text with
  | none =>
    rw [ofKept_of_unreadable hread, sinceClamped_self]
    simp [positive]
  | some since => simp [ofKept, hread]

/-- The time of a mark that is made now is now, or cannot be read. -/
theorem age_timestamp_self (now : Instant) :
    age now.timestamp now = Duration.zero := by
  have hle := age_timestamp_le now now
  rw [sinceClamped_self] at hle
  have hnanos : (age now.timestamp now).nanos = 0 := Nat.le_zero.mp hle
  cases hage : age now.timestamp now with
  | mk nanos =>
    rw [hage] at hnanos
    cases hnanos
    rfl

end Instant

end DatabaseOperator
