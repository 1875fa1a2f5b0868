import DatabaseOperator.Proofs.Time.Age

/-!
# What a timestamp says

A timestamp names a date of the calendar, a time of day and a fraction of a
second, in Coordinated Universal Time and with no more digits than it takes. The
age of such a text is the difference between two readings of the clock.

- `Instant.Parts`, `Instant.Parts.text`: the parts of a timestamp, and how they
  are written.
- `Instant.exists_parts`: every timestamp is written in parts that name its
  instant.
- `Instant.age_timestamp`, `Instant.nanos_age_timestamp`: the age of a timestamp
  is the time that has passed.
- `Instant.age_timestamp_lt_iff`: when a timestamp is young.
-/

namespace DatabaseOperator

namespace Instant

open Text

/-! ## Parts -/

/-- The parts of a timestamp: a date, a time of day, and a fraction of so many
digits. -/
structure Parts where
  date : Date
  hour : Nat
  minute : Nat
  second : Nat
  width : Nat
  fraction : Nat

namespace Parts

/-- The text of the parts, with the offset `+00:00`. A fraction without digits
has no point either. -/
def text (w : Parts) : String :=
  String.ofList
    (paddedChars 4 w.date.year.toNat ++ '-' :: (paddedChars 2 w.date.month
    ++ '-'
      :: (paddedChars 2 w.date.day
        ++ 'T' :: (paddedChars 2 w.hour ++ ':' :: (paddedChars 2 w.minute
    ++ ':' :: (paddedChars 2 w.second
      ++ ((if w.width = 0 then [] else '.' :: lastDigits w.width w.fraction)
        ++ utc)))))))

/-- The parts name an instant: the date is in the calendar and the time on the
clock, where second 60 is a leap second. The fraction has none, three, six or
nine digits, the fewest that lose nothing. -/
structure Name (w : Parts) (t : Instant) : Prop where
  real : w.date.isReal = true
  day : w.date.toDays = t.dayCount
  hour_le : w.hour ≤ 23
  minute_le : w.minute ≤ 59
  second_le : w.second ≤ 60
  clock :
    ((w.hour * 3600 + w.minute * 60 + if w.second = 60 then 59
      else w.second : Nat) : Int) = t.secondOfDay
  width_mem : w.width ∈ [0, 3, 6, 9]
  nanos : w.fraction * 10 ^ (9 - w.width) + (if w.second = 60 then 1000000000
    else 0) = t.nanos.val
  shortest : ∀ width ∈ [0, 3, 6, 9], 10 ^ (9 - width) ∣ t.nanos.val →
    w.width ≤ width

end Parts

/-- The digits of a fraction are the fewest of none, three, six and nine that
lose nothing. -/
theorem exists_fraction {nanos : Nat} (h : nanos < 1000000000) :
    ∃ width fraction, fractionChars nanos
      = (if width = 0 then [] else '.' :: lastDigits width fraction)
      ∧ width ∈ [0, 3, 6, 9] ∧ fraction * 10 ^ (9 - width) = nanos
      ∧ ∀ other ∈ [0, 3, 6, 9], 10 ^ (9 - other) ∣ nanos → width ≤ other := by
  have hpadded : ∀ {width n : Nat}, n < 10 ^ width →
      paddedChars width n = lastDigits width n := by
    intro width n hn
    unfold paddedChars
    rw [if_pos (by simpa using hn)]
  unfold fractionChars
  split
  next hzero => exact ⟨0, 0, rfl, by simp, by simp [hzero], by simp⟩
  next hnonzero =>
    split
    next hmillis =>
      refine ⟨3, nanos / 1000000, by rw [hpadded (by omega)]; rfl, by simp,
        by omega, ?_⟩
      simp only [List.mem_cons, List.not_mem_nil, or_false]
      rintro other (rfl | rfl | rfl | rfl) hdvd <;> omega
    next hmillis =>
      split
      next hmicros =>
        refine ⟨6, nanos / 1000, by rw [hpadded (by omega)]; rfl, by simp,
          by omega, ?_⟩
        simp only [List.mem_cons, List.not_mem_nil, or_false]
        rintro other (rfl | rfl | rfl | rfl) hdvd <;> omega
      next hmicros =>
        refine ⟨9, nanos, by rw [hpadded (by omega)]; rfl, by simp,
          by omega, ?_⟩
        simp only [List.mem_cons, List.not_mem_nil, or_false]
        rintro other (rfl | rfl | rfl | rfl) hdvd <;> omega

/-- A timestamp is written in parts that name its instant. -/
theorem exists_parts {t : Instant} (hyear : t.HasShortYear) :
    ∃ parts : Parts, t.timestamp = parts.text ∧ parts.Name t := by
  obtain ⟨hlow, hhigh⟩ := t.secondOfDay_bounds
  obtain ⟨width, fraction, hchars, hwidth, hfraction, hshortest⟩ :=
    exists_fraction (Nat.mod_lt t.nanos.val (by decide : 0 < 1000000000))
  obtain ⟨hclock, hnanos⟩ := t.clock_eq
  have hhour : t.secondOfDay.toNat / 3600 ≤ 23 := by omega
  have hminute : t.secondOfDay.toNat / 60 % 60 ≤ 59 := by omega
  have hsecond : t.secondOfMinute ≤ 60 := by
    unfold secondOfMinute
    split <;> omega
  have htime :
      ((t.secondOfDay.toNat / 3600 * 3600 + t.secondOfDay.toNat / 60 % 60 * 60
        + if t.secondOfMinute = 60 then 59 else t.secondOfMinute : Nat) : Int)
          = t.secondOfDay := by
    refine Eq.trans ?_ hclock
    rw [Int.natCast_add, Int.natCast_add, Int.natCast_mul, Int.natCast_mul]
    rfl
  refine ⟨⟨.ofDays t.dayCount, t.secondOfDay.toNat / 3600,
    t.secondOfDay.toNat / 60 % 60, t.secondOfMinute, width, fraction⟩, ?_,
    Date.isReal_ofDays _, Date.toDays_ofDays _, hhour, hminute, hsecond, htime,
    hwidth, ?_, ?_⟩
  · apply String.toList_injective
    rw [toList_timestamp hyear, hchars, Parts.text, String.toList_ofList]
  · rw [← hnanos, hfraction]
  · intro other hother hdvd
    refine hshortest other hother ?_
    have hunit : 10 ^ (9 - other) ∣ 1000000000 := by
      simp only [List.mem_cons, List.not_mem_nil, or_false] at hother
      rcases hother with rfl | rfl | rfl | rfl <;> decide
    exact (Nat.dvd_mod_iff hunit).mpr hdvd

/-! ## Ages of timestamps -/

/-- Between clocks that are in no leap second the time that has passed is the
difference of their readings. -/
theorem nanosBetween_eq {start stop : Instant}
    (plain : start.inLeapSecond = false) (plain' : stop.inLeapSecond = false) :
    nanosBetween start stop = stop.sinceEpoch - start.sinceEpoch := by
  unfold nanosBetween sinceEpoch
  simp only [plain, plain', Bool.false_eq_true, ↓reduceIte, ite_self]
  omega

/-- The age of a timestamp is the time since its instant, and nothing if that is
to come. -/
theorem age_timestamp {t : Instant} (hyear : t.HasShortYear) (now : Instant) :
    age t.timestamp now = sinceClamped t now := by
  unfold age
  rw [ofKept_timestamp, if_pos hyear]

section Plain

variable {t now : Instant} (hyear : t.HasShortYear)
    (plain : t.inLeapSecond = false) (plain' : now.inLeapSecond = false)

include hyear plain plain'

/-- That is the difference between the readings of the clock, unless it is
negative. -/
theorem nanos_age_timestamp :
    (age t.timestamp now).nanos = (now.sinceEpoch - t.sinceEpoch).toNat := by
  rw [age_timestamp hyear, ← nanosBetween_eq plain plain']
  rfl

/-- A timestamp is young as long as the clock does not show its instant and the
while after it. -/
theorem age_timestamp_lt_iff {d : Duration} (positive : Duration.zero < d) :
    age t.timestamp now < d ↔ now.sinceEpoch < t.sinceEpoch + d.nanos := by
  have hpositive : 0 < d.nanos := positive
  rw [Duration.lt_iff, nanos_age_timestamp hyear plain plain']
  omega

end Plain

end Instant

end DatabaseOperator
