import Mathlib.Algebra.Group.Nat.Defs
import DatabaseOperator.Proofs.Text.Digits
import DatabaseOperator.Proofs.Time.Calendar
import DatabaseOperator.Time.Instant

/-!
# Instants from their timestamps

A timestamp that is written is read as the instant that it was written for, to
the nanosecond. Only years of more or fewer than four digits are written in a
way that is not read; a mark with such a timestamp counts as new.

- `Instant.twoDigits?_padded`, `Instant.fraction?_fractionChars`: the parts of a
  timestamp are read as they were written.
- `Instant.ofTimestamp?_timestamp`: so is the whole.
- `Instant.age_timestamp_le`: nothing is taken to be older than it is.
-/

namespace DatabaseOperator

namespace Instant

open Text

/-! ## Parts of a timestamp -/

theorem twoDigits?_padded {n : Nat} (h : n < 100) (rest : List Char) :
    twoDigits? (paddedChars 2 n ++ rest) = some (n, rest) := by
  have hpadded : paddedChars 2 n = [digit (n / 10), digit n] := by
    unfold paddedChars
    rw [if_pos (by simpa using h)]
    rfl
  rw [hpadded]
  simp only [List.cons_append, List.nil_append, twoDigits?, digitValue?_digit,
    Option.bind_eq_bind, Option.bind_some, Option.some.injEq,
    Prod.mk.injEq, and_true]
  omega

/-- A year of four digits is two numbers of two. -/
theorem paddedChars_four {n : Nat} (h : n < 10000) :
    paddedChars 4 n = paddedChars 2 (n / 100) ++ paddedChars 2 (n % 100) := by
  have hcentury : n / 100 < 100 := by omega
  have hrest : n % 100 < 100 := Nat.mod_lt _ (by decide)
  have hends : lastDigits 2 n = lastDigits 2 (n % 100) := by
    simp only [lastDigits, digit, List.nil_append, List.cons_append,
      List.cons.injEq, and_true]
    constructor <;> congr 2 <;> omega
  unfold paddedChars
  rw [if_pos (by simpa using h), if_pos (by simpa using hcentury),
    if_pos (by simpa using hrest), ← hends]
  exact lastDigits_add 2 2 n

theorem fractionNanos_nil (left : Nat) : fractionNanos left [] = 0 := by
  cases left <;> rfl

theorem fractionNanos_append (left : Nat) (ds es : List Char) :
    fractionNanos (ds.length + left) (ds ++ es)
      = fractionNanos (ds.length + left) ds + fractionNanos left es := by
  induction ds with
  | nil => simp [fractionNanos_nil]
  | cons d ds ih =>
    rw [List.length_cons, show ds.length + 1 + left
      = ds.length + left + 1 by omega, List.cons_append]
    simp only [fractionNanos, ih]
    omega

/-- The digits of a fraction stand for their number, in the unit of the last of
them. -/
theorem fractionNanos_lastDigits (width left n : Nat) :
    fractionNanos (width + left) (lastDigits width n)
      = n % 10 ^ width * 10 ^ left := by
  induction width generalizing left n with
  | zero => simp [lastDigits, fractionNanos_nil, Nat.mod_one]
  | succ width ih =>
    have hfirst : fractionNanos (width + (left + 1))
      (lastDigits width (n / 10) ++ [digit n])
        = fractionNanos (width + (left + 1)) (lastDigits width (n / 10))
          + fractionNanos (left + 1) [digit n] := by
      have happend :=
        fractionNanos_append (left + 1) (lastDigits width (n / 10)) [digit n]
      rwa [length_lastDigits] at happend
    have hlast : fractionNanos (left + 1) [digit n] = n % 10 * 10 ^ left := by
      simp [fractionNanos, digitValue?_digit, fractionNanos_nil]
    have hsplit : n % 10 ^ (width + 1) = n / 10 % 10 ^ width * 10 + n % 10 := by
      rw [Nat.pow_succ', Nat.mod_mul]
      omega
    rw [show width + 1 + left = width + (left + 1) by omega]
    show fractionNanos (width + (left + 1))
      (lastDigits width (n / 10) ++ [digit n]) = _
    rw [hfirst, hlast, ih, hsplit, Nat.pow_succ', Nat.add_mul, Nat.mul_assoc]

/-- The offset that a timestamp is written with. -/
def utc : List Char :=
  ['+', '0', '0', ':', '0', '0']

/-- A fraction of some digits is read as it was written. -/
theorem fraction?_digits {width n : Nat} (hwidth : width ≤ 9) (hpos : width ≠ 0)
    (h : n < 10 ^ width) :
    fraction? ('.' :: (paddedChars width n ++ utc))
      = some (n * 10 ^ (9 - width), utc) := by
  have hdigits : ∀ c ∈ lastDigits width n, (digitValue? c).isSome = true :=
    fun c hc => isSome_digitValue?_of_mem_lastDigits hc
  have hpadded : paddedChars width n = lastDigits width n := by
    unfold paddedChars
    rw [if_pos (by simpa using h)]
  have hvalue :
      fractionNanos 9 (lastDigits width n) = n * 10 ^ (9 - width) := by
    have hread := fractionNanos_lastDigits width (9 - width) n
    rwa [show width + (9 - width) = 9 by omega, Nat.mod_eq_of_lt h] at hread
  have htake : (lastDigits width n ++ utc).takeWhile
      (fun c => (digitValue? c).isSome) = lastDigits width n := by
    rw [List.takeWhile_append_of_pos hdigits]
    exact List.append_nil _
  have hdrop : (lastDigits width n ++ utc).dropWhile
      (fun c => (digitValue? c).isSome) = utc := by
    rw [List.dropWhile_append_of_pos hdigits]
    rfl
  rw [hpadded]
  simp only [fraction?, htake, hdrop]
  split
  next hnil =>
    have hlength := length_lastDigits width n
    rw [hnil] at hlength
    exact absurd hlength.symm hpos
  next => rw [hvalue]

/-- The fraction of a second is read as it was written, whether it takes three
digits, six or nine. -/
theorem fraction?_fractionChars {nanos : Nat} (h : nanos < 1000000000) :
    fraction? (fractionChars nanos ++ utc) = some (nanos, utc) := by
  unfold fractionChars
  split
  next hzero =>
    rw [hzero]
    rfl
  next =>
    split
    next hmillis =>
      rw [List.cons_append, fraction?_digits (by decide) (by decide) (by omega)]
      simp only [Option.some.injEq, Prod.mk.injEq, and_true]
      omega
    next =>
      split
      next hmicros =>
        rw [List.cons_append, fraction?_digits (by decide) (by decide)
          (by omega)]
        simp only [Option.some.injEq, Prod.mk.injEq, and_true]
        omega
      next =>
        rw [List.cons_append, fraction?_digits (by decide) (by decide)
          (by omega)]
        simp

/-! ## Whole timestamps -/

theorem secondOfDay_bounds (t : Instant) :
    0 ≤ t.secondOfDay ∧ t.secondOfDay < 86400 := by
  unfold secondOfDay
  rw [Int.fmod_eq_emod_of_nonneg _ (by decide)]
  omega

/-- Day and second of the day make up the seconds. -/
theorem seconds_eq (t : Instant) :
    t.dayCount * 86400 + t.secondOfDay = t.seconds := by
  unfold dayCount secondOfDay
  rw [Int.fdiv_eq_ediv_of_nonneg _ (by decide),
    Int.fmod_eq_emod_of_nonneg _ (by decide)]
  omega

theorem after?_cons (c : Char) (rest : List Char) :
    after? c (c :: rest) = some rest := by
  simp [after?]

theorem offset?_utc : offset? utc = some 0 := by
  decide

theorem bind_of_eq_some {α β : Type} {o : Option α} {a : α} {f : α → Option β}
    (h : o = some a) : (o >>= f) = f a := by
  rw [h]
  rfl

/-- A date and a time of day in their written form are read as they were
written. Second 60 is that of a leap second. -/
theorem ofTimestampChars?_written
    {year month day hour minute second nanos : Nat} (hyear : year < 10000)
    (hreal : Date.isReal ⟨year, month, day⟩ = true) (hmonth : month < 100)
    (hday : day < 100) (hhour : hour ≤ 23) (hminute : minute ≤ 59)
    (hsecond : second ≤ 60) (hnanos : nanos < 1000000000) :
    ofTimestampChars?
      (paddedChars 4 year
        ++ '-' :: (paddedChars 2 month ++ '-' :: (paddedChars 2 day
        ++ 'T'
          :: (paddedChars 2 hour
            ++ ':' :: (paddedChars 2 minute ++ ':' :: (paddedChars 2 second
        ++ (fractionChars nanos ++ utc)))))))
      = shown?
          (Date.toDays ⟨year, month, day⟩ * 86400
            + (hour * 3600 + minute * 60 + (if second = 60 then 59
              else second : Nat)))
          (nanos + if second = 60 then 1000000000 else 0) := by
  have hcentury : year / 100 < 100 := by omega
  have hrest : year % 100 < 100 := Nat.mod_lt _ (by decide)
  have hwhole : year / 100 * 100 + year % 100 = year := by omega
  unfold ofTimestampChars?
  have hcondition : Date.isReal ⟨(year / 100 * 100 + year % 100 : Nat), month,
    day⟩ = true ∧ hour ≤ 23 ∧ minute ≤ 59
      ∧ second ≤ 60 := by
    rw [hwhole]
    exact ⟨hreal, hhour, hminute, hsecond⟩
  -- part after part is read, and each leaves the ones that follow it
  rw [paddedChars_four hyear, List.append_assoc]
  refine (bind_of_eq_some (twoDigits?_padded hcentury _)).trans ?_
  refine (bind_of_eq_some (twoDigits?_padded hrest _)).trans ?_
  refine (bind_of_eq_some (after?_cons _ _)).trans ?_
  refine (bind_of_eq_some (twoDigits?_padded hmonth _)).trans ?_
  refine (bind_of_eq_some (after?_cons _ _)).trans ?_
  refine (bind_of_eq_some (twoDigits?_padded hday _)).trans ?_
  refine (bind_of_eq_some (twoDigits?_padded (by omega) _)).trans ?_
  refine (bind_of_eq_some (after?_cons _ _)).trans ?_
  refine (bind_of_eq_some (twoDigits?_padded (by omega) _)).trans ?_
  refine (bind_of_eq_some (after?_cons _ _)).trans ?_
  refine (bind_of_eq_some (twoDigits?_padded (by omega) _)).trans ?_
  refine (bind_of_eq_some (fraction?_fractionChars hnanos)).trans ?_
  refine (bind_of_eq_some offset?_utc).trans ?_
  refine (if_pos hcondition).trans ?_
  simp only [hwhole, Int.sub_zero]

/-- The year in which an instant lies is written with four digits. -/
def HasShortYear (t : Instant) : Prop :=
  0 ≤ (Date.ofDays t.dayCount).year ∧ (Date.ofDays t.dayCount).year ≤ 9999

instance (t : Instant) : Decidable t.HasShortYear :=
  inferInstanceAs (Decidable (_ ∧ _))

/-- The parts of a date in the calendar have two digits. -/
theorem isReal_bounds {d : Date} (h : d.isReal = true) :
    d.month < 100 ∧ d.day < 100 := by
  have hlength : Date.monthLength d.year d.month ≤ 31 := by
    unfold Date.monthLength
    split
    · split <;> decide
    · split <;> decide
  simp only [Date.isReal, Bool.and_eq_true, decide_eq_true_eq] at h
  omega

/-- The seconds of a minute, with a leap second as the sixtieth. -/
def secondOfMinute (t : Instant) : Nat :=
  t.secondOfDay.toNat % 60 + if t.inLeapSecond then 1 else 0

/-- A leap second is told from the others by its number. -/
theorem secondOfMinute_eq_sixty_iff (t : Instant) :
    t.secondOfMinute = 60 ↔ t.inLeapSecond = true := by
  have hday := t.secondOfDay_bounds
  unfold secondOfMinute
  cases hleap : t.inLeapSecond with
  | true =>
    have hlast := secondOfDay_of_inLeapSecond hleap
    simp only [↓reduceIte, iff_true]
    omega
  | false =>
    simp only [Bool.false_eq_true, ↓reduceIte, iff_false]
    omega

/-- The characters of a timestamp whose year has four digits. -/
theorem toList_timestamp {t : Instant} (hyear : t.HasShortYear) :
    t.timestamp.toList = paddedChars 4 (Date.ofDays t.dayCount).year.toNat
      ++ '-'
        :: (paddedChars 2 (Date.ofDays t.dayCount).month
          ++ '-' :: (paddedChars 2 (Date.ofDays t.dayCount).day
        ++ 'T'
          :: (paddedChars 2 (t.secondOfDay.toNat / 3600)
            ++ ':' :: (paddedChars 2 (t.secondOfDay.toNat / 60 % 60)
        ++ ':'
          :: (paddedChars 2 t.secondOfMinute
            ++ (fractionChars (t.nanos.val % 1000000000) ++ utc)))))) := by
  have hyearChars : yearChars (Date.ofDays t.dayCount).year
      = paddedChars 4 (Date.ofDays t.dayCount).year.toNat :=
    if_pos hyear
  unfold timestamp clockChars
  rw [String.toList_ofList]
  simp only [hyearChars, List.append_assoc, List.cons_append]
  rfl

/-- The time of day is put together again from its written parts. -/
theorem clock_eq (t : Instant) :
    (((t.secondOfDay.toNat / 3600 : Nat) : Int) * 3600
      + ((t.secondOfDay.toNat / 60 % 60 : Nat) : Int) * 60
        + (if t.secondOfMinute = 60 then 59 else t.secondOfMinute : Nat))
          = t.secondOfDay
      ∧ t.nanos.val % 1000000000 + (if t.secondOfMinute = 60 then 1000000000
        else 0) = t.nanos.val := by
  obtain ⟨hlow, hhigh⟩ := t.secondOfDay_bounds
  have hnanos := t.nanos_lt
  have hsixty := t.secondOfMinute_eq_sixty_iff
  have hclock : t.secondOfMinute = t.secondOfDay.toNat % 60 + if t.inLeapSecond
    then 1 else 0 := rfl
  have hleap : t.inLeapSecond = true ↔ 1000000000 ≤ t.nanos.val :=
    decide_eq_true_iff
  cases hcase : t.inLeapSecond with
  | true =>
    have hlast := secondOfDay_of_inLeapSecond hcase
    have hlong := hleap.mp hcase
    rw [if_pos (hsixty.mpr hcase), if_pos (hsixty.mpr hcase)]
    omega
  | false =>
    have hshort : ¬ 1000000000 ≤ t.nanos.val := fun hlong => by
      simp [hleap.mpr hlong] at hcase
    have hother : ¬ t.secondOfMinute = 60 := fun hsecond => by
      simp [hsixty.mp hsecond] at hcase
    rw [hcase] at hclock
    simp only [Bool.false_eq_true, ↓reduceIte] at hclock
    rw [if_neg hother, if_neg hother]
    omega

/-- A timestamp is read as the instant that it was written for. -/
theorem ofTimestamp?_timestamp {t : Instant} (hyear : t.HasShortYear) :
    ofTimestamp? t.timestamp = some t := by
  obtain ⟨hlow, hhigh⟩ := t.secondOfDay_bounds
  have hreal := Date.isReal_ofDays t.dayCount
  obtain ⟨hmonth, hday⟩ := isReal_bounds hreal
  have hdate :
      (⟨((Date.ofDays t.dayCount).year.toNat : Nat),
        (Date.ofDays t.dayCount).month, (Date.ofDays t.dayCount).day⟩ : Date)
          = Date.ofDays t.dayCount := by
    rw [Int.toNat_of_nonneg hyear.1]
  have hminute : t.secondOfMinute ≤ 60 := by
    unfold secondOfMinute
    split <;> omega
  have hshort : (Date.ofDays t.dayCount).year.toNat < 10000 := by
    have hhighest := hyear.2
    omega
  obtain ⟨hclock, hnanos⟩ := t.clock_eq
  unfold ofTimestamp?
  rw [toList_timestamp hyear,
    ofTimestampChars?_written hshort (by rw [hdate]; exact hreal) hmonth hday
      (by omega) (by omega) hminute (Nat.mod_lt _ (by decide)), hdate,
      Date.toDays_ofDays]
  have hseconds :
      t.dayCount * 86400 + (((t.secondOfDay.toNat / 3600 : Nat) : Int) * 3600
        + ((t.secondOfDay.toNat / 60 % 60 : Nat) : Int) * 60
        + (if t.secondOfMinute = 60 then 59 else t.secondOfMinute : Nat))
          = t.seconds := by
    rw [hclock, seconds_eq]
  rw [hseconds, hnanos, shown?_self]

/-- A year of more digits, or with a sign, is not read. -/
theorem ofTimestamp?_timestamp_of_long_year {t : Instant}
    (h : ¬ t.HasShortYear) : ofTimestamp? t.timestamp = none := by
  obtain ⟨sign, rest, hsign, hchars⟩ : ∃ sign rest, (sign = '-' ∨ sign = '+')
      ∧ t.timestamp.toList = sign :: rest := by
    have hyear : yearChars (Date.ofDays t.dayCount).year
        = (if (Date.ofDays t.dayCount).year < 0 then '-' else '+')
          :: paddedChars 4 (Date.ofDays t.dayCount).year.natAbs := if_neg h
    unfold timestamp clockChars
    rw [String.toList_ofList]
    simp only [hyear, List.cons_append]
    refine ⟨_, _, ?_, rfl⟩
    split
    · exact .inl rfl
    · exact .inr rfl
  have hnone : twoDigits? (sign :: rest) = none := by
    cases rest with
    | nil => rfl
    | cons c rest => rcases hsign with rfl | rfl <;> rfl
  unfold ofTimestamp? ofTimestampChars?
  rw [hchars, hnone]
  rfl

/-- A timestamp stands for its instant, or for the present if its year is not
read. -/
theorem ofKept_timestamp (t now : Instant) :
    ofKept t.timestamp now = if t.HasShortYear then t else now := by
  unfold ofKept
  split
  next hyear => rw [ofTimestamp?_timestamp hyear, Option.getD_some]
  next hyear => rw [ofTimestamp?_timestamp_of_long_year hyear, Option.getD_none]

/-- By its timestamp nothing is taken to be older than it is. -/
theorem age_timestamp_le (t now : Instant) :
    age t.timestamp now ≤ sinceClamped t now := by
  unfold age
  rw [ofKept_timestamp]
  split
  · exact Nat.le_refl _
  · rw [sinceClamped_self]
    exact Nat.zero_le _

end Instant

end DatabaseOperator
