import Mathlib.Order.Monotone.Basic
import DatabaseOperator.Time.Calendar

/-!
# Days and dates

A count of days names a date, and the date gives back the count. Both directions
work on an era of 400 years that begin in March, so the proof has one part for
the year in the era and one for the day in the year.

- `Date.yearStart`: the days of an era before a year, and
  `Date.yearStart_le_and_lt`: how the year of a day is found.
- `Date.ofYearDay`: the date of a day in a year that begins in March.
- `Date.exists_yearDay`: every count of days is such a date.
- `Date.toDays_ofDays`, `Date.isReal_ofDays`: the date of a count is real, and
  lies that many days after 1970-01-01.
-/

namespace DatabaseOperator.Date

/-! ## Years of an era -/

/-- The days of an era before a year of it. -/
def yearStart (year : Nat) : Nat :=
  365 * year + year / 4 - year / 100 + year / 400

/-- The leap days that have gone by, taken off a day of an era: each year comes
to 365 days. -/
def evenDays (day : Nat) : Nat :=
  day - day / 1460 + day / 36524 - day / 146096

theorem evenDays_mono {a b : Nat} (hb : b ≤ 146096) (h : a ≤ b) :
    evenDays a ≤ evenDays b := by
  induction b, h using Nat.le_induction with
  | base => exact le_refl _
  | succ b _ ih =>
    refine (ih (by omega)).trans ?_
    -- a leap day takes off no more than the day itself adds
    unfold evenDays
    omega

/-- The first and the last day of a year keep to the 365 days that fall to
it. -/
theorem evenDays_bounds :
    ∀ year < 400, 365 * year ≤ evenDays (yearStart year)
      ∧ evenDays (yearStart (year + 1) - 1) < 365 * (year + 1) := by
  decide +kernel

/-- The year of a day of an era. -/
theorem yearStart_le_and_lt {day year : Nat} (hday : day < 146097)
    (hyear : year = evenDays day / 365) :
    year < 400 ∧ yearStart year ≤ day ∧ day < yearStart (year + 1) := by
  have hlow : 365 * year ≤ evenDays day := by omega
  have hhigh : evenDays day < 365 * (year + 1) := by omega
  have hera :
      evenDays day ≤ evenDays 146096 := evenDays_mono (le_refl _) (by omega)
  have hlast : evenDays 146096 = 145999 := by decide
  have hlt : year < 400 := by omega
  refine ⟨hlt, ?_, ?_⟩
  · by_contra hbefore
    -- a day before the year has a count below that of the year
    obtain ⟨before, rfl⟩ : ∃ before, year = before + 1 := ⟨year - 1, by
      have hpos : year ≠ 0 := by
        rintro rfl
        exact hbefore (Nat.zero_le _)
      omega⟩
    have hend := (evenDays_bounds before (by omega)).2
    have hbound : yearStart (before + 1) ≤ 146097 := by
      unfold yearStart
      omega
    have hmono : evenDays day ≤ evenDays (yearStart (before + 1) - 1) :=
      evenDays_mono (by omega) (by omega)
    omega
  · by_contra hafter
    by_cases hnext : year + 1 < 400
    · have hbegin := (evenDays_bounds (year + 1) hnext).1
      have hmono : evenDays (yearStart (year + 1)) ≤ evenDays day :=
        evenDays_mono (by omega) (by omega)
      omega
    · obtain rfl : year = 399 := by omega
      have hwhole : yearStart (399 + 1) = 146097 := by decide
      omega

/-- The years of an era have 365 days, and those with a leap day at their end
one more. -/
theorem yearStart_succ {year : Nat} (hyear : year < 400) (era : Int) :
    yearStart (year + 1) = yearStart year + if isLeap (year + era * 400 + 1)
      then 366 else 365 := by
  have hleap : isLeap (year + era * 400 + 1)
      = ((year + 1) % 4 == 0
        && ((year + 1) % 100 != 0 || (year + 1) % 400 == 0)) := by
    unfold isLeap
    rw [Bool.eq_iff_iff]
    simp only [Bool.and_eq_true, Bool.or_eq_true, beq_iff_eq, bne_iff_ne]
    omega
  have hall : ∀ year < 400, yearStart (year + 1) = yearStart year
      + if (year + 1) % 4 == 0
        && ((year + 1) % 100 != 0 || (year + 1) % 400 == 0) then 366
          else 365 := by
    decide +kernel
  rw [hleap]
  exact hall year hyear

/-! ## Days of a year -/

/-- The date of a day in the year that begins in March of a calendar year. -/
def ofYearDay (year : Int) (day : Nat) : Date :=
  let month := (5 * day + 2) / 153
  let civilMonth := if month < 10 then month + 3 else month - 9
  { year := if civilMonth ≤ 2 then year + 1 else year
    month := civilMonth
    day := day - (153 * month + 2) / 5 + 1 }

/-- Every day of a year falls into a month, and beyond the 28th of February
comes only the leap day. -/
theorem ofYearDay_bounds :
    ∀ day < 366, 1 ≤ (ofYearDay 0 day).month ∧ (ofYearDay 0 day).month ≤ 12
      ∧ 1 ≤ (ofYearDay 0 day).day
      ∧ ((ofYearDay 0 day).month = 2 → (ofYearDay 0 day).day ≤ if day = 365
        then 29 else 28)
      ∧ ((ofYearDay 0 day).month ≠ 2 → (ofYearDay 0 day).day ≤ monthLength 0
        (ofYearDay 0 day).month) := by
  decide +kernel

/-- The length of a month other than February is the same in all years. -/
theorem monthLength_of_ne {month : Nat} (h : month ≠ 2) (year year' : Int) :
    monthLength year month = monthLength year' month := by
  unfold monthLength
  rw [if_neg h, if_neg h]

/-- A day in the year has a date in the calendar, the leap day only if the year
ends with one. -/
theorem isReal_ofYearDay {year : Int} {day : Nat}
    (hday : day < if isLeap (year + 1) then 366 else 365) :
    (ofYearDay year day).isReal = true := by
  have hbound : day < 366 := by
    split at hday <;> omega
  obtain ⟨hlow, hhigh, hfirst, hshort, hlong⟩ := ofYearDay_bounds day hbound
  have hlength : (ofYearDay 0 day).day
      ≤ monthLength (ofYearDay year day).year (ofYearDay 0 day).month := by
    by_cases hmonth : (ofYearDay 0 day).month = 2
    · -- February belongs to the calendar year that follows
      have hyear : (ofYearDay year day).year = year + 1 := by
        show (if (ofYearDay 0 day).month ≤ 2 then year + 1 else year) = year + 1
        rw [hmonth]
        rfl
      have hfebruary := hshort hmonth
      rw [hyear, hmonth]
      unfold monthLength
      cases hleap : isLeap (year + 1) with
      | true => split at hfebruary <;> simp <;> omega
      | false =>
        rw [hleap] at hday
        have hcommon : day ≠ 365 := by
          rw [if_neg (by decide)] at hday
          omega
        simpa [hcommon] using hfebruary
    · rw [monthLength_of_ne hmonth _ 0]
      exact hlong hmonth
  simp only [isReal, Bool.and_eq_true, decide_eq_true_eq]
  exact ⟨⟨⟨hlow, hhigh⟩, hfirst⟩, hlength⟩

/-- The count of days to the date of a day of an era. -/
theorem toDays_ofYearDay {era : Int} {year day : Nat} (hyear : year < 400)
    (hday : day < 366) :
    toDays (ofYearDay (year + era * 400) day)
      = era * 146097 + yearStart year + day - 719468 := by
  have hera : ((year : Int) + era * 400).fdiv 400 = era := by
    rw [Int.fdiv_eq_ediv_of_nonneg _ (by decide)]
    omega
  have hlast : (5 * day + 2) / 153 ≤ 11 := by omega
  have hbegin : (153 * ((5 * day + 2) / 153) + 2) / 5 ≤ day := by omega
  unfold toDays ofYearDay yearStart
  simp only
  generalize (5 * day + 2) / 153 = month at *
  by_cases hspring : month < 10
  · -- from March on, the two years are the same
    have hlate : ¬ month + 3 ≤ 2 := by omega
    simp only [hspring, ↓reduceIte, hlate, hera]
    omega
  · have hearly : month - 9 ≤ 2 := by omega
    simp only [hspring, ↓reduceIte, hearly, Int.add_sub_cancel, hera]
    omega

/-! ## Counts of days -/

/-- The date of a count of days, by the day of the era. -/
theorem ofDays_of_era {era : Int} {day : Nat} (hday : day < 146097) :
    ofDays (era * 146097 + day - 719468)
      = ofYearDay ((evenDays day / 365 : Nat) + era * 400)
        (day - yearStart (evenDays day / 365)) := by
  obtain ⟨hyear, hstart, -⟩ := yearStart_le_and_lt hday rfl
  have hera : (era * 146097 + day - 719468 + 719468).fdiv 146097 = era := by
    rw [Int.fdiv_eq_ediv_of_nonneg _ (by decide)]
    omega
  have hofEra : era * 146097 + day - 719468 + 719468 - era * 146097
    = (day : Int) := by omega
  have hofYear : ((day : Int) - day / 1460 + day / 36524 - day / 146096) / 365
      = (evenDays day / 365 : Nat) := by
    unfold evenDays
    omega
  unfold ofDays
  simp only [hera, hofEra, hofYear]
  generalize evenDays day / 365 = year at *
  obtain ⟨rest, rfl⟩ : ∃ rest, day = yearStart year + rest :=
    ⟨day - yearStart year, by omega⟩
  have hrest : ((yearStart year + rest : Nat) : Int)
      - (365 * year + year / 4 - year / 100) = rest := by
    unfold yearStart
    omega
  rw [hrest, Nat.add_sub_cancel_left]
  have hmonth :
      (5 * (rest : Int) + 2) / 153 = ((5 * rest + 2) / 153 : Nat) := by omega
  have hbegin : (153 * ((5 * rest + 2) / 153) + 2) / 5 ≤ rest := by omega
  unfold ofYearDay
  simp only [hmonth]
  generalize (5 * rest + 2) / 153 = month at *
  by_cases hspring : month < 10
  · have hspring' : (month : Int) < 10 := by omega
    simp only [hspring, hspring', ↓reduceIte, Date.mk.injEq]
    refine ⟨?_, by omega, by omega⟩
    rw [if_neg (by omega), if_neg (by omega)]
  · have hspring' : ¬ (month : Int) < 10 := by omega
    simp only [hspring, hspring', ↓reduceIte, Date.mk.injEq]
    refine ⟨?_, by omega, by omega⟩
    split <;> split <;> omega

/-- Every count of days leads to a day of a year of an era. -/
theorem exists_yearDay (days : Int) :
    ∃ (era : Int) (year day : Nat), year < 400
      ∧ (day < if isLeap (year + era * 400 + 1) then 366 else 365)
      ∧ days = era * 146097 + yearStart year + day - 719468
      ∧ ofDays days = ofYearDay (year + era * 400) day := by
  obtain ⟨era, day, hday, rfl⟩ : ∃ (era : Int) (day : Nat), day < 146097
      ∧ days = era * 146097 + day - 719468 := by
    refine ⟨(days + 719468) / 146097, ((days + 719468) % 146097).toNat, ?_, ?_⟩
      <;> omega
  obtain ⟨hyear, hstart, hnext⟩ := yearStart_le_and_lt hday rfl
  refine ⟨era, _, day - yearStart (evenDays day / 365), hyear, ?_, ?_,
    ofDays_of_era hday⟩
  · rw [yearStart_succ hyear era] at hnext
    omega
  · omega

/-- The date of a count of days is in the calendar. -/
theorem isReal_ofDays (days : Int) : (ofDays days).isReal = true := by
  obtain ⟨era, year, day, -, hday, -, hdate⟩ := exists_yearDay days
  rw [hdate]
  exact isReal_ofYearDay hday

/-- The date of a count of days lies that many days after 1970-01-01. -/
theorem toDays_ofDays (days : Int) : (ofDays days).toDays = days := by
  obtain ⟨era, year, day, hyear, hday, hcount, hdate⟩ := exists_yearDay days
  have hbound : day < 366 := by
    split at hday <;> omega
  rw [hdate, toDays_ofYearDay hyear hbound, hcount]

end DatabaseOperator.Date
