import DatabaseOperator.Time.Calendar
import DatabaseOperator.Time.Duration
import DatabaseOperator.Text.Digits

/-!
# Instants and their timestamps

Points in time, in Coordinated Universal Time and to the nanosecond, and their
RFC 3339 text.

- `Instant`: seconds from the beginning of 1970 and nanoseconds; inside a leap
  second the nanoseconds run on.
- `Instant.span`: the nanoseconds that belong to a second, and `Instant.shown?`:
  the instant that a clock shows.
- `Instant.sinceClamped`: the time from one instant to another, nothing if it
  comes earlier.
- `Instant.timestamp`: the text written into documents.
- `Instant.ofTimestamp?`: the instant of a text, which may carry any offset.
- `Instant.age`: how long ago a text says something happened.
-/

namespace DatabaseOperator

/-- The nanoseconds that belong to a second. Only the last second of a minute
can be prolonged by a leap second. -/
def Instant.span (seconds : Int) : Nat :=
  if seconds % 60 = 59 then 2000000000 else 1000000000

theorem Instant.span_pos (seconds : Int) : 0 < Instant.span seconds := by
  unfold Instant.span
  split <;> decide

/-- Numbers stand for nanoseconds. -/
instance (seconds : Int) : NatCast (Fin (Instant.span seconds)) where
  natCast n :=
    ⟨n % Instant.span seconds, Nat.mod_lt n (Instant.span_pos seconds)⟩

instance (seconds : Int) (n : Nat) : OfNat (Fin (Instant.span seconds)) n where
  ofNat := ⟨n % Instant.span seconds, Nat.mod_lt n (Instant.span_pos seconds)⟩

/-- A point in time that a clock can show. In a leap second `nanos` lies between
one and two thousand million. -/
structure Instant where
  seconds : Int
  nanos : Fin (Instant.span seconds)
deriving DecidableEq, Repr

namespace Instant

/-- The instant of so many seconds and nanoseconds, if a clock can show it. -/
def shown? (seconds : Int) (nanos : Nat) : Option Instant :=
  if h : nanos < span seconds then some ⟨seconds, nanos, h⟩ else none

/-- The seconds since midnight. -/
def secondOfDay (t : Instant) : Int :=
  t.seconds.fmod 86400

/-- The day, counted from 1970-01-01. -/
def dayCount (t : Instant) : Int :=
  t.seconds.fdiv 86400

/-- The instant lies in a leap second. -/
def inLeapSecond (t : Instant) : Bool :=
  1000000000 ≤ t.nanos.val

/-- The nanoseconds from `start` to `stop`, negative if `stop` is earlier. A
leap second at the earlier time of day counts if the later time of day lies
beyond it. -/
def nanosBetween (start stop : Instant) : Int :=
  let leap : Int :=
    if start.secondOfDay < stop.secondOfDay
      then (if start.inLeapSecond then 1 else 0)
    else if stop.secondOfDay < start.secondOfDay
      then (if stop.inLeapSecond then -1 else 0)
    else 0
  (stop.seconds - start.seconds + leap) * 1000000000
    + ((stop.nanos.val : Int) - (start.nanos.val : Int))

/-- The time from `start` to `stop`; nothing if `stop` is earlier. -/
def sinceClamped (start stop : Instant) : Duration :=
  ⟨(nanosBetween start stop).toNat⟩

/-! ## Writing -/

/-- A year as four digits, or with a sign outside 0 to 9999. -/
def yearChars (year : Int) : List Char :=
  if 0 ≤ year ∧ year ≤ 9999 then Text.paddedChars 4 year.toNat
  else (if year < 0 then '-' else '+') :: Text.paddedChars 4 year.natAbs

/-- The fraction of a second with three, six or nine digits, the fewest that
lose nothing; empty for a whole second. -/
def fractionChars (nanos : Nat) : List Char :=
  if nanos = 0 then []
  else if nanos % 1000000 = 0 then '.' :: Text.paddedChars 3 (nanos / 1000000)
  else if nanos % 1000 = 0 then '.' :: Text.paddedChars 6 (nanos / 1000)
  else '.' :: Text.paddedChars 9 nanos

/-- Date and time of an instant, the offset left out. -/
def clockChars (t : Instant) : List Char :=
  let date := Date.ofDays t.dayCount
  let second := t.secondOfDay.toNat
  let leap := if t.inLeapSecond then 1 else 0
  yearChars date.year ++ '-' :: (Text.paddedChars 2 date.month
    ++ '-' :: (Text.paddedChars 2 date.day
    ++ 'T' :: (Text.paddedChars 2 (second / 3600)
    ++ ':' :: (Text.paddedChars 2 (second / 60 % 60)
    ++ ':' :: (Text.paddedChars 2 (second % 60 + leap)
    ++ fractionChars (t.nanos.val % 1000000000))))))

/-- The timestamp of an instant, with the offset `+00:00`. -/
def timestamp (t : Instant) : String :=
  String.ofList (t.clockChars ++ ['+', '0', '0', ':', '0', '0'])

/-! ## Reading -/

/-- The number of the first two characters, both digits, and what follows. -/
def twoDigits? : List Char → Option (Nat × List Char)
  | a :: b :: rest =>
    do some ((← Text.digitValue? a) * 10 + (← Text.digitValue? b), rest)
  | _ => none

/-- What follows an expected character. -/
def after? (expected : Char) : List Char → Option (List Char)
  | c :: rest => if c = expected then some rest else none
  | [] => none

/-- The nanoseconds of the digits of a fraction; digits beyond the ninth are
dropped. -/
def fractionNanos : (left : Nat) → List Char → Nat
  | 0, _ => 0
  | _, [] => 0
  | left + 1, c :: cs =>
    (Text.digitValue? c).getD 0 * Nat.pow 10 left + fractionNanos left cs

/-- The fraction of a second, if a point follows, and what comes after it. A
point needs a digit. -/
def fraction? : List Char → Option (Nat × List Char)
  | '.' :: cs =>
    let isDigit := fun c => (Text.digitValue? c).isSome
    match cs.takeWhile isDigit with
    | [] => none
    | ds => some (fractionNanos 9 ds, cs.dropWhile isDigit)
  | cs => some (0, cs)

/-- The seconds by which local time is ahead, from an offset that ends the text.
A minus sign may be the hyphen or U+2212. -/
def offset? : List Char → Option Int
  | [c] => if c = 'Z' ∨ c = 'z' then some 0 else none
  | c :: cs => do
    let sign : Int ←
      if c = '+' then some 1
      else if c = '-' ∨ c = '\u2212' then some (-1) else none
    let (hours, cs) ← twoDigits? cs
    let (minutes, cs) ← twoDigits? (← after? ':' cs)
    if cs = [] ∧ hours ≤ 23 ∧ minutes ≤ 59 then
      some (sign * (hours * 3600 + minutes * 60))
    else none
  | [] => none

/-- The instant of a timestamp: a date of four, two and two digits, one of `T`,
`t` and a space, a time with an optional fraction, and an offset. Second 60 is a
leap second. -/
def ofTimestampChars? (cs : List Char) : Option Instant := do
  let (century, cs) ← twoDigits? cs
  let (yearOfCentury, cs) ← twoDigits? cs
  let (month, cs) ← twoDigits? (← after? '-' cs)
  let (day, cs) ← twoDigits? (← after? '-' cs)
  let cs ← match cs with
    | c :: rest => if c = 'T' ∨ c = 't' ∨ c = ' ' then some rest else none
    | [] => none
  let (hour, cs) ← twoDigits? cs
  let (minute, cs) ← twoDigits? (← after? ':' cs)
  let (second, cs) ← twoDigits? (← after? ':' cs)
  let (nanos, cs) ← fraction? cs
  let offset ← offset? cs
  let date : Date := ⟨(century * 100 + yearOfCentury : Nat), month, day⟩
  if date.isReal ∧ hour ≤ 23 ∧ minute ≤ 59 ∧ second ≤ 60 then
    let leap := second = 60
    -- offsets are whole minutes, so that second 60 is at the end of one in any
    -- zone
    let clock : Int := hour * 3600 + minute * 60 + (if leap then 59 else second)
    shown? (date.toDays * 86400 + clock - offset)
      (nanos + (if leap then 1000000000 else 0))
  else none

/-- The instant of an RFC 3339 timestamp. -/
def ofTimestamp? (s : String) : Option Instant :=
  ofTimestampChars? s.toList

/-! ## Timestamps kept in documents -/

/-- The instant that a kept timestamp names. One that cannot be read counts as
the present, so that a wait measured from it starts anew. -/
def ofKept (text : String) (now : Instant) : Instant :=
  (ofTimestamp? text).getD now

/-- How long before `now` a kept timestamp lies; nothing if it lies in the
future. -/
def age (text : String) (now : Instant) : Duration :=
  sinceClamped (ofKept text now) now

/-! ## Small facts -/

theorem nanos_lt (t : Instant) : t.nanos.val < 2000000000 := by
  have hspan : span t.seconds ≤ 2000000000 := by
    unfold span
    split <;> decide
  exact Nat.lt_of_lt_of_le t.nanos.isLt hspan

/-- A leap second comes only at the end of a minute. -/
theorem secondOfDay_of_inLeapSecond {t : Instant} (h : t.inLeapSecond = true) :
    t.secondOfDay % 60 = 59 := by
  have hlong : 1000000000 ≤ t.nanos.val := of_decide_eq_true h
  have hlt := t.nanos.isLt
  have hlast : t.seconds % 60 = 59 := by
    unfold span at hlt
    split at hlt
    next hlast => exact hlast
    next => omega
  unfold secondOfDay
  rw [Int.fmod_eq_emod_of_nonneg _ (by decide)]
  omega

theorem shown?_self (t : Instant) : shown? t.seconds t.nanos.val = some t :=
  dif_pos t.nanos.isLt

theorem sinceClamped_self (t : Instant) : sinceClamped t t = Duration.zero := by
  simp [sinceClamped, nanosBetween, Duration.zero]

theorem ofKept_of_unreadable {text : String} (h : ofTimestamp? text = none)
    (now : Instant) : ofKept text now = now := by
  simp [ofKept, h]

end Instant

end DatabaseOperator
