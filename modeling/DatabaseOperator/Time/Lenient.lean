import DatabaseOperator.Text.Blank
import DatabaseOperator.Time.Instant

/-!
# Timestamps read leniently

Objects of the cluster carry timestamps that people may have written. They are
read more generously than those that the operator keeps itself: blanks may stand
between the parts, numbers may be short, and years outside 0 to 9999 have a
sign.

- `Instant.Fault`: why a text is no timestamp, and `Instant.Fault.message`: that
  in words.
- `Instant.lenientDate`, `Instant.lenientClock`, `Instant.lenientOffset`: the
  parts of a timestamp.
- `Instant.inRange`: the instants that the calendar of the cluster knows.
- `Instant.ofLenient`: the instant that a text writes, and `Instant.ofLenient?`:
  the same without the reason.
- `Instant.wholeSeconds`: the form in which such a timestamp is written, without
  fraction.
-/

namespace DatabaseOperator.Instant

/-- Why a text is no timestamp. -/
inductive Fault where
  | tooShort
  | badCharacter
  | outOfRange
  | tooLong
deriving DecidableEq, Repr

/-- The fault in words. -/
def Fault.message : Fault → String
  | tooShort => "premature end of input"
  | badCharacter => "input contains invalid characters"
  | outOfRange => "input is out of range"
  | tooLong => "trailing input"

/-! ## Numbers and marks -/

/-- What follows blanks. -/
def afterBlanks (cs : List Char) : List Char :=
  cs.dropWhile Text.isBlank

/-- A number of at most so many digits at the front, and what follows. There has
to be a digit, and the number has to be one of 63 bits. -/
def spanNumber (most : Nat) (cs : List Char) : Except Fault (Nat × List Char) :=
  let ds := (cs.take most).takeWhile fun c => (Text.digitValue? c).isSome
  match Text.natural? ds with
  | some n =>
    if n < Nat.pow 2 63 then .ok (n, cs.drop ds.length) else .error .outOfRange
  | none => .error (if cs.isEmpty then .tooShort else .badCharacter)

/-- A number of one or two digits behind blanks, between bounds, and what
follows. -/
def shortNumber (low high : Nat) (cs : List Char) :
    Except Fault (Nat × List Char) := do
  let (n, cs) ← spanNumber 2 (afterBlanks cs)
  if low ≤ n ∧ n ≤ high then .ok (n, cs) else .error .outOfRange

/-- What follows one of some marks. -/
def afterAny (marks : List Char) : List Char → Except Fault (List Char)
  | [] => .error .tooShort
  | c :: cs => if marks.contains c then .ok cs else .error .badCharacter

/-- What follows a mark behind blanks. -/
def afterMark (mark : Char) (cs : List Char) : Except Fault (List Char) :=
  afterAny [mark] (afterBlanks cs)

/-! ## Parts -/

/-- A year behind blanks: up to four digits, or a sign and any number of
them. -/
def lenientYear (cs : List Char) : Except Fault (Int × List Char) := do
  let (year, cs) ← match afterBlanks cs with
    | '-' :: rest =>
      (spanNumber rest.length rest).map fun (n, rest) => (-(n : Int), rest)
    | '+' :: rest =>
      (spanNumber rest.length rest).map fun (n, rest) => ((n : Int), rest)
    | rest => (spanNumber 4 rest).map fun (n, rest) => ((n : Int), rest)
  if -(Int.pow 2 31) ≤ year ∧ year < Int.pow 2 31 then .ok (year, cs)
  else .error .outOfRange

/-- The years that the calendar of the cluster knows. -/
def isKnownYear (year : Int) : Bool :=
  -262143 ≤ year && year ≤ 262142

/-- The instants that the calendar of the cluster knows: those of the known
years. -/
def inRange (t : Instant) : Bool :=
  Date.toDays ⟨-262143, 1, 1⟩ ≤ t.dayCount
    && t.dayCount ≤ Date.toDays ⟨262142, 12, 31⟩

/-- The date at the front, and what follows. It need not be in the calendar. -/
def lenientDate (cs : List Char) : Except Fault (Date × List Char) := do
  let (year, cs) ← lenientYear cs
  let (month, cs) ← shortNumber 1 12 (← afterMark '-' cs)
  let (day, cs) ← shortNumber 1 31 (← afterMark '-' cs)
  return (⟨year, month, day⟩, cs)

/-- The nanoseconds of a fraction, if a point follows, and what comes after
it. -/
def lenientFraction (cs : List Char) : Except Fault (Nat × List Char) :=
  match fraction? cs with
  | some parts => .ok parts
  | none => .error (if cs.length ≤ 1 then .tooShort else .badCharacter)

/-- The time of day at the front in seconds and nanoseconds, and what follows.
Second 60 is a leap second. -/
def lenientClock (cs : List Char) : Except Fault ((Nat × Nat) × List Char) := do
  let (hour, cs) ← shortNumber 0 23 cs
  let (minute, cs) ← shortNumber 0 59 (← afterMark ':' cs)
  let (second, cs) ← shortNumber 0 60 (← afterMark ':' cs)
  let (nanos, cs) ← lenientFraction cs
  let clock := hour * 3600 + minute * 60
  return if second = 60 then ((clock + 59, nanos + 1000000000), cs)
    else ((clock + second, nanos), cs)

/-- A number of exactly two digits at the front, and what follows. -/
def fullNumber (cs : List Char) : Except Fault (Nat × List Char) :=
  match twoDigits? cs with
  | some parts => .ok parts
  | none =>
    .error (if (String.ofList cs).utf8ByteSize < 2 then .tooShort
      else .badCharacter)

/-- The seconds by which local time is ahead, from an offset at the front, and
what follows: a zone without offset, or a sign, two digits of hours, colons and
blanks if any, and two digits of minutes. -/
def lenientOffset : List Char → Except Fault (Int × List Char)
  | [] => .error .tooShort
  | c :: cs =>
    if c = 'Z' ∨ c = 'z' then .ok (0, cs)
    else if (c :: cs.take 2).map Char.toUpper = ['U', 'T', 'C']
      then .ok (0, cs.drop 2)
    else do
      let sign : Int ←
        if c = '+' then .ok 1
        else if c = '-' ∨ c = '\u2212' then .ok (-1) else .error .badCharacter
      let (hours, cs) ← fullNumber cs
      let (minutes, cs) ← fullNumber
        (cs.dropWhile fun c => c = ':' || Text.isBlank c)
      if minutes ≤ 59 then .ok (sign * (hours * 3600 + minutes * 60), cs)
      else .error .outOfRange

/-! ## Timestamps -/

/-- The instant that a text writes. Date and time are parted by a letter or a
space, and offsets are below a day. -/
def ofLenient (s : String) : Except Fault Instant := do
  let (date, cs) ← lenientDate s.toList
  let ((clock, nanos), cs) ← lenientClock (← afterAny ['T', 't', ' '] cs)
  let (offset, cs) ← lenientOffset (afterBlanks cs)
  if !cs.all Text.isBlank then .error .tooLong
  else
    match shown? (date.toDays * 86400 + clock - offset) nanos with
    | some t =>
      if isKnownYear date.year && date.isReal && offset.natAbs < 86400
        && t.inRange then .ok t
      else .error .outOfRange
    | none => .error .outOfRange

/-- The instant that a text writes, if it writes one. -/
def ofLenient? (s : String) : Option Instant :=
  (ofLenient s).toOption

/-- The beginning of the second in which an instant lies. -/
def secondBegan (t : Instant) : Instant where
  seconds := t.seconds
  nanos :=
    ⟨t.nanos.val / 1000000000 * 1000000000,
      Nat.lt_of_le_of_lt (Nat.div_mul_le_self _ _) t.nanos.isLt⟩

/-- The timestamp of an instant with the offset `Z`, to the second that it lies
in. -/
def wholeSeconds (t : Instant) : String :=
  String.ofList (t.secondBegan.clockChars ++ ['Z'])

end DatabaseOperator.Instant
