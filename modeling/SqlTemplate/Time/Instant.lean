import SqlTemplate.Time.Calendar

/-!
# Instants

A moment of UTC with nanosecond resolution. A leap second is held as the second before it with
nanoseconds from one to two thousand million, so it sorts between its neighbours.
-/

namespace SqlTemplate.Time

/-- Seconds of a day. -/
def daySeconds : Nat := 86400

/-- Nanoseconds of a second. -/
def secondNanos : Nat := 1000000000

/-- The first second of the year -262143. -/
def minSeconds : Int := -8334601228800

/-- The last second of the year 262142. -/
def maxSeconds : Int := 8210266876799

/-- A moment of UTC: seconds from 1970-01-01 and nanoseconds. -/
structure Instant where
  seconds : Int
  nanos : Nat
  seconds_ge : minSeconds ≤ seconds
  seconds_le : seconds ≤ maxSeconds
  nanos_lt : nanos < 2 * secondNanos
  leap : secondNanos ≤ nanos → seconds % 60 = 59
deriving DecidableEq, Repr

namespace Instant

/-- The instant with these seconds and nanoseconds, if there is one. -/
def of? (seconds : Int) (nanos : Nat) : Option Instant :=
  if h : (minSeconds ≤ seconds ∧ seconds ≤ maxSeconds) ∧
      nanos < 2 * secondNanos ∧ (secondNanos ≤ nanos → seconds % 60 = 59) then
    some ⟨seconds, nanos, h.1.1, h.1.2, h.2.1, h.2.2⟩
  else none

/-- The start of 1970. -/
def epoch : Instant := ⟨0, 0, by decide, by decide, by decide, by decide⟩

instance : Inhabited Instant := ⟨epoch⟩

/-- The order of time. -/
def le (a b : Instant) : Bool :=
  a.seconds < b.seconds || (a.seconds == b.seconds && a.nanos ≤ b.nanos)

instance : LE Instant := ⟨fun a b => a.le b⟩

instance (a b : Instant) : Decidable (a ≤ b) := inferInstanceAs (Decidable (a.le b = true))

protected theorem le_refl (t : Instant) : t ≤ t := by
  show t.le t = true
  simp [le]

/-- Milliseconds from the start of 1970, rounded down. The milliseconds of a leap second count on
from those of the second before it. -/
def millis (t : Instant) : Int := t.seconds * 1000 + t.nanos / 1000000

/-- The instant so many milliseconds from the start of 1970. -/
def ofMillis? (ms : Int) : Option Instant :=
  of? (ms / 1000) ((ms % 1000).toNat * 1000000)

/-- The day of an instant. -/
def date (t : Instant) : Date := Date.ofDays (t.seconds / daySeconds)

/-- Whether an instant lies in a leap second. -/
def isLeap (t : Instant) : Bool := secondNanos ≤ t.nanos

/-- Seconds since midnight, a leap second apart. -/
def secondOfDay (t : Instant) : Nat := (t.seconds % daySeconds).toNat

/-- Hour of the day. -/
def hour (t : Instant) : Nat := t.secondOfDay / 3600

/-- Minute of the hour. -/
def minute (t : Instant) : Nat := t.secondOfDay / 60 % 60

/-- Second of the minute, 60 in a leap second. -/
def second (t : Instant) : Nat := t.secondOfDay % 60 + (if t.isLeap then 1 else 0)

/-- Nanoseconds of the second. -/
def subsecond (t : Instant) : Nat := t.nanos % secondNanos

end Instant

/-- A number with zeros in front up to a width. -/
def padded (width n : Nat) : String :=
  let digits := Nat.toDigits 10 n
  String.ofList (List.replicate (width - digits.length) '0' ++ digits)

/-- A year: four digits from 0 to 9999, otherwise a sign and at least four digits. -/
def yearText (year : Int) : String :=
  if 0 ≤ year ∧ year ≤ 9999 then padded 4 year.toNat
  else (if year < 0 then "-" else "+") ++ padded 4 year.natAbs

/-- A date as `year-month-day`. -/
def Date.display (d : Date) : String :=
  yearText d.year ++ "-" ++ padded 2 d.month ++ "-" ++ padded 2 d.day

namespace Instant

/-- The time of day as `hour:minute:second`. -/
def clockText (t : Instant) : String :=
  padded 2 t.hour ++ ":" ++ padded 2 t.minute ++ ":" ++ padded 2 t.second

/-- The fraction of the second with as few digits of 0, 3, 6 or 9 as it needs. -/
def fractionText (t : Instant) : String :=
  let n := t.subsecond
  if n == 0 then ""
  else if n % 1000000 == 0 then "." ++ padded 3 (n / 1000000)
  else if n % 1000 == 0 then "." ++ padded 6 (n / 1000)
  else "." ++ padded 9 n

/-- An instant as `2023-01-01T00:00:00Z`. -/
def timestamp (t : Instant) : String :=
  t.date.display ++ "T" ++ t.clockText ++ t.fractionText ++ "Z"

/-- An instant as `2023-01-01 00:00:00 UTC`. -/
def display (t : Instant) : String :=
  t.date.display ++ " " ++ t.clockText ++ t.fractionText ++ " UTC"

/-- An instant to the second, as `2023-01-01 00:00:00`. -/
def secondsText (t : Instant) : String :=
  t.date.display ++ " " ++ t.clockText

/-- An instant to the millisecond, as `2023-01-01 00:00:00.000`. -/
def millisText (t : Instant) : String :=
  t.secondsText ++ "." ++ padded 3 (t.subsecond / 1000000)

end Instant

end SqlTemplate.Time
