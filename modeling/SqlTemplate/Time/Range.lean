import SqlTemplate.Time.Duration
import SqlTemplate.Time.Instant

/-!
# Time ranges

A closed range of instants whose start is not after its end, and its rounding to whole multiples
of a unit counted from the start of 1970.
-/

namespace SqlTemplate.Time

/-- The instants from `start` to `stop`, both included. -/
structure Range where
  start : Instant
  stop : Instant
  start_le_stop : start ≤ stop
deriving DecidableEq, Repr

namespace Range

/-- Why there is no such range. -/
inductive Error where
  | inverted (start stop : Instant)
  | outOfRange (bound : Instant)
deriving DecidableEq, Repr

/-- The wording of an error. -/
def Error.message : Error → String
  | .inverted start stop =>
    "invalid time range: from (" ++ start.display ++ ") is after to (" ++ stop.display ++ ")"
  | .outOfRange bound => "timestamp " ++ bound.display ++ " cannot be rounded"

/-- The range between two instants. -/
def of (start stop : Instant) : Except Error Range :=
  if h : start ≤ stop then .ok ⟨start, stop, h⟩ else .error (.inverted start stop)

/-- The multiple of a unit nearest to a count; the larger one if two are equally near. -/
def nearestMultiple (unit : Nat) (count : Int) : Int :=
  let remainder := count % unit
  if remainder * 2 ≥ unit then count - remainder + unit else count - remainder

/-- Rounds an instant to a unit in milliseconds. -/
def roundInstant (unit : Nat) (t : Instant) : Except Error Instant :=
  match Instant.ofMillis? (nearestMultiple unit t.millis) with
  | some r => .ok r
  | none => .error (.outOfRange t)

/-- Rounds both bounds to the nearest multiple of a unit. A unit below one millisecond leaves the
range as it is. -/
def round (r : Range) (unit : Duration) : Except Error Range :=
  if unit.millis = 0 then .ok r
  else do
    let start ← roundInstant unit.millis r.start
    let stop ← roundInstant unit.millis r.stop
    of start stop

end Range

end SqlTemplate.Time
