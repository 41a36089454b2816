import SqlTemplate.Text.Blank

/-!
# Durations

A duration is written as a sequence of terms, each a decimal number and a unit: `1h30m`, `1.5s`,
`500ms`. It is held as a whole number of nanoseconds.

* `Duration.terms` cuts a text into its terms.
* `Duration.Term.nanos` is the worth of one term.
* `Duration.parse` reads a text.
-/

namespace SqlTemplate.Time

/-- The largest duration, in nanoseconds. -/
def maxDurationNanos : Nat := 9223372036854775807

/-- A span of time in whole nanoseconds. -/
structure Duration where
  nanos : Nat
  nanos_le : nanos ≤ maxDurationNanos
deriving DecidableEq, Repr

namespace Duration

/-- No time at all. -/
def zero : Duration := ⟨0, by decide⟩

instance : Inhabited Duration := ⟨zero⟩

/-- Whole milliseconds. -/
def millis (d : Duration) : Nat := d.nanos / 1000000

/-- Whole seconds. -/
def seconds (d : Duration) : Nat := d.nanos / 1000000000

/-- Why a text is not a duration; each cause keeps the text. -/
inductive Error where
  | invalid (input : String)
  | missingUnit (input : String)
  | unknownUnit (unit input : String)
  | negative (input : String)
  | overflow (input : String)
deriving DecidableEq, Repr

/-- The wording of an error. -/
def Error.message : Error → String
  | .invalid input => "time: invalid duration \"" ++ input ++ "\""
  | .missingUnit input => "time: missing unit in duration \"" ++ input ++ "\""
  | .unknownUnit unit input =>
    "time: unknown unit \"" ++ unit ++ "\" in duration \"" ++ input ++ "\""
  | .negative input => "time: negative duration \"" ++ input ++ "\" is not allowed"
  | .overflow input => "time: duration \"" ++ input ++ "\" out of range"

/-- A number and the unit behind it, as written. -/
structure Term where
  number : List Char
  unit : List Char
deriving DecidableEq, Repr

/-- A character of a number: a digit or a point. -/
def isNumeral (c : Char) : Bool := c.isDigit || c == '.'

/-- Cuts a text into terms: each number is a longest run of numerals, each unit the run between
two numbers. Only the first number and the last unit can be empty. -/
def terms : List Char → List Term
  | [] => []
  | c :: cs =>
    match terms cs with
    | [] => if isNumeral c then [⟨[c], []⟩] else [⟨[], [c]⟩]
    | t :: ts =>
      if isNumeral c then ⟨c :: t.number, t.unit⟩ :: ts
      else if t.number.isEmpty then ⟨[], c :: t.unit⟩ :: ts
      else ⟨[], [c]⟩ :: t :: ts

/-- The nanoseconds of a unit. The micro sign and the Greek letter mu are both accepted. -/
def unitNanos? (unit : List Char) : Option Nat :=
  match unit with
  | ['n', 's'] => some 1
  | ['u', 's'] => some 1000
  | ['µ', 's'] => some 1000
  | ['μ', 's'] => some 1000
  | ['m', 's'] => some 1000000
  | ['s'] => some 1000000000
  | ['m'] => some 60000000000
  | ['h'] => some 3600000000000
  | _ => none

/-- The number that decimal digits spell. -/
def digitsValue (ds : List Char) : Nat :=
  ds.foldl (fun n d => 10 * n + (d.toNat - 48)) 0

/-- The largest number that a step of the computation may reach. -/
def maxWide : Nat := 170141183460469231731687303715884105727

/-- How many digits of a fraction are read. -/
def fractionDigits : Nat := 18

/-- The worth of a number in a unit of `scale` nanoseconds: the whole part times the unit, and the
fraction times the unit rounded down. -/
def numberNanos (input : String) (number : List Char) (scale : Nat) : Except Error Nat :=
  let whole := number.takeWhile (· != '.')
  let fraction := (number.dropWhile (· != '.')).drop 1
  if (whole.isEmpty && fraction.isEmpty) || fraction.contains '.' then .error (.invalid input)
  else if maxWide < digitsValue whole || maxWide < digitsValue whole * scale then
    .error (.overflow input)
  else
    let kept := fraction.take fractionDigits
    let value := digitsValue whole * scale + digitsValue kept * scale / Nat.pow 10 kept.length
    if maxWide < value then .error (.overflow input) else .ok value

/-- The worth of a term in nanoseconds. -/
def Term.nanos (input : String) (t : Term) : Except Error Nat :=
  if t.number.isEmpty then .error (.invalid input)
  else if t.unit.isEmpty then .error (.missingUnit input)
  else match unitNanos? t.unit with
    | none => .error (.unknownUnit (String.ofList t.unit) input)
    | some scale => numberNanos input t.number scale

/-- Adds the worth of the terms to a total, from left to right. -/
def sumTerms (input : String) : Nat → List Term → Except Error Nat
  | total, [] => .ok total
  | total, t :: ts => do
    let n ← t.nanos input
    if maxWide < total + n then .error (.overflow input) else sumTerms input (total + n) ts

/-- A duration of so many nanoseconds, unless it is too long. -/
def ofNanos? (n : Nat) : Option Duration :=
  if h : n ≤ maxDurationNanos then some ⟨n, h⟩ else none

/-- Reads a duration. The empty text and a bare `0` mean no time. -/
def parse (input : String) : Except Error Duration :=
  match Text.trimChars input.toList with
  | [] => .ok zero
  | ['0'] => .ok zero
  | '-' :: _ => .error (.negative input)
  | ['+'] => .error (.invalid input)
  | c :: cs => do
    let total ← sumTerms input 0 (terms (if c = '+' then cs else c :: cs))
    match ofNanos? total with
    | some d => .ok d
    | none => .error (.overflow input)

end Duration

end SqlTemplate.Time
