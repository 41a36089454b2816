import SqlTemplate.Text.Blank
import SqlTemplate.Time.Duration
import SqlTemplate.Time.Instant

/-!
# Reading timestamps

Two readers of `2023-01-01T00:00:00.5+01:00`. The strict one takes four digits for the year and two
for every other field. The relaxed one also takes shorter fields, blanks before fields, signed
years of any length, `UTC` for the offset and blanks at the end.
-/

namespace SqlTemplate.Time.Timestamp

/-- Why a text is not a timestamp. -/
inductive Error where
  | tooShort
  | invalid
  | outOfRange
  | tooLong
  | impossible
deriving DecidableEq, Repr

/-- The wording of an error. -/
def Error.message : Error → String
  | .tooShort => "premature end of input"
  | .invalid => "input contains invalid characters"
  | .outOfRange => "input is out of range"
  | .tooLong => "trailing input"
  | .impossible => "no possible date and time matching input"

/-- A reader of the front of a text. -/
abbrev Reader := StateT (List Char) (Except Error)

/-- Drops the blanks in front. -/
def blanks : Reader Unit := modify (·.dropWhile Text.isBlank)

/-- Reads one given character. -/
def char (c : Char) : Reader Unit := do
  match ← get with
  | [] => throw .tooShort
  | d :: rest => if d = c then set rest else throw .invalid

/-- Reads at least one digit and at most `most` of them. -/
def digits (most : Nat) : Reader (List Char) := do
  let cs ← get
  let ds := (cs.take most).takeWhile Char.isDigit
  if cs.isEmpty then throw .tooShort
  else if ds.isEmpty then throw .invalid
  else
    set (cs.drop ds.length)
    return ds

/-- The largest number that a field may hold. -/
def maxField : Nat := 9223372036854775807

/-- Reads a number of at most `most` digits. -/
def number (most : Nat) : Reader Nat := do
  let n := Duration.digitsValue (← digits most)
  if maxField < n then throw .outOfRange else return n

/-- Reads a number of exactly `width` digits. -/
def fixed (width : Nat) : Reader Nat := do
  let cs ← get
  let ds := (cs.take width).takeWhile Char.isDigit
  if cs.length < width then throw .tooShort
  else if ds.length < width then throw .invalid
  else
    set (cs.drop width)
    return Duration.digitsValue ds

/-- Refuses a field outside its bounds. -/
def within (lo hi n : Nat) : Reader Nat :=
  if lo ≤ n ∧ n ≤ hi then return n else throw .outOfRange

/-- Reads a fraction of a second behind its point, as nanoseconds: nine digits count, further ones
are dropped. A text without a point has no fraction. -/
def fraction : Reader Nat := do
  match ← get with
  | '.' :: rest =>
    set rest
    let ds ← digits 9
    modify (·.dropWhile Char.isDigit)
    return Duration.digitsValue ds * Nat.pow 10 (9 - ds.length)
  | _ => return 0

/-- Reads the letter between date and time. -/
def divider : Reader Unit := do
  match ← get with
  | [] => throw .tooShort
  | c :: rest => if c = 'T' ∨ c = 't' ∨ c = ' ' then set rest else throw .invalid

/-- Reads two digits of an offset. -/
def offsetDigits : Reader (Nat × Nat) := do
  match ← get with
  | a :: b :: rest =>
    if a.isDigit && b.isDigit then
      set rest
      return (a.toNat - 48, b.toNat - 48)
    else throw .invalid
  | [a] => if a.toNat < 0x80 then throw .tooShort else throw .invalid
  | [] => throw .tooShort

/-- Reads an offset from UTC in seconds; `separator` reads what stands between hours and
minutes. -/
def offset (separator : Reader Unit) : Reader Int := do
  match ← get with
  | [] => throw .tooShort
  | c :: rest =>
    if c = 'Z' ∨ c = 'z' then
      set rest
      return 0
    else if c = '+' ∨ c = '-' ∨ c = '−' then
      set rest
      let (h1, h2) ← offsetDigits
      separator
      let (m1, m2) ← offsetDigits
      if 6 ≤ m1 then throw .outOfRange
      let seconds : Int := ((h1 * 10 + h2) * 3600 + (m1 * 10 + m2) * 60 : Nat)
      return if c = '+' then seconds else -seconds
    else throw .invalid

/-- The fields of a timestamp, each within its own bounds. -/
structure Fields where
  year : Int
  month : Nat
  day : Nat
  hour : Nat
  minute : Nat
  second : Nat
  nanos : Nat
  offset : Int
deriving DecidableEq, Repr

/-- The first and the last year that an instant can have. -/
def yearBounds : Int × Int := (-262143, 262142)

/-- The instant that the fields name. Second 60 is a leap second. -/
def Fields.instant (f : Fields) : Except Error Instant :=
  let date : Date := ⟨f.year, f.month, f.day⟩
  if f.year < yearBounds.1 ∨ yearBounds.2 < f.year ∨ ¬ date.Valid then .error .outOfRange
  else if f.offset ≤ -86400 ∨ 86400 ≤ f.offset then .error .outOfRange
  else
    let second := if f.second = 60 then 59 else f.second
    let nanos := f.nanos + if f.second = 60 then secondNanos else 0
    let seconds := date.toDays * daySeconds + (f.hour * 3600 + f.minute * 60 + second : Nat)
    match Instant.of? (seconds - f.offset) nanos with
    | some t => .ok t
    | none => .error .impossible

/-- The strict form. -/
def strictFields : Reader Fields := do
  let year ← fixed 4
  char '-'
  let month ← fixed 2 >>= within 1 12
  char '-'
  let day ← fixed 2 >>= within 1 31
  divider
  let hour ← fixed 2 >>= within 0 23
  char ':'
  let minute ← fixed 2 >>= within 0 59
  char ':'
  let second ← fixed 2 >>= within 0 60
  let nanos ← fraction
  let offset ← offset (char ':')
  return { year, month, day, hour, minute, second, nanos, offset }

/-- The strict reader. -/
def parseStrict (text : String) : Except Error Instant := do
  let (fields, rest) ← strictFields.run text.toList
  if rest.isEmpty then fields.instant else .error .tooLong

/-- A year of at most four digits, or a sign and any number of digits. -/
def signedYear : Reader Int := do
  blanks
  let year : Int ← match ← get with
    | '-' :: rest => do
      set rest
      let n ← number rest.length
      pure (-(n : Int))
    | '+' :: rest => do
      set rest
      let n ← number rest.length
      pure (n : Int)
    | _ => do
      let n ← number 4
      pure (n : Int)
  if -2147483648 ≤ year ∧ year ≤ 2147483647 then return year else throw .outOfRange

/-- A field of at most two digits, with blanks before it. -/
def shortField (lo hi : Nat) : Reader Nat := do
  blanks
  number 2 >>= within lo hi

/-- A character with blanks before it. -/
def spacedChar (c : Char) : Reader Unit := do
  blanks
  char c

/-- The offset of the relaxed form, which may be the letters `UTC` in either case. -/
def relaxedOffset : Reader Int := do
  blanks
  match ← get with
  | a :: b :: c :: rest =>
    if [a, b, c].map Char.toUpper = ['U', 'T', 'C'] then
      set rest
      return 0
    else offset (modify (·.dropWhile fun d => d == ':' || Text.isBlank d))
  | _ => offset (modify (·.dropWhile fun d => d == ':' || Text.isBlank d))

/-- The relaxed form. -/
def relaxedFields : Reader Fields := do
  let year ← signedYear
  spacedChar '-'
  let month ← shortField 1 12
  spacedChar '-'
  let day ← shortField 1 31
  divider
  let hour ← shortField 0 23
  spacedChar ':'
  let minute ← shortField 0 59
  spacedChar ':'
  let second ← shortField 0 60
  let nanos ← fraction
  let offset ← relaxedOffset
  return { year, month, day, hour, minute, second, nanos, offset }

/-- The relaxed reader. -/
def parse (text : String) : Except Error Instant := do
  let (fields, rest) ← relaxedFields.run text.toList
  if rest.all Text.isBlank then fields.instant else .error .tooLong

end SqlTemplate.Time.Timestamp
