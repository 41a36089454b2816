import SqlTemplate.Time.Calendar

/-!
# Numbers and moments in TOML

Words that start with a digit or a sign: whole numbers in four bases, floating-point numbers, and
dates and times. An underscore may stand between two digits.
-/

namespace SqlTemplate.Toml

/-- The digits of a run in which single underscores may divide digits. -/
def dividedDigits (isDigit : Char → Bool) : List Char → Option (List Char)
  | [] => none
  | [c] => if isDigit c then some [c] else none
  | c :: '_' :: rest => if isDigit c then (dividedDigits isDigit rest).map (c :: ·) else none
  | c :: rest => if isDigit c then (dividedDigits isDigit rest).map (c :: ·) else none

/-- The worth of a digit of a base up to 16. -/
def digitValue (c : Char) : Nat :=
  if c.isDigit then c.toNat - 48 else if c.isLower then c.toNat - 87 else c.toNat - 55

/-- The number that digits spell in a base. -/
def numberOf (base : Nat) (digits : List Char) : Nat :=
  digits.foldl (fun n c => base * n + digitValue c) 0

/-- Whether a character is a digit of base 16. -/
def isHexDigit (c : Char) : Bool :=
  c.isDigit || ('a' ≤ c && c ≤ 'f') || ('A' ≤ c && c ≤ 'F')

/-- A decimal number without a sign, which starts with a zero only if it is zero. -/
def decimal? (cs : List Char) : Option Nat :=
  match dividedDigits Char.isDigit cs with
  | some digits =>
    if 1 < digits.length ∧ digits.head? = some '0' then none else some (numberOf 10 digits)
  | none => none

/-- A number without a sign in some base. -/
def inBase? (base : Nat) (isDigit : Char → Bool) (cs : List Char) : Option Int :=
  (dividedDigits isDigit cs).map fun digits => Int.ofNat (numberOf base digits)

/-- A whole number, if it fits into 64 bits. -/
def integer? (word : List Char) : Option Int :=
  let value : Option Int :=
    match word with
    | '0' :: 'x' :: cs => inBase? 16 isHexDigit cs
    | '0' :: 'o' :: cs => inBase? 8 (fun c => '0' ≤ c && c ≤ '7') cs
    | '0' :: 'b' :: cs => inBase? 2 (fun c => c == '0' || c == '1') cs
    | '+' :: cs => (decimal? cs).map Int.ofNat
    | '-' :: cs => (decimal? cs).map fun n => -Int.ofNat n
    | cs => (decimal? cs).map Int.ofNat
  value.filter fun n => -9223372036854775808 ≤ n ∧ n ≤ 9223372036854775807

/-- An exponent with its mark. -/
def isExponent : List Char → Bool
  | e :: cs =>
    (e == 'e' || e == 'E') &&
      (dividedDigits Char.isDigit (match cs with
        | '+' :: rest | '-' :: rest => rest
        | rest => rest)).isSome
  | [] => false

/-- The exponent behind its mark, zero if there is none. -/
def exponentOf : List Char → Int
  | _ :: '-' :: digits => -Int.ofNat (numberOf 10 digits)
  | _ :: '+' :: digits => numberOf 10 digits
  | _ :: digits => numberOf 10 digits
  | [] => 0

/-- The numbers from here on are rounded to infinity. -/
def infiniteFrom : Nat := Nat.pow 2 1024 - Nat.pow 2 970

/-- Whether digits with a power of ten behind them make a number that is rounded to infinity. -/
def isInfinite (digits : List Char) (exponent : Int) : Bool :=
  let n := numberOf 10 digits
  let places := (Nat.toDigits 10 n).length + exponent
  if n = 0 ∨ places < 309 then false
  else if 309 < places then true
  else infiniteFrom * Nat.pow 10 (-exponent).toNat ≤ n * Nat.pow 10 exponent.toNat

/-- A floating-point number without its sign: its digits, and the power of ten behind them. -/
def float? (body : List Char) : Option (List Char × Int) := do
  let isPart (c : Char) : Bool := c.isDigit || c == '_'
  let digits (cs : List Char) : List Char := cs.filter Char.isDigit
  let whole := body.takeWhile isPart
  let _ ← decimal? whole
  match body.dropWhile isPart with
  | '.' :: rest =>
    let fraction := rest.takeWhile isPart
    let exponent := rest.dropWhile isPart
    let _ ← dividedDigits Char.isDigit fraction
    if exponent.isEmpty || isExponent exponent then
      return (digits whole ++ digits fraction,
        exponentOf (exponent.filter (· ≠ '_')) - (digits fraction).length)
    else none
  | exponent =>
    if isExponent exponent then return (digits whole, exponentOf (exponent.filter (· ≠ '_')))
    else none

/-- Whether a word is a floating-point number. One that is not negative must not be rounded to
infinity. -/
def isFloat (word : List Char) : Bool :=
  let (negative, body) := match word with
    | '-' :: rest => (true, rest)
    | '+' :: rest => (false, rest)
    | rest => (false, rest)
  if body = ['i', 'n', 'f'] ∨ body = ['n', 'a', 'n'] then true
  else match float? body with
    | none => false
    | some (digits, exponent) => negative || !isInfinite digits exponent

/-- A two-digit number. -/
def twoDigits? : List Char → Option (Nat × List Char)
  | a :: b :: rest => if a.isDigit && b.isDigit then some (numberOf 10 [a, b], rest) else none
  | _ => none

/-- A date in front of a text, and the rest. -/
def date? (cs : List Char) : Option (List Char) := do
  let year := cs.take 4
  if year.length = 4 ∧ year.all Char.isDigit then
    match cs.drop 4 with
    | '-' :: rest =>
      let (month, rest) ← twoDigits? rest
      match rest with
      | '-' :: rest =>
        let (day, rest) ← twoDigits? rest
        if (Time.Date.mk (numberOf 10 year) month day).Valid then some rest else none
      | _ => none
    | _ => none
  else none

/-- A time in front of a text, and the rest. -/
def time? (cs : List Char) : Option (List Char) := do
  let (hour, rest) ← twoDigits? cs
  match rest with
  | ':' :: rest =>
    let (minute, rest) ← twoDigits? rest
    match rest with
    | ':' :: rest =>
      let (second, rest) ← twoDigits? rest
      if 23 < hour ∨ 59 < minute ∨ 60 < second then none
      else match rest with
        | '.' :: rest =>
          if (rest.takeWhile Char.isDigit).isEmpty then none
          else some (rest.dropWhile Char.isDigit)
        | rest => some rest
    | _ => none
  | _ => none

/-- An offset from UTC that fills a text. -/
def isOffset : List Char → Bool
  | [c] => c == 'Z' || c == 'z'
  | sign :: rest =>
    (sign == '+' || sign == '-') &&
      match twoDigits? rest with
      | some (hour, ':' :: rest) =>
        match twoDigits? rest with
        | some (minute, []) => hour ≤ 23 && minute ≤ 59
        | _ => false
      | _ => false
  | [] => false

/-- Whether a text is a date, a time, or both, with or without an offset. -/
def isMoment (cs : List Char) : Bool :=
  match date? cs with
  | some [] => true
  | some (divider :: rest) =>
    (divider == 'T' || divider == 't' || divider == ' ') &&
      match time? rest with
      | some [] => true
      | some offset => isOffset offset
      | none => false
  | none => time? cs == some []

end SqlTemplate.Toml
