/-!
# Numbers

A number is whole, or a floating-point number of 64 bits, held by its bits. A floating-point
number is written with the fewest digits that still name it, and of those the nearest.

* `Float64.shortest` finds these digits.
* `Float64.text` writes them, with or without an exponent.
-/

namespace SqlTemplate.Json

/-- A finite floating-point number of 64 bits, by its bits. -/
structure Float64 where
  bits : UInt64
deriving DecidableEq, Repr, Inhabited

namespace Float64

/-- Whether the sign bit is set. -/
def isNegative (x : Float64) : Bool := x.bits.toNat ≥ 9223372036854775808

/-- The exponent field. -/
def exponentField (x : Float64) : Nat := x.bits.toNat / 4503599627370496 % 2048

/-- The fraction field. -/
def fractionField (x : Float64) : Nat := x.bits.toNat % 4503599627370496

/-- The whole number of which the magnitude is a multiple by a power of two. -/
def mantissa (x : Float64) : Nat :=
  if x.exponentField = 0 then x.fractionField else x.fractionField + 4503599627370496

/-- How far the power of two lies above 2 ^ (-1074). -/
def shift (x : Float64) : Nat := x.exponentField - 1

/-- Numerators of four times the magnitude and of the bounds of what is rounded to it, over the
denominator `2 ^ 1076`. -/
def interval (x : Float64) : Nat × Nat × Nat :=
  let scale := Nat.pow 2 x.shift
  let below := if x.fractionField = 0 ∧ 1 < x.exponentField then 1 else 2
  ((4 * x.mantissa - below) * scale, 4 * x.mantissa * scale, (4 * x.mantissa + 2) * scale)

/-- The common denominator of `interval`. -/
def denominator : Nat := Nat.pow 2 1076

/-- The number of places before the point of `value / denominator`, negative for leading zeros
after it. -/
def pointPosition (value : Nat) : Int :=
  if denominator ≤ value then ((Nat.toDigits 10 (value / denominator)).length : Int)
  else
    let zeros := ((List.range 400).find? fun j => denominator ≤ value * Nat.pow 10 (j + 1)).getD 0
    Int.neg zeros

/-- Whether the decimal `d * 10 ^ e` is rounded to the number. -/
def names (x : Float64) (d : Nat) (e : Int) : Bool :=
  let (low, _, high) := x.interval
  let left := d * denominator * Nat.pow 10 e.toNat
  let unit := Nat.pow 10 (-e).toNat
  if x.mantissa % 2 = 0 then low * unit ≤ left && left ≤ high * unit
  else low * unit < left && left < high * unit

/-- The nearest decimal with `n` digits that names the number, if there is one. -/
def digitsOf? (x : Float64) (n : Nat) : Option (Nat × Int) :=
  let (_, value, _) := x.interval
  let e := pointPosition value - n
  let numerator := value * Nat.pow 10 (-e).toNat
  let unit := denominator * Nat.pow 10 e.toNat
  let d := numerator / unit
  let below := if x.names d e then some (d, e) else none
  let above := if x.names (d + 1) e then some (d + 1, e) else none
  match below, above with
  | some a, some b => if 2 * (numerator % unit) ≤ unit then some a else some b
  | some a, none => some a
  | none, b => b

/-- The digits of a whole number without the zeros at its end, and how many those are. -/
def stripZeros (d : Nat) : List Char × Nat :=
  let digits := (Nat.toDigits 10 d).reverse
  let kept := digits.dropWhile (· = '0')
  (kept.reverse, digits.length - kept.length)

/-- The fewest digits that name a number that is not zero, and the power of ten of the last. -/
def shortest (x : Float64) : List Char × Int :=
  let (d, e) := ((List.range 17).findSome? fun n => x.digitsOf? (n + 1)).getD (0, 0)
  let (digits, zeros) := stripZeros d
  (digits, e + zeros)

/-- Digits with the point behind the first `places` of them; zeros fill up on both sides. -/
def withPoint (digits : List Char) (places : Int) : List Char :=
  if places ≤ 0 then ['0', '.'] ++ List.replicate (-places).toNat '0' ++ digits
  else if (digits.length : Int) ≤ places then
    digits ++ List.replicate (places.toNat - digits.length) '0' ++ ['.', '0']
  else digits.take places.toNat ++ ['.'] ++ digits.drop places.toNat

/-- The sign of a number. -/
def signText (x : Float64) : List Char := if x.isNegative then ['-'] else []

/-- An exponent with its sign behind the letter; a plus is written too. -/
def exponentText (exponent : Int) : List Char :=
  'e' :: (if 0 ≤ exponent then ['+'] else []) ++ (toString exponent).toList

/-- Digits with the point behind the first of them, and an exponent. -/
def scientific (digits : List Char) (exponent : Int) : List Char :=
  match digits with
  | d :: next :: more => d :: '.' :: next :: more ++ exponentText exponent
  | digits => digits ++ exponentText exponent

/-- A number as written. Where the point lies between five places before the first digit and
sixteen behind it, there is no exponent. -/
def text (x : Float64) : String :=
  if x.mantissa = 0 then String.ofList (x.signText ++ ['0', '.', '0'])
  else
    let (digits, e) := x.shortest
    let places := e + digits.length
    String.ofList (x.signText ++
      if -5 < places ∧ places ≤ 16 then withPoint digits places
      else scientific digits (places - 1))

end Float64

/-- A number. -/
inductive Number where
  | int (value : Int)
  | float (value : Float64)
deriving DecidableEq, Repr, Inhabited

/-- A number as written. -/
def Number.text : Number → String
  | .int value => toString value
  | .float value => value.text

end SqlTemplate.Json
