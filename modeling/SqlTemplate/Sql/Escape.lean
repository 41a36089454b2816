/-!
# Text literals with escapes

Two kinds of text literals are held as the text that they mean, not as written.

* `readEscaped` and `escapedBody`: literals with backslash escapes for control characters, octal,
  hexadecimal and code point numbers.
* `readUnicode` and `unicodeBody`: literals in which a backslash introduces a code point.
-/

namespace SqlTemplate.Sql

/-- A hexadecimal digit. -/
def isHexDigit (c : Char) : Bool :=
  c.isDigit || ('a' ≤ c && c ≤ 'f') || ('A' ≤ c && c ≤ 'F')

/-- An octal digit. -/
def isOctalDigit (c : Char) : Bool := '0' ≤ c && c ≤ '7'

/-- The value of a hexadecimal digit. -/
def hexValue (c : Char) : Nat :=
  if c.isDigit then c.toNat - '0'.toNat else c.toLower.toNat - 'a'.toNat + 10

/-- The number that digits of a base spell. -/
def digitsValue (base : Nat) (digits : List Char) : Nat :=
  digits.foldl (fun n d => base * n + hexValue d) 0

/-- The number that hexadecimal digits spell; a plus sign may stand in front of them. -/
def hexNumber? (cs : List Char) : Option Nat :=
  let digits := match cs with
    | '+' :: rest => rest
    | _ => cs
  if digits.isEmpty || !digits.all isHexDigit then none else some (digitsValue 16 digits)

/-- The character of a code point. -/
def scalar? (n : Nat) : Option Char :=
  if n.isValidChar then some (Char.ofNat n) else none

/-- The character of the low octet of a number, if it is ASCII. -/
def octet? (n : Nat) : Option Char :=
  let low := n % 256
  if low ≤ 127 then some (Char.ofNat low) else none

/-- The first digits of a class, at most `count` of them, and what follows. -/
def takeDigits (isPart : Char → Bool) (count : Nat) (cs : List Char) : List Char × List Char :=
  let digits := (cs.take count).takeWhile isPart
  (digits, cs.drop digits.length)

/-- The character of a code point that is written with a number of digits. -/
def codePoint? (count : Nat) (cs : List Char) : Option (Char × List Char) := do
  let digits := cs.take count
  if digits.length = count then
    let n ← hexNumber? digits
    let c ← scalar? n
    return (c, cs.drop count)
  else none

/-- The character that stands behind a backslash, and what follows. A letter that starts no escape
stands for itself. -/
def escapeValue? (c : Char) (cs : List Char) : Option (Char × List Char) :=
  match c with
  | 'b' => some ('\x08', cs)
  | 'f' => some ('\x0c', cs)
  | 'n' => some ('\n', cs)
  | 'r' => some ('\r', cs)
  | 't' => some ('\t', cs)
  | 'u' => codePoint? 4 cs
  | 'U' => codePoint? 8 cs
  | 'x' =>
    let (digits, rest) := takeDigits isHexDigit 2 cs
    if digits.isEmpty then some ('x', rest)
    else (octet? (digitsValue 16 digits)).map (·, rest)
  | _ =>
    if isOctalDigit c then
      let (digits, rest) := takeDigits isOctalDigit 2 cs
      (octet? (digitsValue 8 (c :: digits))).map (·, rest)
    else some (c, cs)

/-- Reads a literal with backslash escapes behind its opening quote, with at most `fuel` characters
in it: the text that it means, and what follows its closing quote. -/
def readEscaped : (fuel : Nat) → List Char → Option (List Char × List Char)
  | 0, _ => none
  | _, [] => none
  | fuel + 1, '\'' :: '\'' :: rest =>
    (readEscaped fuel rest).map fun (text, after) => ('\'' :: text, after)
  | _ + 1, '\'' :: rest => some ([], rest)
  | _ + 1, ['\\'] => none
  | fuel + 1, '\\' :: c :: rest =>
    match escapeValue? c rest with
    | none => none
    | some (value, after) =>
      if value = '\x00' then none
      else (readEscaped fuel after).map fun (text, after) => (value :: text, after)
  | fuel + 1, c :: rest => (readEscaped fuel rest).map fun (text, after) => (c :: text, after)

/-- Writes a text between the quotes of a literal with backslash escapes. -/
def escapedBody (cs : List Char) : List Char :=
  cs.flatMap fun c =>
    match c with
    | '\'' => ['\\', '\'']
    | '\\' => ['\\', '\\']
    | '\n' => ['\\', 'n']
    | '\t' => ['\\', 't']
    | '\r' => ['\\', 'r']
    | _ => [c]

/-- Why a literal with code points cannot be read. -/
inductive CodePointError where
  | unterminated
  | missingDigit
  | badDigit (c : Char)
  | badCodePoint (n : Nat)
deriving DecidableEq, Repr

/-- The number of the next hexadecimal digits, of which `count` are still to be read. -/
def readHexDigits : (count value : Nat) → List Char →
    Except (CodePointError × List Char) (Nat × List Char)
  | 0, value, cs => .ok (value, cs)
  | _ + 1, _, [] => .error (.missingDigit, [])
  | count + 1, value, c :: cs =>
    if isHexDigit c then readHexDigits count (16 * value + hexValue c) cs
    else .error (.badDigit c, cs)

/-- The character of the next hexadecimal digits. -/
def readCodePoint (count : Nat) (cs : List Char) :
    Except (CodePointError × List Char) (Char × List Char) := do
  let (n, rest) ← readHexDigits count 0 cs
  match scalar? n with
  | some c => return (c, rest)
  | none => throw (.badCodePoint n, rest)

/-- Reads a literal with code points behind its opening quote, with at most `fuel` characters in
it: the text that it means, and what follows its closing quote. -/
def readUnicode : (fuel : Nat) → List Char →
    Except (CodePointError × List Char) (List Char × List Char)
  | 0, _ => .error (.unterminated, [])
  | _, [] => .error (.unterminated, [])
  | fuel + 1, '\'' :: '\'' :: rest => do
    let (text, after) ← readUnicode fuel rest
    return ('\'' :: text, after)
  | _ + 1, '\'' :: rest => .ok ([], rest)
  | fuel + 1, '\\' :: '\\' :: rest => do
    let (text, after) ← readUnicode fuel rest
    return ('\\' :: text, after)
  | fuel + 1, '\\' :: '+' :: rest => do
    let (c, rest) ← readCodePoint 6 rest
    let (text, after) ← readUnicode fuel rest
    return (c :: text, after)
  | fuel + 1, '\\' :: rest => do
    let (c, rest) ← readCodePoint 4 rest
    let (text, after) ← readUnicode fuel rest
    return (c :: text, after)
  | fuel + 1, c :: rest => do
    let (text, after) ← readUnicode fuel rest
    return (c :: text, after)

/-- A number in upper-case hexadecimal digits, with zeros in front up to a width. -/
def hexText (width n : Nat) : List Char :=
  let digits := (Nat.toDigits 16 n).map Char.toUpper
  List.replicate (width - digits.length) '0' ++ digits

/-- Writes a text between the quotes of a literal with code points. -/
def unicodeBody (cs : List Char) : List Char :=
  cs.flatMap fun c =>
    if c = '\'' then ['\'', '\'']
    else if c = '\\' then ['\\', '\\']
    else if c.toNat < 128 then [c]
    else if c.toNat ≤ 0xFFFF then '\\' :: hexText 4 c.toNat
    else '\\' :: '+' :: hexText 6 c.toNat

end SqlTemplate.Sql
