import SqlTemplate.Json.Value
import SqlTemplate.Text.Report
import SqlTemplate.Text.Utf8

/-!
# Decoding

A decoder reads what it expects from the front of a text and stops at the first thing that does not
fit. Its errors name a place: the line and the number of bytes read of that line. An error that is
about a value, and not about a character, gets the place that reading has reached when the
enclosing object or array is left.

A value that has been read already is decoded as its own text; errors then have no place.
-/

namespace SqlTemplate.Json

/-- Why a text does not fit, and where. -/
structure DecodeError where
  message : String
  place : Option (Nat × Nat)
deriving DecidableEq, Repr, Inhabited

/-- The error with its place, if it has one. -/
def DecodeError.display (e : DecodeError) : String :=
  match e.place with
  | none => e.message
  | some (line, column) =>
    e.message ++ " at line " ++ toString line ++ " column " ++ toString column

/-- What is being decoded. -/
inductive Source where
  | text
  | value
deriving DecidableEq, Repr, Inhabited

/-- What is left to read, and the place that reading has reached. -/
structure Cursor where
  source : Source
  rest : List Text.Symbol
  line : Nat
  column : Nat
deriving DecidableEq, Repr

/-- The start of some symbols. -/
def Cursor.start (source : Source) (symbols : List Text.Symbol) : Cursor :=
  { source, rest := symbols, line := 1, column := 0 }

/-- The place behind a symbol. -/
def Cursor.placeAfter (c : Cursor) : Text.Symbol → Nat × Nat
  | .char '\n' => (c.line + 1, 0)
  | s => (c.line, c.column + s.size)

/-- The place behind some symbols that start at a place, or behind the first of their bytes if
there are more than `bytes`. -/
def placeAfterBytes : (place : Nat × Nat) → (bytes : Nat) → List Text.Symbol → Nat × Nat
  | place, _, [] => place
  | (line, column), bytes, s :: rest =>
    if bytes < s.size then (line, column + bytes)
    else match s with
      | .char '\n' => placeAfterBytes (line + 1, 0) (bytes - 1) rest
      | _ => placeAfterBytes (line, column + s.size) (bytes - s.size) rest

/-- The place behind so many bytes. -/
def Cursor.placeAfterBytes (c : Cursor) (bytes : Nat) : Nat × Nat :=
  Json.placeAfterBytes (c.line, c.column) bytes c.rest

/-- A reader that keeps the place where it failed. -/
abbrev Decoder := EStateM DecodeError Cursor

namespace Decoder

/-- The next symbol. -/
def peek : Decoder (Option Text.Symbol) := return (← get).rest.head?

/-- Takes the next symbol. -/
def take : Decoder (Option Text.Symbol) := do
  let c ← get
  match c.rest with
  | [] => return none
  | s :: rest =>
    let (line, column) := c.placeAfter s
    set { c with rest, line, column }
    return some s

/-- Fails at the place that has been reached. -/
def failHere {α : Type} (message : String) : Decoder α := do
  let c ← get
  throw ⟨message, some (c.line, c.column)⟩

/-- Fails at the next byte. -/
def failNext {α : Type} (message : String) : Decoder α := do
  let c ← get
  match c.rest with
  | [] => failHere message
  | .char '\n' :: _ => throw ⟨message, some (c.line + 1, 0)⟩
  | _ => throw ⟨message, some (c.line, c.column + 1)⟩

/-- Fails because of a value; the place is found later. -/
def failValue {α : Type} (message : String) : Decoder α := throw ⟨message, none⟩

/-- Gives an error without a place the one that reading has reached. -/
def placed {α : Type} (d : Decoder α) : Decoder α := fun c =>
  match d c with
  | .ok a c => .ok a c
  | .error ⟨message, none⟩ c => .error ⟨message, some (c.line, c.column)⟩ c
  | .error e c => .error e c

/-- Runs a decoder and then a closing one, also where the first fails; the error of the first
counts. -/
def closedBy {α : Type} (d : Decoder α) (closing : Decoder Unit) : Decoder α := fun c =>
  match d c with
  | .ok a c =>
    match closing c with
    | .ok _ c => .ok a c
    | .error e c => .error e c
  | .error e c =>
    match closing c with
    | .ok _ c => .error e c
    | .error _ c => .error e c

/-- A blank between tokens. -/
def isBlank (c : Char) : Bool := c = ' ' ∨ c = '\n' ∨ c = '\t' ∨ c = '\r'

/-- Skips blanks, at most `fuel` of them. -/
def skipBlanks : (fuel : Nat) → Decoder Unit
  | 0 => return
  | fuel + 1 => do
    match ← peek with
    | some (.char c) =>
      if isBlank c then
        let _ ← take
        skipBlanks fuel
    | _ => return

/-- The number of symbols left. -/
def remaining : Decoder Nat := return (← get).rest.length

/-- Skips blanks; the character that comes then, NUL for a byte that is no character. -/
def nextToken : Decoder (Option Char) := do
  skipBlanks (← remaining)
  match ← peek with
  | none => return none
  | some (.char c) => return some c
  | some (.stray _) => return some '\x00'

/-- The rest of a word. -/
def word : List Char → Decoder Unit
  | [] => return
  | c :: cs => do
    match ← peek with
    | none => failHere "EOF while parsing a value"
    | some s =>
      if s = .char c then
        let _ ← take
        word cs
      else failNext "expected ident"

/-- The value of a hexadecimal digit. -/
def hexValue? (s : Text.Symbol) : Option Nat :=
  match s with
  | .char c =>
    if c.isDigit then some (c.toNat - 48)
    else if 'a' ≤ c ∧ c ≤ 'f' then some (c.toNat - 87)
    else if 'A' ≤ c ∧ c ≤ 'F' then some (c.toNat - 55)
    else none
  | .stray _ => none

/-- The number of bytes of some symbols. -/
def byteCount (symbols : List Text.Symbol) : Nat := symbols.foldl (fun n s => n + s.size) 0

/-- Takes so many symbols. -/
def takeMany : Nat → Decoder Unit
  | 0 => return
  | n + 1 => do
    let _ ← take
    takeMany n

/-- Four hexadecimal digits. -/
def hexEscape : Decoder Nat := do
  let c ← get
  let digits := c.rest.take 4
  if byteCount digits < 4 then
    takeMany c.rest.length
    failHere "EOF while parsing a string"
  else if digits.all (·.size = 1) then
    takeMany 4
    match digits.map hexValue? with
    | [some a, some b, some c, some d] => return ((a * 16 + b) * 16 + c) * 16 + d
    | _ => failHere "invalid escape"
  else throw ⟨"invalid escape", some (c.placeAfterBytes 4)⟩

/-- The next symbol where a text must go on. -/
def peekInString : Decoder Text.Symbol := do
  match ← peek with
  | some s => return s
  | none => failHere "EOF while parsing a string"

/-- Takes a symbol where a text must go on. -/
def takeInString : Decoder Text.Symbol := do
  let s ← peekInString
  let _ ← take
  return s

/-- Takes a character where a text must go on with it, or fails at its first byte. -/
def expectInString (c : Char) (message : String) : Decoder Unit := do
  if (← peekInString) = .char c then
    let _ ← take
  else failNext message

/-- The character of an escape by number. Two halves of a pair make one character, and a half
stands in no other place. -/
def unicodeEscape : Decoder Char := do
  let n ← hexEscape
  if 0xDC00 ≤ n ∧ n ≤ 0xDFFF then failHere "lone leading surrogate in hex escape"
  else if n < 0xD800 ∨ 0xDBFF < n then return Char.ofNat n
  else
    expectInString '\\' "unexpected end of hex escape"
    expectInString 'u' "unexpected end of hex escape"
    let m ← hexEscape
    if m < 0xDC00 ∨ 0xDFFF < m then failHere "lone leading surrogate in hex escape"
    else return Char.ofNat ((n - 0xD800) * 1024 + (m - 0xDC00) + 0x10000)

/-- The character of a short escape. -/
def shortEscape? (c : Char) : Option Char :=
  match c with
  | '"' => some '"'
  | '\\' => some '\\'
  | '/' => some '/'
  | 'b' => some '\x08'
  | 'f' => some '\x0c'
  | 'n' => some '\n'
  | 'r' => some '\r'
  | 't' => some '\t'
  | _ => none

/-- What the letter behind a backslash stands for, if it is a short escape. -/
def shortEscapeOf? : Text.Symbol → Option Char
  | .char c => shortEscape? c
  | .stray _ => none

/-- The character of an escape, behind its backslash. -/
def escape : Decoder Char := do
  let s ← peekInString
  if s = .char 'u' then
    let _ ← take
    unicodeEscape
  else match shortEscapeOf? s with
    | some e =>
      let _ ← take
      return e
    | none => failNext "invalid escape"

/-- The message about a control character. -/
def controlMessage : String :=
  "control character (\\u0000-\\u001F) found while parsing a string"

/-- The symbols of a text up to its closing quote. -/
def stringSymbols : (fuel : Nat) → Decoder (List Text.Symbol)
  | 0 => failHere "EOF while parsing a string"
  | fuel + 1 => do
    match ← takeInString with
    | .char '"' => return []
    | .char '\\' =>
      let c ← escape
      return .char c :: (← stringSymbols fuel)
    | .char c =>
      if c.toNat < 0x20 then failHere controlMessage
      else return .char c :: (← stringSymbols fuel)
    | .stray b => return .stray b :: (← stringSymbols fuel)

/-- The characters of some symbols, if there is no stray byte among them. -/
def chars? : List Text.Symbol → Option (List Char)
  | [] => some []
  | .char c :: rest => (chars? rest).map (c :: ·)
  | .stray _ :: _ => none

/-- A text behind its opening quote. A stray byte in it is noticed at the closing quote, and the
place of the error is before that quote. -/
def stringBody : Decoder String := do
  let symbols ← stringSymbols ((← remaining) + 1)
  match chars? symbols with
  | some cs => return String.ofList cs
  | none =>
    let c ← get
    throw ⟨"invalid unicode code point", some (c.line, c.column - 1)⟩

/-- Takes the digits that come next. -/
def digitsWhile : (fuel : Nat) → Decoder (List Char)
  | 0 => return []
  | fuel + 1 => do
    match ← peek with
    | some (.char c) =>
      if c.isDigit then
        let _ ← take
        return c :: (← digitsWhile fuel)
      else return []
    | _ => return []

/-- Takes the digits that come next. -/
def digits : Decoder (List Char) := do digitsWhile ((← remaining) + 1)

/-- Takes a digit, if one comes next. -/
def digit? : Decoder (Option Char) := do
  match ← peek with
  | some (.char c) =>
    if c.isDigit then
      let _ ← take
      return some c
    else return none
  | _ => return none

/-- Takes the digit that a number starts with, or fails at the byte in its place. -/
def firstDigit : Decoder Char := do
  match ← digit? with
  | some c => return c
  | none =>
    if (← peek).isSome then failNext "invalid number" else failHere "EOF while parsing a value"

/-- The largest whole number that is held as such. -/
def maxWhole : Nat := 18446744073709551615

/-- Adds digits to a number while it stays small enough: the number, and how many digits are
left. -/
def appendDigits : Nat → List Char → Nat × Nat
  | n, [] => (n, 0)
  | n, d :: ds =>
    let m := n * 10 + (d.toNat - 48)
    if maxWhole < m then (n, (d :: ds).length) else appendDigits m ds

/-- A number times a power of ten, computed by steps of at most 308 powers; none if it is too
large. -/
def scaled (fuel : Nat) (f : Float) (exponent : Int) : Option Float :=
  match fuel with
  | 0 => some f
  | fuel + 1 =>
    if exponent.natAbs ≤ 308 then
      let power := Float.ofScientific 1 false exponent.natAbs
      if 0 ≤ exponent then
        let g := f * power
        if g.isInf then none else some g
      else some (f / power)
    else if f == 0 then some f
    else if 0 ≤ exponent then none
    else scaled fuel (f / Float.ofScientific 1 false 308) (exponent + 308)

/-- The floating-point number with a sign, digits and a power of ten. -/
def floatNumber (negative : Bool) (significand : Nat) (exponent : Int) : Decoder Number := do
  match scaled 8 (Float.ofNat significand) exponent with
  | none => failHere "number out of range"
  | some f => return .float ⟨(if negative then -f else f).toBits⟩

/-- Takes a sign if one comes next; whether it is a minus. -/
def exponentSign : Decoder Bool := do
  match ← peek with
  | some (.char '-') =>
    let _ ← take
    return true
  | some (.char '+') =>
    let _ ← take
    return false
  | _ => return false

/-- The largest exponent. -/
def maxExponent : Nat := 2147483647

/-- The digits of an exponent behind those of `n`; none if it becomes too large, where the digit
that made it so is the last one read. -/
def exponentRest : (fuel : Nat) → (n : Nat) → Decoder (Option Nat)
  | 0, n => return some n
  | fuel + 1, n => do
    match ← peek with
    | some (.char c) =>
      if c.isDigit then
        let _ ← take
        let m := 10 * n + (c.toNat - 48)
        if maxExponent < m then return none else exponentRest fuel m
      else return some n
    | _ => return some n

/-- The number with an exponent, which stands behind its letter. An exponent that is too large
makes a number too large, unless it is zero or the exponent is negative: then the number is
zero. -/
def exponentNumber (negative : Bool) (significand : Nat) (exponent : Int) : Decoder Number := do
  let _ ← take
  let below ← exponentSign
  let c ← firstDigit
  match ← exponentRest (← remaining) (c.toNat - 48) with
  | some n => floatNumber negative significand (if below then exponent - n else exponent + n)
  | none =>
    if significand ≠ 0 ∧ !below then failHere "number out of range"
    else
      let _ ← digits
      floatNumber negative 0 0

/-- A number with a point or an exponent, or one that is too large, behind its whole part. -/
def longNumber (negative : Bool) (significand : Nat) (exponent : Int) : Decoder Number := do
  let (significand, exponent) ← match ← peek with
    | some (.char '.') => do
      let _ ← take
      let ds ← digits
      if ds.isEmpty then
        match ← peek with
        | some _ => failNext "invalid number"
        | none => failHere "EOF while parsing a value"
      else
        let (significand, dropped) := appendDigits significand ds
        pure (significand, exponent - ((ds.length - dropped : Nat) : Int))
    | _ => pure (significand, exponent)
  match ← peek with
  | some (.char c) =>
    if c = 'e' ∨ c = 'E' then exponentNumber negative significand exponent
    else floatNumber negative significand exponent
  | _ => floatNumber negative significand exponent

/-- A number behind its sign. -/
def number (negative : Bool) : Decoder Number := do
  let c ← firstDigit
  let ds ← if c = '0' then pure [] else digits
  let (n, dropped) := appendDigits (c.toNat - 48) ds
  match ← peek with
  | some (.char d) =>
    if c = '0' ∧ d.isDigit then failNext "invalid number"
    else if d = '.' ∨ d = 'e' ∨ d = 'E' ∨ 0 < dropped then longNumber negative n dropped
    else whole negative n
  | _ => if 0 < dropped then longNumber negative n dropped else whole negative n
where
  /-- A whole number; minus zero and numbers below the smallest one are floating-point. -/
  whole (negative : Bool) (n : Nat) : Decoder Number :=
    if !negative then return .int n
    else if n = 0 ∨ 9223372036854775808 < n then return .float ⟨(-(Float.ofNat n)).toBits⟩
    else return .int (-(n : Int))

/-- The next item of an array, if there is one; `first` tells whether none has been read. -/
def hasItem (first : Bool) : Decoder Bool := do
  match ← nextToken with
  | none => failHere "EOF while parsing a list"
  | some ']' => return false
  | some c =>
    if first then return true
    else if c = ',' then
      let _ ← take
      match ← nextToken with
      | some ']' => failNext "trailing comma"
      | some _ => return true
      | none => failHere "EOF while parsing a value"
    else failNext "expected \x60,\x60 or \x60]\x60"

/-- The end of an array. -/
def endArray : Decoder Unit := do
  match ← nextToken with
  | some ']' =>
    let _ ← take
  | some ',' =>
    let _ ← take
    match ← nextToken with
    | some ']' => failNext "trailing comma"
    | _ => failNext "trailing characters"
  | some _ => failNext "trailing characters"
  | none => failHere "EOF while parsing a list"

/-- The next key of an object, if there is one; `first` tells whether none has been read. -/
def nextKey (first : Bool) : Decoder (Option String) := do
  match ← nextToken with
  | none => failHere "EOF while parsing an object"
  | some '}' => return none
  | some c =>
    if first then
      if c = '"' then key else failNext "key must be a string"
    else if c = ',' then
      let _ ← take
      match ← nextToken with
      | some '"' => key
      | some '}' => failNext "trailing comma"
      | some _ => failNext "key must be a string"
      | none => failHere "EOF while parsing a value"
    else failNext "expected \x60,\x60 or \x60\x7d\x60"
where
  /-- A key, which starts with a quote. -/
  key : Decoder (Option String) := do
    let _ ← take
    return some (← stringBody)

/-- The colon behind a key. -/
def colon : Decoder Unit := do
  match ← nextToken with
  | some ':' =>
    let _ ← take
  | some _ => failNext "expected \x60:\x60"
  | none => failHere "EOF while parsing an object"

/-- The end of an object. -/
def endObject : Decoder Unit := do
  match ← nextToken with
  | some '}' =>
    let _ ← take
  | some ',' => failNext "trailing comma"
  | some _ => failNext "trailing characters"
  | none => failHere "EOF while parsing an object"

/-- A number in a message, with its kind. -/
def reportNumber : Number → String
  | .int n => "integer \x60" ++ toString n ++ "\x60"
  | .float x => "floating point \x60" ++ x.text ++ "\x60"

/-- Fails because a value of another kind was expected than the one that comes next. A scalar is
read first. -/
def invalidType {α : Type} (expected : String) : Decoder α := placed do
  let fail := fun {β : Type} (found : String) =>
    (failValue ("invalid type: " ++ found ++ ", expected " ++ expected) : Decoder β)
  match ← nextToken with
  | some 'n' =>
    let _ ← take
    word ['u', 'l', 'l']
    fail "null"
  | some 't' =>
    let _ ← take
    word ['r', 'u', 'e']
    fail "boolean \x60true\x60"
  | some 'f' =>
    let _ ← take
    word ['a', 'l', 's', 'e']
    fail "boolean \x60false\x60"
  | some '-' =>
    let _ ← take
    fail (reportNumber (← number true))
  | some '"' =>
    let _ ← take
    fail ("string " ++ Text.reported (← stringBody))
  | some '[' => fail "sequence"
  | some '{' => fail "map"
  | some c => if c.isDigit then fail (reportNumber (← number false)) else failNext "expected value"
  | none => failHere "expected value"

/-- Reads by the character that comes next; a text must not end here. -/
def byToken {α : Type} (d : Char → Decoder α) : Decoder α := placed do
  match ← nextToken with
  | none => failHere "EOF while parsing a value"
  | some c => d c

/-- A text. -/
def string (expected : String) : Decoder String := byToken fun c => do
  if c = '"' then
    let _ ← take
    stringBody
  else invalidType expected

/-- A text that is turned into something else, or refused with a message. -/
def parsed {α : Type} (expected : String) (f : String → Except String α) : Decoder α :=
  placed do
    let text ← string expected
    match f text with
    | .ok a => return a
    | .error message => failValue message

/-- A truth value. -/
def bool : Decoder Bool := byToken fun c => do
  if c = 't' then
    let _ ← take
    word ['r', 'u', 'e']
    return true
  else if c = 'f' then
    let _ ← take
    word ['a', 'l', 's', 'e']
    return false
  else invalidType "a boolean"

/-- A whole number that is not negative. -/
def nat : Decoder Nat := byToken fun c => do
  if c = '-' ∨ c.isDigit then
    let n ← do
      if c = '-' then
        let _ ← take
        number true
      else number false
    match n with
    | .int (.ofNat n) => return n
    | .int n => failValue ("invalid value: integer \x60" ++ toString n ++ "\x60, expected u64")
    | .float _ => failValue ("invalid type: " ++ reportNumber n ++ ", expected u64")
  else invalidType "u64"

/-- Something or nothing. -/
def optional {α : Type} (d : Decoder α) : Decoder (Option α) := do
  match ← nextToken with
  | some 'n' =>
    let _ ← take
    word ['u', 'l', 'l']
    return none
  | _ => return some (← d)

/-- Nothing. -/
def unit : Decoder Unit := byToken fun c => do
  if c = 'n' then
    let _ ← take
    word ['u', 'l', 'l']
  else invalidType "unit"

/-- The items of an array. -/
def items {α : Type} (d : Decoder α) : (fuel : Nat) → (first : Bool) → Decoder (List α)
  | 0, _ => return []
  | fuel + 1, first => do
    if ← hasItem first then
      let a ← d
      return a :: (← items d fuel false)
    else return []

/-- An array. -/
def array {α : Type} (d : Decoder α) : Decoder (List α) := byToken fun c => do
  if c = '[' then
    let _ ← take
    closedBy (items d ((← remaining) + 1) true) endArray
  else invalidType "a sequence"

end Decoder

end SqlTemplate.Json
