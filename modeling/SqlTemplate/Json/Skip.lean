import SqlTemplate.Json.Decoder

/-!
# Values that are not kept

The member of an object that nobody asked for is read past: its brackets have to match and its
tokens have to be well formed, but its texts and numbers are not made.
-/

namespace SqlTemplate.Json.Decoder

/-- An escape that is not kept, behind its backslash. -/
def skipEscape : Decoder Unit := do
  let s ← peekInString
  if s = .char 'u' then
    let _ ← take
    let _ ← hexEscape
  else if (shortEscapeOf? s).isSome then
    let _ ← take
  else failNext "invalid escape"

/-- The rest of a text that is not kept. A control character in it is left where it stands. -/
def skipString : (fuel : Nat) → Decoder Unit
  | 0 => failHere "EOF while parsing a string"
  | fuel + 1 => do
    match ← peekInString with
    | .char '"' =>
      let _ ← take
    | .char '\\' =>
      let _ ← take
      skipEscape
      skipString fuel
    | .char c =>
      if c.toNat < 0x20 then failHere controlMessage
      else
        let _ ← take
        skipString fuel
    | .stray _ =>
      let _ ← take
      skipString fuel

/-- Takes the digit that a number that is not kept starts with, or fails at the byte in its
place. -/
def skipDigit : Decoder Char := do
  match ← digit? with
  | some c => return c
  | none => failNext "invalid number"

/-- The exponent of a number that is not kept. -/
def skipExponent : Decoder Unit := do
  let _ ← take
  let _ ← exponentSign
  let _ ← skipDigit
  let _ ← digits

/-- A number that is not kept. -/
def skipNumber : Decoder Unit := do
  let c ← skipDigit
  if c ≠ '0' then
    let _ ← digits
  match ← peek with
  | some (.char d) =>
    if c = '0' ∧ d.isDigit then failNext "invalid number"
    if d = '.' then
      let _ ← take
      if (← digits).isEmpty then failNext "invalid number"
  | _ => return
  match ← peek with
  | some (.char e) => if e = 'e' ∨ e = 'E' then skipExponent
  | _ => return

/-- A kind of bracket that is open. -/
inductive Bracket where
  | array
  | object
deriving DecidableEq, Repr

mutual

/-- Skips a value inside open brackets, at most `fuel` steps. -/
def skipValueAt : (fuel : Nat) → List Bracket → Decoder Unit
  | 0, _ => return
  | fuel + 1, opened => do
    match ← nextToken with
    | none => failHere "EOF while parsing a value"
    | some c =>
      if c = '[' then
        let _ ← take
        skipRest fuel false (.array :: opened)
      else if c = '{' then
        let _ ← take
        skipRest fuel false (.object :: opened)
      else
        if c = 'n' then
          let _ ← take
          word ['u', 'l', 'l']
        else if c = 't' then
          let _ ← take
          word ['r', 'u', 'e']
        else if c = 'f' then
          let _ ← take
          word ['a', 'l', 's', 'e']
        else if c = '-' then
          let _ ← take
          skipNumber
        else if c.isDigit then skipNumber
        else if c = '"' then
          let _ ← take
          skipString ((← remaining) + 1)
        else failNext "expected value"
        skipRest fuel true opened

/-- Skips what follows a value, or an opening bracket, inside open brackets. -/
def skipRest : (fuel : Nat) → (afterValue : Bool) → List Bracket → Decoder Unit
  | 0, _, _ => return
  | _, _, [] => return
  | fuel + 1, afterValue, b :: opened => do
    let next ← nextToken
    let goOn : Decoder Unit := do
      if b = .object then
        match ← nextToken with
        | some '"' =>
          let _ ← take
        | some _ => failNext "key must be a string"
        | none => failHere "EOF while parsing an object"
        skipString ((← remaining) + 1)
        colon
      skipValueAt fuel (b :: opened)
    match next with
    | none =>
      failHere (if b = .array then "EOF while parsing a list" else "EOF while parsing an object")
    | some c =>
      if c = ',' ∧ afterValue then
        let _ ← take
        goOn
      else if (c = ']' ∧ b = .array) ∨ (c = '}' ∧ b = .object) then
        let _ ← take
        skipRest fuel true opened
      else if afterValue then
        failNext (if b = .array then "expected \x60,\x60 or \x60]\x60"
          else "expected \x60,\x60 or \x60\x7d\x60")
      else goOn

end

/-- Skips a value. -/
def skipValue : Decoder Unit := do skipValueAt (2 * (← remaining) + 2) []

end SqlTemplate.Json.Decoder
