/-!
# Bytes as characters

Bytes that are valid UTF-8 stand for characters; any other byte stays as it is.
-/

namespace SqlTemplate.Text

/-- A character, or a byte that belongs to none. -/
inductive Symbol where
  | char (c : Char)
  | stray (byte : UInt8)
deriving DecidableEq, Repr

namespace Symbol

/-- The number of bytes of a symbol. -/
def size : Symbol → Nat
  | .char c => c.utf8Size
  | .stray _ => 1

/-- The symbols of a text. -/
def ofText (text : String) : List Symbol := text.toList.map .char

/-- The low six bits of a byte that goes on a character. -/
def continuation? (b : UInt8) : Option Nat :=
  if 0x80 ≤ b ∧ b < 0xC0 then some (b.toNat - 0x80) else none

/-- The character with a number, if there is one and it takes so many bytes. -/
def charOf? (size n : Nat) : Option Char :=
  if h : n.isValidChar then
    let c := Char.ofNatAux n h
    if c.utf8Size = size then some c else none
  else none

/-- The character that a lead byte and the bytes after it stand for, and how many bytes after the
lead it takes. -/
def multibyte? (lead : UInt8) (rest : List UInt8) : Option (Char × Nat) := do
  if 0xC2 ≤ lead ∧ lead < 0xE0 then
    let a ← rest[0]?.bind continuation?
    let c ← charOf? 2 ((lead.toNat - 0xC0) * 64 + a)
    return (c, 1)
  else if 0xE0 ≤ lead ∧ lead < 0xF0 then
    let a ← rest[0]?.bind continuation?
    let b ← rest[1]?.bind continuation?
    let c ← charOf? 3 ((lead.toNat - 0xE0) * 4096 + a * 64 + b)
    return (c, 2)
  else if 0xF0 ≤ lead ∧ lead < 0xF5 then
    let a ← rest[0]?.bind continuation?
    let b ← rest[1]?.bind continuation?
    let d ← rest[2]?.bind continuation?
    let c ← charOf? 4 ((lead.toNat - 0xF0) * 262144 + a * 4096 + b * 64 + d)
    return (c, 3)
  else none

/-- The symbols of some bytes; the first `skip` bytes belong to a character that has been read. -/
def ofBytesFrom : (skip : Nat) → List UInt8 → List Symbol
  | _, [] => []
  | skip + 1, _ :: rest => ofBytesFrom skip rest
  | 0, b :: rest =>
    if b < 0x80 then .char (Char.ofNat b.toNat) :: ofBytesFrom 0 rest
    else match multibyte? b rest with
      | some (c, more) => .char c :: ofBytesFrom more rest
      | none => .stray b :: ofBytesFrom 0 rest

/-- The symbols of some bytes. -/
def ofBytes (bytes : List UInt8) : List Symbol := ofBytesFrom 0 bytes

end Symbol

end SqlTemplate.Text
