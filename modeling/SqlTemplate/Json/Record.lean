import SqlTemplate.Json.Skip

/-!
# Records and whole texts

A record is an object with named members or an array with the members in order. Members nobody
asked for are skipped; a member must not come twice.

* `Decoder.record` reads a record from its fields.
* `Decoder.value` reads any value.
* `Decoder.run`, `Decoder.runValue` decode a whole text or a value.
-/

namespace SqlTemplate.Json.Decoder

/-- Whether the object that comes next has exactly one member. Nothing is taken. -/
def hasOneMember : Decoder Bool := fun c =>
  let lone : Decoder Bool := do
    let _ ← take
    match ← nextKey true with
    | none => return false
    | some _ =>
      colon
      skipValue
      return (← nextToken) = some '\x7d'
  match lone c with
  | .ok found _ => .ok found c
  | .error _ _ => .ok false c

/-- One of some names: a text, or the key of an object that has nothing else. -/
def oneOf {α : Type} (names : List String) (of? : String → Option α) : Decoder α := do
  let variant : Decoder α := parsed "variant identifier" fun name =>
    match of? name with
    | some a => .ok a
    | none =>
      .error ("unknown variant \x60" ++ name ++ "\x60, expected one of " ++
        String.intercalate ", " (names.map fun n => "\x60" ++ n ++ "\x60"))
  let entry : Decoder α := do
    let _ ← take
    let a ← variant
    colon
    unit
    return a
  match (← get).source, ← nextToken with
  | .text, some '\x7b' =>
    let a ← entry
    match ← nextToken with
    | some '\x7d' =>
      let _ ← take
      return a
    | some _ => failHere "expected value"
    | none => failHere "EOF while parsing an object"
  | .value, some '\x7b' =>
    if ← hasOneMember then
      let a ← entry
      endObject
      return a
    else failValue "invalid value: map, expected map with a single key"
  | _, some '"' => variant
  | .text, some _ => failNext "expected value"
  | .text, none => failHere "EOF while parsing a value"
  | .value, _ => invalidType "string or map"

/-- A field of a record: its name and other names for it, whether it has been read, how it is read
into the record, and whether it may be missing at the end of an array. -/
structure RecordField (σ : Type) where
  names : List String
  isSet : σ → Bool
  read : Decoder (σ → σ)
  defaulted : Bool

/-- The field of a name that is read into one part of a record. -/
def RecordField.of {σ α : Type} (names : List String) (part : σ → Option α) (put : α → σ → σ)
    (d : Decoder α) (defaulted : Bool) : RecordField σ where
  names
  isSet s := (part s).isSome
  read := do return put (← d)
  defaulted

/-- The name of a field in messages. -/
def RecordField.label {σ : Type} (f : RecordField σ) : String := f.names.headD ""

/-- The members of an object, read into a record. -/
def members {σ : Type} (fields : List (RecordField σ)) :
    (fuel : Nat) → (first : Bool) → σ → Decoder σ
  | 0, _, s => return s
  | fuel + 1, first, s => do
    match ← nextKey first with
    | none => return s
    | some key =>
      match fields.find? (·.names.contains key) with
      | none =>
        colon
        skipValue
        members fields fuel false s
      | some f =>
        if f.isSet s then failValue ("duplicate field \x60" ++ f.label ++ "\x60")
        else
          colon
          let update ← f.read
          members fields fuel false (update s)

/-- The items of an array, read into a record in the order of its fields. -/
def positions {σ : Type} (what : String) : (index : Nat) → List (RecordField σ) → σ → Decoder σ
  | _, [], s => return s
  | index, f :: fs, s => do
    if ← hasItem (index = 0) then
      let update ← f.read
      positions what (index + 1) fs (update s)
    else if f.defaulted then positions what (index + 1) fs s
    else failValue ("invalid length " ++ toString index ++ ", expected " ++ what)

/-- The items that are left in an array, at most `fuel` of them. -/
def countItems : (fuel : Nat) → (count : Nat) → Decoder Nat
  | 0, count => return count
  | fuel + 1, count => do
    if ← hasItem (count = 0) then
      skipValue
      countItems fuel (count + 1)
    else return count

/-- The end of an array that holds a record. -/
def endRecord (read : Nat) : Decoder Unit := do
  match (← get).source with
  | .text => endArray
  | .value =>
    let more ← countItems ((← remaining) + 1) read
    if read < more then
      failValue ("invalid length " ++ toString more ++ ", expected fewer elements in array")
    else endArray

/-- The part of a record that has to be there. -/
def required {α : Type} (name : String) : Option α → Except String α
  | some a => .ok a
  | none => .error name

/-- A record: an object by names, or an array by positions. `complete` makes the value, or names
the field that is missing. -/
def record {σ α : Type} (name : String) (fields : List (RecordField σ)) (empty : σ)
    (complete : σ → Except String α) : Decoder α := byToken fun c => do
  let expected := "struct " ++ name
  let finish := fun (s : σ) =>
    match complete s with
    | .ok a => (return a : Decoder α)
    | .error field => failValue ("missing field \x60" ++ field ++ "\x60")
  if c = '[' then
    let _ ← take
    let count := fields.length
    let what := expected ++ " with " ++ toString count ++
      if count = 1 then " element" else " elements"
    closedBy (do finish (← positions what 0 fields empty)) (endRecord count)
  else if c = '{' then
    let _ ← take
    closedBy (do finish (← members fields ((← remaining) + 1) true empty)) endObject
  else invalidType expected

/-- The members of an object, kept as they are. -/
def valueMembers (d : Decoder Value) : (fuel : Nat) → (first : Bool) →
    Decoder (List (String × Value))
  | 0, _ => return []
  | fuel + 1, first => do
    match ← nextKey first with
    | none => return []
    | some key =>
      colon
      let v ← d
      return (key, v) :: (← valueMembers d fuel false)

/-- Any value; `nested` reads the values between brackets, where there may be brackets. -/
def valueWith (nested : Option (Decoder Value)) : Decoder Value := byToken fun c => do
  if c = 'n' then
    let _ ← take
    word ['u', 'l', 'l']
    return .null
  else if c = 't' ∨ c = 'f' then return .bool (← bool)
  else if c = '-' then
    let _ ← take
    return .number (← number true)
  else if c.isDigit then return .number (← number false)
  else if c = '"' then
    let _ ← take
    return .string (← stringBody)
  else if c = '[' ∨ c = '{' then
    match nested with
    | none => failNext "recursion limit exceeded"
    | some inner =>
      let _ ← take
      if c = '[' then return .array (← closedBy (items inner ((← remaining) + 1) true) endArray)
      else return .ofMembers (← closedBy (valueMembers inner ((← remaining) + 1) true) endObject)
  else failNext "expected value"

/-- Any value, with brackets nested at most `depth` deep. -/
def valueWithin : (depth : Nat) → Decoder Value
  | 0 => valueWith none
  | depth + 1 => valueWith (some (valueWithin depth))

/-- How deep brackets can be nested. -/
def maxDepth : Nat := 127

/-- Any value inside one record. -/
def value : Decoder Value := valueWithin (maxDepth - 1)

/-- Runs a decoder on a whole text. -/
def run {α : Type} (d : Decoder α) (symbols : List Text.Symbol) : Except DecodeError α :=
  let whole : Decoder α := do
    let a ← d
    match ← nextToken with
    | some _ => failNext "trailing characters"
    | none => return a
  match whole (.start .text symbols) with
  | .ok a _ => .ok a
  | .error e _ => .error e

/-- Runs a decoder on a value; its error has no place. -/
def runValue {α : Type} (d : Decoder α) (v : Value) : Except String α :=
  match d (.start .value (Text.Symbol.ofText v.compact)) with
  | .ok a _ => .ok a
  | .error e _ => .error e.message

/-- Reads a whole text as a value. -/
def parseValue (text : String) : Except DecodeError Value :=
  run (valueWithin maxDepth) (Text.Symbol.ofText text)

end SqlTemplate.Json.Decoder
