import SqlTemplate.Sql.Parser.Column

/-!
# Reading types

Known types are read in any case and written in their own spelling; any other name is a type of its
own, with modifiers as written. A type between angle brackets may end in two closing brackets at
once, the second of which belongs to the type around it.
-/

namespace SqlTemplate.Sql.Parser

/-- A type, and whether the closing angle bracket of the type around it has been taken too. -/
abbrev BracketedType := DataType × Bool

/-- Types without arguments: keyword, spelling and kind. -/
def plainTypes : List (String × String × String) :=
  [("BOOLEAN", "BOOLEAN", "Boolean"), ("BOOL", "BOOL", "Bool"), ("REAL", "REAL", "Real"),
    ("FLOAT4", "FLOAT4", "Float4"), ("FLOAT32", "Float32", "Float32"),
    ("FLOAT64", "FLOAT64", "Float64"), ("FLOAT8", "FLOAT8", "Float8"),
    ("INT16", "Int16", "Int16"), ("INT32", "Int32", "Int32"), ("INT64", "INT64", "Int64"),
    ("INT128", "Int128", "Int128"), ("INT256", "Int256", "Int256"), ("UINT8", "UInt8", "UInt8"),
    ("UINT16", "UInt16", "UInt16"), ("UINT32", "UInt32", "UInt32"),
    ("UINT64", "UInt64", "UInt64"), ("UINT128", "UInt128", "UInt128"),
    ("UINT256", "UInt256", "UInt256"), ("UUID", "UUID", "Uuid"), ("DATE", "DATE", "Date"),
    ("DATE32", "Date32", "Date32"), ("JSON", "JSON", "JSON"), ("JSONB", "JSONB", "JSONB"),
    ("REGCLASS", "REGCLASS", "Regclass"), ("TEXT", "TEXT", "Text"),
    ("TINYTEXT", "TINYTEXT", "TinyText"), ("MEDIUMTEXT", "MEDIUMTEXT", "MediumText"),
    ("LONGTEXT", "LONGTEXT", "LongText"), ("TINYBLOB", "TINYBLOB", "TinyBlob"),
    ("MEDIUMBLOB", "MEDIUMBLOB", "MediumBlob"), ("LONGBLOB", "LONGBLOB", "LongBlob"),
    ("BYTEA", "BYTEA", "Bytea"), ("TRIGGER", "TRIGGER", "Trigger"),
    ("INTERVAL", "INTERVAL", "Interval")]

/-- Types with an optional size. -/
def sizedTypes : List (String × String) :=
  [("FLOAT", "Float"), ("STRING", "String"), ("DATETIME", "Datetime"), ("BINARY", "Binary"),
    ("VARBINARY", "Varbinary"), ("BLOB", "Blob"), ("BYTES", "Bytes"), ("CLOB", "Clob")]

/-- Types of texts with an optional length. -/
def lengthTypes : List (String × String) := [("VARCHAR", "Varchar"), ("NVARCHAR", "Nvarchar")]

/-- Types of texts whose keyword may be followed by others. -/
def characterTypes : List (String × String) := [("CHARACTER", "Character"), ("CHAR", "Char")]

/-- Types of whole numbers, with an optional width and `UNSIGNED`. -/
def integerTypes : List (String × String) :=
  [("TINYINT", "TinyInt"), ("SMALLINT", "SmallInt"), ("MEDIUMINT", "MediumInt"), ("INT", "Int"),
    ("INT2", "Int2"), ("INT4", "Int4"), ("INT8", "Int8"), ("INTEGER", "Integer"),
    ("BIGINT", "BigInt")]

/-- Types of decimal numbers, with an optional precision and scale. -/
def decimalTypes : List (String × String) :=
  [("NUMERIC", "Numeric"), ("DECIMAL", "Decimal"), ("DEC", "Dec"), ("BIGNUMERIC", "BigNumeric"),
    ("BIGDECIMAL", "BigDecimal")]

/-- Types of times of day and of moments. -/
def clockTypes : List (String × String) := [("TIME", "Time"), ("TIMESTAMP", "Timestamp")]

/-- Types of times of day and of moments that are bound to a zone by their name. -/
def zonedTypes : List (String × String) := [("TIMETZ", "Time"), ("TIMESTAMPTZ", "Timestamp")]

/-- Types built from one other type. -/
def wrapperTypes : List (String × String) :=
  [("NULLABLE", "Nullable"), ("LOWCARDINALITY", "LowCardinality")]

/-- A size in a tree. -/
def sizeShape : Option Nat → Shape
  | none => .null
  | some n => .number n

/-- A size as written. -/
def sizeText : Option Nat → String
  | none => ""
  | some n => "(" ++ toString n ++ ")"

/-- An optional number between parentheses. -/
def optionalSize : Parser (Option Nat) := do
  if ← acceptSign "(" then
    let n ← wholeNumber
    expectSign ")"
    return some n
  else return none

/-- A type with an optional size. -/
def sizedType (word kind : String) : Parser Wording := do
  let size ← optionalSize
  return ⟨word ++ sizeText size, .node kind (sizeShape size)⟩

/-- A length of a text. -/
def characterLength : Parser Wording := do
  if ← acceptWord "MAX" then return ⟨"MAX", .text "Max"⟩
  else
    let n ← wholeNumber
    let unit ← acceptOneOf ["CHARACTERS", "OCTETS"]
    let kind := unit.map fun
      | "CHARACTERS" => "Characters"
      | _ => "Octets"
    return ⟨toString n ++ withLead " " unit,
      form "IntegerLength" [("length", .number n), ("unit", textShape kind)]⟩

/-- A type with an optional length. -/
def lengthType (word kind : String) : Parser Wording := do
  if ← acceptSign "(" then
    let length ← characterLength
    expectSign ")"
    return ⟨word ++ "(" ++ length.text ++ ")", .node kind length.shape⟩
  else return ⟨word, .node kind .null⟩

/-- A type of texts behind its keyword. -/
def characterType (word kind : String) : Parser Wording := do
  if ← acceptWord "VARYING" then lengthType (word ++ " VARYING") (kind ++ "Varying")
  else if ← acceptWords ["LARGE", "OBJECT"] then
    sizedType (word ++ " LARGE OBJECT") (kind ++ "LargeObject")
  else lengthType word kind

/-- A type of whole numbers behind its keyword. -/
def integerType (word kind : String) : Parser Wording := do
  let size ← optionalSize
  let unsigned ← acceptWord "UNSIGNED"
  return ⟨word ++ sizeText size ++ wordIf unsigned " UNSIGNED",
    .node (wordIf unsigned "Unsigned" ++ kind) (sizeShape size)⟩

/-- A type of decimal numbers behind its keyword. -/
def decimalType (word kind : String) : Parser Wording := do
  if ← acceptSign "(" then
    let precision ← wholeNumber
    let scale ← if ← acceptSign "," then pure (some (← wholeNumber)) else pure none
    expectSign ")"
    match scale with
    | none =>
      return ⟨word ++ sizeText (some precision),
        .node kind (.node "Precision" (.number precision))⟩
    | some scale =>
      return ⟨word ++ "(" ++ toString precision ++ "," ++ toString scale ++ ")",
        .node kind (.node "PrecisionAndScale" (.list [.number precision, .number scale]))⟩
  else return ⟨word, .node kind (.text "None")⟩

/-- A type of times behind its keyword. -/
def clockType (word kind : String) : Parser Wording := do
  let size ← optionalSize
  let (zone, zoneKind) ← do
    if ← acceptWord "WITH" then
      expectWords ["TIME", "ZONE"]
      pure (" WITH TIME ZONE", "WithTimeZone")
    else if ← acceptWord "WITHOUT" then
      expectWords ["TIME", "ZONE"]
      pure (" WITHOUT TIME ZONE", "WithoutTimeZone")
    else pure ("", "None")
  return ⟨word ++ sizeText size ++ zone, .node kind (.list [sizeShape size, .text zoneKind])⟩

/-- The rest of the modifiers of a type, up to the closing parenthesis; commas count for
nothing. -/
def typeModifiers : (fuel : Nat) → Parser (List String)
  | 0 => return []
  | fuel + 1 => do
    let l ← next
    match l with
    | some ⟨.word text quote, _⟩ =>
      return (Token.word text quote).display :: (← typeModifiers fuel)
    | some ⟨.number text _, _⟩ => return text :: (← typeModifiers fuel)
    | some ⟨.string .single text, _⟩ => return text :: (← typeModifiers fuel)
    | some ⟨.sign ",", _⟩ => typeModifiers fuel
    | some ⟨.sign ")", _⟩ => return []
    | _ => expected "type modifiers" l

/-- A name that is no known type. -/
def customType : Parser Wording := do
  let typeName ← name
  let modifiers ← do
    if ← acceptSign "(" then typeModifiers ((← remaining) + 1) else pure []
  return ⟨typeName.toSql ++
      (match modifiers with
        | [] => ""
        | _ => "(" ++ commaJoin modifiers ++ ")"),
    .node "Custom" (.list [typeName.shape, .list (modifiers.map .text)])⟩

/-- Whether a type is an interval, which introduces a value. -/
def isIntervalType (type : DataType) : Bool :=
  match type.shape with
  | .text "Interval" => true
  | _ => false

/-- Whether a type is one that is not known. -/
def isCustomType (type : DataType) : Bool :=
  match type.shape with
  | .node "Custom" _ => true
  | _ => false

/-- A type that must not take a closing bracket of the type around it. -/
def closedType (p : Parser BracketedType) : Parser DataType := do
  let (type, closed) ← p
  if closed then
    let l ← peek
    throw (.rejected ("unmatched > after parsing data type " ++ type.toSql ++ foundText l) none)
  else return type

/-- The closing angle bracket of a type, unless it has been taken along with that of the type
inside; tells whether it took that of the type around it. -/
def closeAngle (closed : Bool) : Parser Bool := do
  if closed then return false
  else if ← acceptSign ">" then return false
  else if ← acceptSign ">>" then return true
  else expectedNext ">"

/-- A field of a structured type; it has a name if two words come next. -/
def structField (inner : Parser BracketedType) : Parser (Draft Slot × Bool) := do
  let fieldName ← match ← get with
    | ⟨.word _ _, _⟩ :: ⟨.word _ _, _⟩ :: _ => do pure (some (← ident))
    | _ => pure none
  let (type, closed) ← inner
  let field : Draft Slot := do
    let type ← Draft.phrasePart type
    return ⟨words ((fieldName.map fun n => n.toSql ++ " ").getD "") ++ type.written,
      fields [("field_name", identShape fieldName), ("field_type", type.shape)]⟩
  return (field, closed)

/-- The fields of a structured type up to the one behind which no comma stands. -/
def structFields (start : Option Lexeme) (inner : Parser BracketedType) :
    (fuel : Nat) → Parser (List (Draft Slot) × Bool)
  | 0 => return ([], false)
  | fuel + 1 => do
    let (field, closed) ← structField inner
    if ← acceptSign "," then
      if closed then reject "unmatched > in STRUCT definition" start
      else
        let (more, closed) ← structFields start inner fuel
        return (field :: more, closed)
    else return ([field], closed)

/-- The fields of a structured type behind its keyword, if there are any. -/
def structType (start : Option Lexeme) (inner : Parser BracketedType) :
    Parser (List (Draft Slot) × Bool) := do
  if ← acceptSign "<" then
    let (defs, closed) ← structFields start inner ((← remaining) + 1)
    return (defs, ← closeAngle closed)
  else return ([], false)

/-- A value of an enumeration. -/
def enumMember (dialect : Dialect) : Parser Wording := do
  let label ← literalText dialect
  if ← acceptSign "=" then
    let number ← signedNumber
    return ⟨writeQuoted '\'' label ++ " = " ++ number.text,
      .node "NamedValue" (.list [.text label, number.shape])⟩
  else return ⟨writeQuoted '\'' label, .node "Name" (.text label)⟩

/-- An enumeration behind its keyword. -/
def enumType (dialect : Dialect) (word : String) (bits : Option Nat) : Parser Wording := do
  let members ← inParens (commaSeparated (enumMember dialect))
  return ⟨word ++ "(" ++ commaJoin (members.map Wording.text) ++ ")",
    .node "Enum" (.list [.list (members.map Wording.shape), sizeShape bits])⟩

/-- The texts of a set behind its opening parenthesis. -/
def setMembers : (fuel : Nat) → Parser (List String)
  | 0 => return []
  | fuel + 1 => do
    let l ← next
    match l with
    | some ⟨.string .single text, _⟩ =>
      let after ← next
      if isSign "," after then return text :: (← setMembers fuel)
      else if isSign ")" after then return [text]
      else expected ", or \x7d" after
    | _ => expected "a string" l

/-- A field with its name and type. -/
def unionField (inner : Parser DataType) : Parser (Draft Slot) := do
  let fieldName ← ident
  let type ← inner
  return do
    let type ← Draft.phrasePart type
    return ⟨words (fieldName.toSql ++ " ") ++ type.written,
      fields [("field_name", .ident fieldName), ("field_type", type.shape)]⟩

/-- A type around one other type. -/
def wrappedType (lead closing : String) (shape : Shape → Shape) (inner : DataType) : DataType :=
  Draft.phrase do
    let inner ← Draft.phrasePart inner
    return ⟨words lead ++ inner.written ++ words closing, shape inner.shape⟩

/-- A type of a kind with drafts between the parentheses behind its word. -/
def builtType (word kind : String) (inner : List (Draft Slot)) : DataType :=
  Draft.phrase do
    let inner ← drafts inner
    return ⟨words (word ++ "(") ++ commas inner ++ words ")", .node kind (listShape inner)⟩

/-- A type built from others whose keyword has been taken, given how to read the types inside it;
none if the word is no such keyword. -/
def compositeType (g : Grammar) (start : Option Lexeme) (inner : Parser BracketedType)
    (word : String) : Option (Parser BracketedType) :=
  let whole := closedType inner
  let closed (p : Parser DataType) : Option (Parser BracketedType) := some do
    return (← p, false)
  match wrapperTypes.lookup word, word with
  | some kind, _ => closed do
    return wrappedType (kind ++ "(") ")" (.node kind) (← inParens whole)
  | none, "MAP" => closed do
    expectSign "("
    let key ← whole
    expectSign ","
    let v ← whole
    expectSign ")"
    return builtType "Map" "Map" [Draft.phrasePart key, Draft.phrasePart v]
  | none, "TUPLE" => closed do
    let members ← inParens (commaSeparated (structField inner))
    return builtType "Tuple" "Tuple" (members.map Prod.fst)
  | none, "NESTED" => closed do
    return builtType "Nested" "Nested" (← inParens (commaSeparated (columnDefinition g whole)))
  | none, "ARRAY" =>
    match g.dialect with
    | .clickHouse => closed do
      return wrappedType "Array(" ")" (fun s => .node "Array" (.node "Parenthesis" s))
        (← inParens whole)
    | .generic => some do
      expectSign "<"
      let (element, closed) ← inner
      let closed ← closeAngle closed
      return (wrappedType "ARRAY<" ">" (fun s => .node "Array" (.node "AngleBracket" s)) element,
        closed)
  | none, "STRUCT" =>
    match g.dialect with
    | .clickHouse => none
    | .generic => some do
      let (members, closed) ← structType start inner
      let type := Draft.phrase do
        let members ← drafts members
        return ⟨words "STRUCT" ++ commasWithin "<" ">" members,
          .node "Struct" (.list [listShape members, .text "AngleBrackets"])⟩
      return (type, closed)
  | none, "UNION" =>
    match g.dialect with
    | .clickHouse => none
    | .generic => closed do
      return builtType "UNION" "Union" (← inParens (commaSeparated (unionField whole)))
  | none, _ => none

/-- A type without others inside it whose keyword has been taken; none if the word is no such
keyword. -/
def simpleType (dialect : Dialect) (word : String) : Option (Parser Wording) :=
  match plainTypes.lookup word with
  | some (spelling, kind) => some (return ⟨spelling, .text kind⟩)
  | none =>
    let tables := [(sizedTypes, sizedType word), (lengthTypes, lengthType word),
      (characterTypes, characterType word), (integerTypes, integerType word),
      (decimalTypes, decimalType word), (clockTypes, clockType word),
      (zonedTypes, fun kind => do
        let size ← optionalSize
        return ⟨word ++ sizeText size, .node kind (.list [sizeShape size, .text "Tz"])⟩)]
    match tables.findSome? fun (table, read) => (table.lookup word).map read with
    | some p => some p
    | none =>
      match word with
      | "DOUBLE" => some do
        if ← acceptWord "PRECISION" then return ⟨"DOUBLE PRECISION", .text "DoublePrecision"⟩
        else return ⟨"DOUBLE", .text "Double"⟩
      | "BIT" => some do
        if ← acceptWord "VARYING" then sizedType "BIT VARYING" "BitVarying"
        else sizedType "BIT" "Bit"
      | "FIXEDSTRING" => some do
        let n ← inParens wholeNumber
        return ⟨"FixedString" ++ sizeText (some n), .node "FixedString" (.number n)⟩
      | "DATETIME64" => some do
        expectSign "("
        let precision ← wholeNumber
        let zone ← if ← acceptSign "," then pure (some (← literalText dialect)) else pure none
        expectSign ")"
        return ⟨"DateTime64(" ++ toString precision ++
            withLead ", " (zone.map fun z => "'" ++ z ++ "'") ++ ")",
          .node "Datetime64" (.list [.number precision, textShape zone])⟩
      | "ENUM" => some (enumType dialect "ENUM" none)
      | "ENUM8" => some (enumType dialect "ENUM8" (some 8))
      | "ENUM16" => some (enumType dialect "ENUM16" (some 16))
      | "SET" => some do
        expectSign "("
        let members ← setMembers ((← remaining) + 1)
        return ⟨"SET(" ++ commaJoin (members.map (writeQuoted '\'')) ++ ")",
          .node "Set" (.list (members.map .text))⟩
      | _ => none

/-- The brackets behind a type, each of which makes lists of it. -/
def listBrackets (dialect : Dialect) : (fuel : Nat) → DataType → Parser DataType
  | 0, element => return element
  | fuel + 1, element => do
    if ← acceptSign "[" then
      let size ← match dialect with
        | .clickHouse => pure none
        | .generic => attempt wholeNumber
      expectSign "]"
      listBrackets dialect fuel
        (wrappedType "" ("[" ++ ((size.map fun n => toString n).getD "") ++ "]")
          (fun s => .node "Array" (.node "SquareBracket" (.list [s, sizeShape size]))) element)
    else return element

/-- A type, with at most `fuel` types inside one another. -/
def dataTypeAt (g : Grammar) : (fuel : Nat) → Parser BracketedType
  | 0 => expectedNext "a data type name"
  | fuel + 1 => do
    let l ← peek
    let (element, closed) ← match l with
      | some ⟨.word text quote, _⟩ =>
        let word := ((Token.word text quote).keyword?).getD ""
        match compositeType g l (dataTypeAt g fuel) word, simpleType g.dialect word with
        | some p, _ => do
          let _ ← next
          p
        | none, some p => do
          let _ ← next
          pure ((← p).phrase, false)
        | none, none => do
          pure ((← customType).phrase, false)
      | _ => expected "a data type name" l
    return (← listBrackets g.dialect (← remaining) element, closed)

/-- A type. -/
def dataType (g : Grammar) : Parser DataType := do
  closedType (dataTypeAt g ((← remaining) + 1))

/-- The columns of an alias, if there are any. -/
def columnDefs (g : Grammar) : Parser (List ColumnDef) := do
  if ← acceptSign "(" then
    let columns ← commaSeparated do
      let column ← ident
      let type ← attempt (dataType g)
      return { name := column, type }
    expectSign ")"
    return columns
  else return []

/-- An alias of a relation, if there is one. -/
def tableAlias (g : Grammar) : Parser (Option TableAlias) := do
  match ← optionalAlias reservedForTableAlias with
  | none => return none
  | some label => return some { name := label, columns := ← columnDefs g }

end SqlTemplate.Sql.Parser
