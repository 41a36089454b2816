import SqlTemplate.Sql.Parser.Storage

/-!
# Reading columns

A column has a name, a type and perhaps a collation, and any number of options behind them. An
option may be named as a constraint. Some options are those of the generic dialect alone; the
clickHouse dialect takes their keyword, makes nothing of it, and looks for the options that come
later in the order of `columnOption`.
-/

namespace SqlTemplate.Sql.Parser

/-- A number with an optional sign. -/
def signedNumber : Parser Wording := do
  let sign ← do
    if ← acceptSign "+" then pure (some ("+", "Plus"))
    else if ← acceptSign "-" then pure (some ("-", "Minus"))
    else pure none
  let l ← peek
  let v ← value
  let isNumber := match v with
    | .number _ _ | .placeholder _ => true
    | _ => false
  if isNumber then
    let plain : Shape := .node "Value" (.literal v)
    match sign with
    | none => return ⟨v.toSql, plain⟩
    | some (text, kind) =>
      return ⟨text ++ v.toSql, form "UnaryOp" [("op", .text kind), ("expr", plain)]⟩
  else expected "literal number" l

/-- When a constraint is checked, and whether it is. -/
structure Checking where
  deferrable : Option Bool := none
  deferred : Option Bool := none
  enforced : Option Bool := none

/-- When a constraint is checked, if anything is said about it. -/
def Checking.wording? (c : Checking) : Option Wording :=
  let said := [c.deferrable.map fun b => if b then "DEFERRABLE" else "NOT DEFERRABLE",
    c.deferred.map fun b => if b then "INITIALLY DEFERRED" else "INITIALLY IMMEDIATE",
    c.enforced.map fun b => if b then "ENFORCED" else "NOT ENFORCED"].filterMap id
  if said.isEmpty then none
  else some ⟨String.intercalate " " said,
    fields [("deferrable", flagShape c.deferrable),
      ("initially", textShape (c.deferred.map fun b => if b then "Deferred" else "Immediate")),
      ("enforced", flagShape c.enforced)]⟩

/-- What is said about the time of a check, in any order but each thing once. -/
def checkingFrom : (fuel : Nat) → Checking → Parser Checking
  | 0, c => return c
  | fuel + 1, c => do
    if ← acceptWordsIf c.deferrable.isNone ["NOT", "DEFERRABLE"] then
      checkingFrom fuel { c with deferrable := some false }
    else if ← acceptWordsIf c.deferrable.isNone ["DEFERRABLE"] then
      checkingFrom fuel { c with deferrable := some true }
    else if ← acceptWordsIf c.deferred.isNone ["INITIALLY"] then
      match ← acceptOneOf ["DEFERRED", "IMMEDIATE"] with
      | some word => checkingFrom fuel { c with deferred := some (word = "DEFERRED") }
      | none => expectedNext "one of DEFERRED or IMMEDIATE"
    else if ← acceptWordsIf c.enforced.isNone ["ENFORCED"] then
      checkingFrom fuel { c with enforced := some true }
    else if ← acceptWordsIf c.enforced.isNone ["NOT", "ENFORCED"] then
      checkingFrom fuel { c with enforced := some false }
    else return c

/-- What is said about the time of a check. -/
def checking : Parser (Option Wording) := do
  return (← checkingFrom 4 {}).wording?

/-- A key behind its keywords. -/
def keyOption (primary : Bool) : Parser Wording := do
  let checked ← checking
  return ⟨(if primary then "PRIMARY KEY" else "UNIQUE") ++ withLead " " (checked.map Wording.text),
    form "Unique" [("is_primary", .flag primary),
      ("characteristics", (checked.map Wording.shape).getD .null)]⟩

/-- What happens to a row when the row that it refers to is changed: keywords and kind. -/
def referenceActions : List (List String × String) :=
  [(["RESTRICT"], "Restrict"), (["CASCADE"], "Cascade"), (["SET", "NULL"], "SetNull"),
    (["NO", "ACTION"], "NoAction"), (["SET", "DEFAULT"], "SetDefault")]

/-- What happens to a row when the row that it refers to is changed. -/
def referenceAction : Parser Wording := do
  match ← acceptFirst referenceActions with
  | some (keywords, kind) => return ⟨String.intercalate " " keywords, .text kind⟩
  | none => expectedNext "one of RESTRICT, CASCADE, SET NULL, NO ACTION or SET DEFAULT"

/-- What happens when the row referred to is deleted and when it is updated, in any order but each
once. -/
def referenceActionsFrom : (fuel : Nat) → (onDelete onUpdate : Option Wording) →
    Parser (Option Wording × Option Wording)
  | 0, onDelete, onUpdate => return (onDelete, onUpdate)
  | fuel + 1, onDelete, onUpdate => do
    if ← acceptWordsIf onDelete.isNone ["ON", "DELETE"] then
      referenceActionsFrom fuel (some (← referenceAction)) onUpdate
    else if ← acceptWordsIf onUpdate.isNone ["ON", "UPDATE"] then
      referenceActionsFrom fuel onDelete (some (← referenceAction))
    else return (onDelete, onUpdate)

/-- A reference to the rows of another table, behind its keyword. -/
def referenceOption : Parser Wording := do
  let table ← name
  let columns ← optionalColumnList
  let (onDelete, onUpdate) ← referenceActionsFrom 3 none none
  let checked ← checking
  let columnsText := match columns with
    | [] => ""
    | _ => " (" ++ identsText columns ++ ")"
  return ⟨"REFERENCES " ++ table.toSql ++ columnsText ++
      withLead " ON DELETE " (onDelete.map Wording.text) ++
      withLead " ON UPDATE " (onUpdate.map Wording.text) ++
      withLead " " (checked.map Wording.text),
    form "ForeignKey" [("foreign_table", table.shape),
      ("referred_columns", .list (columns.map .ident)),
      ("on_delete", (onDelete.map Wording.shape).getD .null),
      ("on_update", (onUpdate.map Wording.shape).getD .null),
      ("characteristics", (checked.map Wording.shape).getD .null)]⟩

/-- An option of a sequence that is a number behind a keyword and perhaps a second one. -/
def sequenceNumber (word second kind : String) : Parser (List Wording) := do
  if ← acceptWord word then
    let both ← acceptWord second
    let n ← signedNumber
    return [⟨" " ++ word ++ wordIf both (" " ++ second) ++ " " ++ n.text,
      .node kind (.list [n.shape, .flag both])⟩]
  else return []

/-- A bound of a sequence, or that it has none. -/
def sequenceBound (word kind : String) : Parser (List Wording) := do
  if ← acceptWord word then
    let n ← signedNumber
    return [⟨" " ++ word ++ " " ++ n.text, .node kind n.shape⟩]
  else if ← acceptWords ["NO", word] then return [⟨" NO " ++ word, .node kind .null⟩]
  else return []

/-- The options of a sequence, each with a blank in front. -/
def sequenceOptions : Parser (List Wording) := do
  let step ← sequenceNumber "INCREMENT" "BY" "IncrementBy"
  let low ← sequenceBound "MINVALUE" "MinValue"
  let high ← sequenceBound "MAXVALUE" "MaxValue"
  let start ← sequenceNumber "START" "WITH" "StartWith"
  let cache : List Wording ← do
    if ← acceptWord "CACHE" then
      let n ← signedNumber
      pure [⟨" CACHE " ++ n.text, .node "Cache" n.shape⟩]
    else pure []
  let cycle : List Wording ← do
    if ← acceptWords ["NO", "CYCLE"] then pure [⟨" NO CYCLE", .node "Cycle" (.flag true)⟩]
    else if ← acceptWord "CYCLE" then pure [⟨" CYCLE", .node "Cycle" (.flag false)⟩]
    else pure []
  return step ++ low ++ high ++ start ++ cache ++ cycle

/-- A generated column in a tree. -/
def generatedShape (kind : String) (sequence expr : Shape) (mode : Option String)
    (marked : Bool) : Shape :=
  form "Generated" [("generated_as", .text kind), ("sequence_options", sequence),
    ("generation_expr", expr), ("generation_expr_mode", textShape mode),
    ("generated_keyword", .flag marked)]

/-- A column that numbers its rows, behind its keywords. -/
def identityColumn (lead kind : String) : Parser Wording := do
  let options ← do
    if isSign "(" (← peek) then inParens sequenceOptions else pure []
  let written := match options with
    | [] => ""
    | _ => " (" ++ String.join (options.map Wording.text) ++ " )"
  return ⟨"GENERATED " ++ lead ++ " AS IDENTITY" ++ written,
    generatedShape kind (.list (options.map Wording.shape)) .null none true⟩

/-- A column that is computed, behind its keywords, one of which is `AS`. -/
def computedColumn (g : Grammar) (marked : Bool) : Parser (Draft Slot) := do
  let e ← inParens (g.expr 0)
  let mode ← acceptOneOf ["STORED", "VIRTUAL"]
  let (kind, modeKind) := match mode with
    | some "STORED" => ("ExpStored", some "Stored")
    | some _ => ("Always", some "Virtual")
    | none => ("Always", none)
  return do
    let e ← Draft.expr e
    return ⟨words (wordIf marked "GENERATED ALWAYS " ++ "AS (") ++ e.written ++
        words (")" ++ withLead " " mode),
      generatedShape kind .null e.shape modeKind marked⟩

/-- What generates a column, behind the keyword; where it is not said the keyword means
nothing. -/
def generatedOption (g : Grammar) : Parser (Option (Draft Slot)) := do
  if ← acceptWords ["ALWAYS", "AS", "IDENTITY"] then
    let w ← identityColumn "ALWAYS" "Always"
    return some (return w.slot)
  else if ← acceptWords ["BY", "DEFAULT", "AS", "IDENTITY"] then
    let w ← identityColumn "BY DEFAULT" "ByDefault"
    return some (return w.slot)
  else if ← acceptWords ["ALWAYS", "AS"] then
    if isSign "(" (← peek) then return some (← computedColumn g true) else return none
  else return none

/-- How a column numbers its rows, behind the keyword. -/
def identityOption : Parser Wording := do
  let steps : Option Wording ← do
    if ← acceptSign "(" then
      let seed ← signedNumber
      expectSign ","
      let increment ← signedNumber
      expectSign ")"
      pure (some ⟨"(" ++ seed.text ++ ", " ++ increment.text ++ ")",
        form "FunctionCall" [("seed", seed.shape), ("increment", increment.shape)]⟩)
    else pure none
  return ⟨"IDENTITY" ++ (steps.map Wording.text).getD "",
    .node "Identity" (form "Identity"
      [("parameters", (steps.map Wording.shape).getD .null), ("order", .null)])⟩

/-- An option that is an expression behind its keyword. -/
def exprOption (g : Grammar) (lead kind : String) : Parser (Option (Draft Slot)) := do
  let e ← g.expr 0
  return some do
    let e ← Draft.expr e
    return ⟨words (lead ++ " ") ++ e.written, .node kind e.shape⟩

/-- An option that is nothing but its keyword, as a token. -/
def tokenOption (word : String) : Wording :=
  ⟨word, .node "DialectSpecific" (.list [form "Word"
    [("value", .text word), ("quote_style", .null), ("keyword", .text word)]])⟩

/-- The options that are keywords alone. -/
def keywordOption? (g : Grammar) : List String → Parser (Option Wording)
  | [] => return none
  | word :: rest => do
    if (← acceptWord word) && g.isGeneric then return some (tokenOption word)
    else keywordOption? g rest

/-- The option of a column that comes next among those that follow the keywords, if there is
one. -/
def laterColumnOption (g : Grammar) : Parser (Option (Draft Slot)) := do
  if (← acceptWords ["ON", "UPDATE"]) && g.isGeneric then exprOption g "ON UPDATE" "OnUpdate"
  else if ← acceptWord "GENERATED" then generatedOption g
  else if g.isGeneric && isWord "OPTIONS" (← peek) then
    let options ← optionsBehind g "OPTIONS"
    return some do
      let options ← drafts options
      return ⟨words "OPTIONS(" ++ commas options ++ words ")",
        .node "Options" (listShape options)⟩
  else if (← acceptWord "AS") && g.isGeneric then return some (← computedColumn g false)
  else if (← acceptWord "IDENTITY") && g.isGeneric then
    let w ← identityOption
    return some (return w.slot)
  else if ← acceptWordsIf g.isGeneric ["ON", "CONFLICT"] then
    let word ← expectOneOf ["ROLLBACK", "ABORT", "FAIL", "IGNORE", "REPLACE"]
    return some (return ⟨words ("ON CONFLICT " ++ word), .node "OnConflict" (.text word)⟩)
  else return none

/-- The option of a column that comes next, if there is one. -/
def columnOption (g : Grammar) : Parser (Option (Draft Slot)) := do
  let plain (w : Wording) : Option (Draft Slot) := some (return w.slot)
  if ← acceptWords ["CHARACTER", "SET"] then
    let charset ← name
    return plain ⟨"CHARACTER SET " ++ charset.toSql, .node "CharacterSet" charset.shape⟩
  else if ← acceptWords ["NOT", "NULL"] then return plain ⟨"NOT NULL", .text "NotNull"⟩
  else if ← acceptWord "COMMENT" then
    let text ← quotedText "string"
    return plain ⟨"COMMENT " ++ writeQuoted '\'' text, .node "Comment" (.text text)⟩
  else if ← acceptWord "NULL" then return plain ⟨"NULL", .text "Null"⟩
  else if ← acceptWord "DEFAULT" then exprOption g "DEFAULT" "Default"
  else if ← acceptWord "MATERIALIZED" then exprOption g "MATERIALIZED" "Materialized"
  else if ← acceptWord "ALIAS" then exprOption g "ALIAS" "Alias"
  else if ← acceptWord "EPHEMERAL" then
    let l ← peek
    if isSign "," l || isSign ")" l then return plain ⟨"EPHEMERAL", .node "Ephemeral" .null⟩
    else exprOption g "EPHEMERAL" "Ephemeral"
  else if ← acceptWords ["PRIMARY", "KEY"] then return plain (← keyOption true)
  else if ← acceptWord "UNIQUE" then return plain (← keyOption false)
  else if ← acceptWord "REFERENCES" then return plain (← referenceOption)
  else if ← acceptWord "CHECK" then
    let e ← inParens (g.expr 0)
    return some do
      let e ← Draft.expr e
      return ⟨words "CHECK (" ++ e.written ++ words ")", .node "Check" e.shape⟩
  else match ← keywordOption? g ["AUTO_INCREMENT", "AUTOINCREMENT", "ASC", "DESC"] with
    | some w => return plain w
    | none => laterColumnOption g

/-- An option with the name of its constraint. -/
def namedOption (constraint : Option Ident) (option : Draft Slot) : Draft Slot := do
  let option ← option
  return ⟨words ((constraint.map fun c => "CONSTRAINT " ++ c.toSql ++ " ").getD "") ++
      option.written,
    fields [("name", identShape constraint), ("option", option.shape)]⟩

/-- The options of a column, and its collation, which in the generic dialect may stand among
them. -/
def columnOptions (g : Grammar) : (fuel : Nat) → (collation : Option Name) →
    Parser (Option Name × List (Draft Slot))
  | 0, collation => return (collation, [])
  | fuel + 1, collation => do
    if ← acceptWord "CONSTRAINT" then
      let constraint ← ident
      match ← columnOption g with
      | none => expectedNext "constraint details after CONSTRAINT <name>"
      | some option =>
        let (collation, options) ← columnOptions g fuel collation
        return (collation, namedOption (some constraint) option :: options)
    else match ← columnOption g with
      | some option =>
        let (collation, options) ← columnOptions g fuel collation
        return (collation, namedOption none option :: options)
      | none =>
        if ← acceptWordIf g.isGeneric "COLLATE" then columnOptions g fuel (some (← name))
        else return (collation, [])

/-- A column, given how to read its type. -/
def columnDefinition (g : Grammar) (type : Parser DataType) : Parser (Draft Slot) := do
  let column ← ident
  let type ← type
  let collation ← optionalClause "COLLATE" name
  let (collation, options) ← columnOptions g ((← remaining) + 1) collation
  return do
    let type ← Draft.phrasePart type
    let options ← drafts options
    return ⟨words (column.toSql ++ " ") ++ type.written ++
        words (withLead " COLLATE " (collation.map Name.toSql)) ++
        options.flatMap (fun option => words " " ++ option.written),
      fields [("name", .ident column), ("data_type", type.shape),
        ("collation", nameShape collation), ("options", listShape options)]⟩

end SqlTemplate.Sql.Parser
