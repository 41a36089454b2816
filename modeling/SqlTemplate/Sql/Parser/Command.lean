import SqlTemplate.Sql.Parser.Query
import SqlTemplate.Text.Report

/-!
# Reading commands

Statements that change tables, views and rights. Each is one phrase.
-/

namespace SqlTemplate.Sql.Parser

/-- What a change does where it meets a conflict, if it is said. To replace what is there can be
said without `OR`. -/
def conflictClause : Parser (Option Wording) := do
  let kinds : List (List String × Wording) :=
    [(["OR", "REPLACE"], ⟨"OR REPLACE", .text "Replace"⟩),
      (["OR", "ROLLBACK"], ⟨"OR ROLLBACK", .text "Rollback"⟩),
      (["OR", "ABORT"], ⟨"OR ABORT", .text "Abort"⟩),
      (["OR", "FAIL"], ⟨"OR FAIL", .text "Fail"⟩),
      (["OR", "IGNORE"], ⟨"OR IGNORE", .text "Ignore"⟩),
      (["REPLACE"], ⟨"OR REPLACE", .text "Replace"⟩)]
  return (← acceptFirst kinds).map Prod.snd

/-- A column, or several between parentheses, and the new value. -/
def assignment (g : Grammar) : Parser (Draft Slot) := do
  let target : Wording ← do
    if isSign "(" (← peek) then
      let names ← inParens (commaSeparated name)
      pure ⟨"(" ++ commaJoin (names.map Name.toSql) ++ ")",
        .node "Tuple" (.list (names.map Name.shape))⟩
    else
      let column ← name
      pure ⟨column.toSql, .node "ColumnName" column.shape⟩
  expectSign "="
  let e ← g.expr 0
  return do
    let e ← Draft.expr e
    return ⟨words (target.text ++ " = ") ++ e.written,
      fields [("target", target.shape), ("value", e.shape)]⟩

/-- The items that a change returns, if it is said. -/
def returningClause (g : Grammar) : Parser (Option (List SelectItem)) :=
  optionalClause "RETURNING" (commaSeparated (selectItem g))

/-- What is done to a row that is there already, behind `DO`. -/
def conflictAction (g : Grammar) : Parser (Draft Slot) := do
  if ← acceptWord "NOTHING" then return pure (keywordSlot "DO NOTHING" "DoNothing")
  else
    expectWords ["UPDATE", "SET"]
    let changes ← commaSeparated (assignment g)
    let condition ← optionalClause "WHERE" (g.expr 0)
    return do
      let changes ← drafts changes
      let condition ← Draft.optExpr condition
      return ⟨commasBehind "DO UPDATE SET " changes ++ behind " WHERE " condition,
        form "DoUpdate" [("assignments", listShape changes), ("selection", optShape condition)]⟩

/-- What is done to rows that are there already, behind `ON`. -/
def onInsert (g : Grammar) : Parser (Draft Slot) := do
  if ← acceptWord "CONFLICT" then
    let target : Option Wording ← do
      if ← acceptWords ["ON", "CONSTRAINT"] then
        let constraint ← name
        pure (some ⟨" ON CONSTRAINT " ++ constraint.toSql,
          .node "OnConstraint" constraint.shape⟩)
      else if isSign "(" (← peek) then
        let columns ← columnList
        pure (some ⟨"(" ++ identsText columns ++ ")",
          .node "Columns" (.list (columns.map .ident))⟩)
      else pure none
    expectWord "DO"
    let action ← conflictAction g
    return do
      let action ← action
      return ⟨words (" ON CONFLICT" ++ ((target.map Wording.text).getD "") ++ " ") ++
          action.written,
        form "OnConflict" [("conflict_target", (target.map Wording.shape).getD .null),
          ("action", action.shape)]⟩
  else
    expectWords ["DUPLICATE", "KEY", "UPDATE"]
    let changes ← commaSeparated (assignment g)
    return do
      let changes ← drafts changes
      return ⟨commasBehind " ON DUPLICATE KEY UPDATE " changes,
        .node "DuplicateKeyUpdate" (listShape changes)⟩

/-- The formats of a file, whose kinds are their keywords. -/
def fileFormats : List String :=
  ["TEXTFILE", "SEQUENCEFILE", "ORC", "PARQUET", "AVRO", "RCFILE", "JSONFILE"]

/-- The format of a file. -/
def fileFormat : Parser String := do
  match ← acceptOneOf fileFormats with
  | some word => return word
  | none => expected "fileformat" (← next)

/-- An export of rows to a directory, behind its keyword. -/
def directoryExport (g : Grammar) (overwrite isLocal : Bool) : Parser Phrase := do
  let path ← literalText g.dialect
  let format ← if ← acceptWords ["STORED", "AS"] then pure (some (← fileFormat)) else pure none
  let source ← g.query
  return Draft.phrase do
    let source ← Draft.part (.query source)
    return ⟨words ("INSERT" ++ wordIf overwrite " OVERWRITE" ++ wordIf isLocal " LOCAL" ++
        " DIRECTORY '" ++ path ++ "'" ++ withLead " STORED AS " format ++ " ") ++ source.written,
      form "Directory" [("overwrite", .flag overwrite), ("local", .flag isLocal),
        ("path", .text path), ("file_format", textShape format), ("source", source.shape)]⟩

/-- The priorities of an insertion: word and kind. -/
def insertPriorities : List (String × String) :=
  [("LOW_PRIORITY", "LowPriority"), ("DELAYED", "Delayed"), ("HIGH_PRIORITY", "HighPriority")]

/-- How an insertion starts. -/
structure InsertHead where
  onConflict : Option Wording
  priority : Option String
  ignore : Bool
  overwrite : Bool
  into : Bool
  tableWord : Bool

/-- How an insertion starts, as written up to the name of the table. -/
def InsertHead.text (h : InsertHead) (replacing : Bool) : String :=
  match h.onConflict with
  | some action => "INSERT " ++ action.text ++ " INTO "
  | none =>
    (if replacing then "REPLACE" else "INSERT") ++ withLead " " h.priority ++
      wordIf h.ignore " IGNORE" ++ wordIf h.overwrite " OVERWRITE" ++ wordIf h.into " INTO" ++
      wordIf h.tableWord " TABLE" ++ " "

/-- Whether a parenthesis with a selection in it comes next. -/
def comesParenSelect : Parser Bool := do
  match ← get with
  | a :: b :: _ => return isSign "(" (some a) && isWord "SELECT" (some b)
  | _ => return false

/-- Columns and partitions of an insertion, and where its rows come from. -/
def insertSource (g : Grammar) :
    Parser (List Ident × Option (List Expr) × Option Query) := do
  if ← acceptWords ["DEFAULT", "VALUES"] then return ([], none, none)
  else
    let (columns, partitions) ← do
      if ← comesParenSelect then pure ([], none)
      else
        let columns ← optionalColumnList
        let partitions ← optionalClause "PARTITION" (inParens (commaSeparated (g.expr 0)))
        pure (columns, partitions)
    return (columns, partitions, some (← g.query))

/-- The names of an inserted row and its columns, if they are said. -/
def insertAlias (g : Grammar) : Parser (Option Wording) := do
  match g.dialect with
  | .clickHouse => return none
  | .generic =>
    match ← optionalClause "AS" name with
    | none => return none
    | some row =>
      let columns ← optionalColumnList
      let columnsText := match columns with
        | [] => ""
        | _ => " (" ++ identsText columns ++ ")"
      return some ⟨" AS " ++ row.toSql ++ columnsText,
        fields [("row_alias", row.shape), ("col_aliases", .list (columns.map .ident))]⟩

/-- An insertion into a table, behind the words in front of the name of the table. -/
def tableInsertion (g : Grammar) (replacing : Bool) (head : InsertHead) : Parser Phrase := do
  let table ← name
  let (columns, partitions, source) ← insertSource g
  let label ← insertAlias g
  let on ← optionalClause "ON" (onInsert g)
  let returning ← returningClause g
  return Draft.phrase do
    let source ← Draft.optPart (source.map .query)
    let partitions : Option (List Slot) ← match partitions with
      | none => pure none
      | some es => some <$> Draft.exprs es
    let on ← optDraft on
    let returning ← Draft.optItems returning
    return ⟨words (head.text replacing ++ table.toSql ++ " ") ++
        commasWithin "(" ") " (columns.map Ident.slot) ++
        commasWithin "PARTITION (" ") " (partitions.getD []) ++ behind "" source ++
        wordsIf (source.isNone && columns.isEmpty) "DEFAULT VALUES" ++
        words ((label.map Wording.text).getD "") ++ behind "" on ++
        commasBehind " RETURNING " (returning.getD []),
      form "Insert" [("or", (head.onConflict.map Wording.shape).getD .null),
        ("ignore", .flag head.ignore), ("into", .flag head.into), ("table_name", table.shape),
        ("table_alias", .null), ("columns", .list (columns.map .ident)),
        ("overwrite", .flag head.overwrite), ("source", optShape source),
        ("partitioned", optListShape partitions), ("after_columns", .list []),
        ("table", .flag head.tableWord), ("on", optShape on),
        ("returning", optListShape returning), ("replace_into", .flag replacing),
        ("priority", textShape (head.priority.bind fun p => insertPriorities.lookup p)),
        ("insert_alias", (label.map Wording.shape).getD .null)]⟩

/-- An insertion behind its keyword. -/
def insertion (g : Grammar) (replacing : Bool) : Parser Phrase := do
  let onConflict ← conflictClause
  let priority ← match g.dialect with
    | .clickHouse => pure none
    | .generic => acceptOneOf (insertPriorities.map Prod.fst)
  let ignore ← match g.dialect with
    | .clickHouse => pure false
    | .generic => acceptWord "IGNORE"
  let overwrite ← acceptWord "OVERWRITE"
  let into ← acceptWord "INTO"
  let isLocal ← acceptWord "LOCAL"
  if ← acceptWord "DIRECTORY" then directoryExport g overwrite isLocal
  else
    let tableWord ← acceptWord "TABLE"
    tableInsertion g replacing { onConflict, priority, ignore, overwrite, into, tableWord }

/-- An update behind its keyword. The clickHouse dialect reads `FROM` but no relation behind it. -/
def updating (g : Grammar) : Parser Phrase := do
  let onConflict ← conflictClause
  let table ← fromItem g
  expectWord "SET"
  let changes ← commaSeparated (assignment g)
  let fromWord ← acceptWord "FROM"
  let source ← do
    if fromWord && g.dialect == .generic then pure (some (← fromItem g)) else pure none
  let condition ← optionalClause "WHERE" (g.expr 0)
  let returning ← returningClause g
  return Draft.phrase do
    let table ← Draft.part (.source table)
    let changes ← drafts changes
    let source ← Draft.optPart (source.map .source)
    let condition ← Draft.optExpr condition
    let returning ← Draft.optItems returning
    return ⟨words ("UPDATE " ++ ((onConflict.map fun w => w.text ++ " ").getD "")) ++
        table.written ++ commasBehind " SET " changes ++ behind " FROM " source ++
        behind " WHERE " condition ++ commasBehind " RETURNING " (returning.getD []),
      form "Update" [("table", table.shape), ("assignments", listShape changes),
        ("from", optShape source), ("selection", optShape condition),
        ("returning", optListShape returning),
        ("or", (onConflict.map Wording.shape).getD .null)]⟩

/-- The change of a table that stands in the place of the body of a query, if one comes next. -/
def bodyCommand (g : Grammar) : Parser (Option (String × Phrase)) := do
  if ← acceptWord "INSERT" then return some ("Insert", ← insertion g false)
  else if ← acceptWord "UPDATE" then return some ("Update", ← updating g)
  else return none

/-- A deletion behind its keyword. -/
def deletion (g : Grammar) : Parser Phrase := do
  let (targets, fromWord) ← do
    if ← acceptWord "FROM" then pure ([], true)
    else match g.dialect with
      | .clickHouse => do
        let targets ← commaSeparated name
        expectWord "FROM"
        pure (targets, true)
      | .generic => pure ([], false)
  let tables ← commaSeparated (fromItem g)
  let used ← optionalClause "USING" (commaSeparated (fromItem g))
  let condition ← optionalClause "WHERE" (g.expr 0)
  let returning ← returningClause g
  let orderBy ← optionalOrder g
  let limit ← if ← acceptWord "LIMIT" then limitValue g else pure none
  return Draft.phrase do
    let tables ← Draft.sources tables
    let used : Option (List Slot) ← match used with
      | none => pure none
      | some items => some <$> Draft.sources items
    let condition ← Draft.optExpr condition
    let returning ← Draft.optItems returning
    let orderBy ← Draft.orders orderBy
    let limit ← Draft.optExpr limit
    return ⟨words "DELETE " ++ commasWithin "" " " (targets.map Name.slot) ++
        wordsIf fromWord "FROM " ++ commas tables ++ commasBehind " USING " (used.getD []) ++
        behind " WHERE " condition ++ commasBehind " RETURNING " (returning.getD []) ++
        commasBehind " ORDER BY " orderBy ++ behind " LIMIT " limit,
      form "Delete" [("tables", .list (targets.map Name.shape)),
        ("from", .node (if fromWord then "WithFromKeyword" else "WithoutKeyword")
          (listShape tables)),
        ("using", optListShape used), ("selection", optShape condition),
        ("returning", optListShape returning), ("order_by", listShape orderBy),
        ("limit", optShape limit)]⟩

/-- A column of a view: with its type in the clickHouse dialect, with options or a comment in the
generic one. -/
def viewColumn (g : Grammar) : Parser (Draft Slot) := do
  let column ← ident
  let (type, option) : Option DataType × Option (Draft Slot) ← match g.dialect with
    | .clickHouse => pure (some (← dataType g), none)
    | .generic => do
      if ← comesOneOf ["OPTIONS", "COMMENT"] then pure (none, ← columnOption g)
      else pure (none, none)
  return do
    let type ← Draft.optPart (type.map .phrase)
    let option ← optDraft option
    return ⟨words column.toSql ++ behind " " type ++ behind " " option,
      fields [("name", .ident column), ("data_type", optShape type),
        ("options", (option.map fun o => .list [o.shape]).getD .null)]⟩

/-- How a creation starts. -/
structure CreateHead where
  orReplace : Bool
  temporary : Bool

/-- A creation of a view, behind `VIEW`. -/
def viewCreation (g : Grammar) (head : CreateHead) (materialized : Bool) : Parser Phrase := do
  let generic := g.dialect == .generic
  let ifNotExists ← if generic then acceptWords ["IF", "NOT", "EXISTS"] else pure false
  let view ← name
  let columns ← do
    if isSign "(" (← peek) then inParens (commaSeparatedUntil ")" (viewColumn g)) else pure []
  let withOptions ← optionsBehind g "WITH"
  let clusterBy ← do
    if ← acceptWord "CLUSTER" then
      expectWord "BY"
      optionalColumnList
    else pure []
  let options ← if generic then optionsBehind g "OPTIONS" else pure []
  let target ← optionalClause "TO" name
  let comment ← do
    if ← acceptWordIf generic "COMMENT" then
      expectSign "="
      pure (some (← quotedText "string literal"))
    else pure none
  expectWord "AS"
  let q ← g.query
  let unbound ← if generic then acceptWords ["WITH", "NO", "SCHEMA", "BINDING"] else pure false
  return Draft.phrase do
    let columns ← drafts columns
    let q ← Draft.part (.query q)
    let withOptions ← if options.isEmpty then drafts withOptions else pure []
    let options ← drafts options
    let optionsShape : Shape := match options, withOptions with
      | [], [] => .text "None"
      | [], _ => .node "With" (listShape withOptions)
      | _, _ => .node "Options" (listShape options)
    return ⟨words ("CREATE " ++ wordIf head.orReplace "OR REPLACE " ++
          wordIf materialized "MATERIALIZED " ++ wordIf head.temporary "TEMPORARY " ++ "VIEW " ++
          wordIf ifNotExists "IF NOT EXISTS " ++ view.toSql ++
          withLead " TO " (target.map Name.toSql)) ++
        commasWithin " (" ")" columns ++ commasWithin " WITH (" ")" withOptions ++
        behind " COMMENT = " (comment.map textSlot) ++
        commasWithin " CLUSTER BY (" ")" (clusterBy.map Ident.slot) ++
        commasWithin " OPTIONS(" ")" options ++ words " AS " ++ q.written ++
        wordsIf unbound " WITH NO SCHEMA BINDING",
      form "CreateView" [("or_replace", .flag head.orReplace),
        ("materialized", .flag materialized), ("name", view.shape),
        ("columns", listShape columns), ("query", q.shape), ("options", optionsShape),
        ("cluster_by", .list (clusterBy.map .ident)), ("comment", textShape comment),
        ("with_no_schema_binding", .flag unbound), ("if_not_exists", .flag ifNotExists),
        ("temporary", .flag head.temporary), ("to", nameShape target)]⟩

/-- A creation behind its keyword. -/
def creation (g : Grammar) : Parser Phrase := do
  let orReplace ← acceptWords ["OR", "REPLACE"]
  let _ ← acceptWords ["OR", "ALTER"]
  let _ ← acceptWord "LOCAL"
  let _ ← acceptWord "GLOBAL"
  let _ ← acceptWord "TRANSIENT"
  let temporary := (← acceptOneOf ["TEMP", "TEMPORARY"]).isSome
  let head : CreateHead := { orReplace, temporary }
  if ← acceptWord "MATERIALIZED" then
    expectWord "VIEW"
    viewCreation g head true
  else if ← acceptWord "VIEW" then viewCreation g head false
  else if orReplace then
    expectedNext "[EXTERNAL] TABLE or [MATERIALIZED] VIEW or FUNCTION after CREATE OR REPLACE"
  else expectedNext "an object type after CREATE"

/-- The rights that can be granted: word, kind, and whether for single columns. -/
def grantableRights : List (String × String × Bool) :=
  [("CONNECT", "Connect", false), ("CREATE", "Create", false), ("DELETE", "Delete", false),
    ("EXECUTE", "Execute", false), ("INSERT", "Insert", true), ("REFERENCES", "References", true),
    ("SELECT", "Select", true), ("TEMPORARY", "Temporary", false), ("TRIGGER", "Trigger", false),
    ("TRUNCATE", "Truncate", false), ("UPDATE", "Update", true), ("USAGE", "Usage", false)]

/-- A right. -/
def grantedRight : Parser Wording := do
  match ← acceptOneOf (grantableRights.map Prod.fst) with
  | none => expectedNext "a privilege keyword"
  | some word =>
    match grantableRights.lookup word with
    | some (kind, true) =>
      match ← optionalColumnList with
      | [] => return ⟨word, form kind [("columns", .null)]⟩
      | columns =>
        return ⟨word ++ " (" ++ identsText columns ++ ")",
          form kind [("columns", .list (columns.map .ident))]⟩
    | some (kind, false) => return ⟨word, .text kind⟩
    | none => return ⟨word, .text word⟩

/-- The rights of a grant. -/
def grantedRights : Parser Wording := do
  if ← acceptWord "ALL" then
    let word ← acceptWord "PRIVILEGES"
    return ⟨"ALL" ++ wordIf word " PRIVILEGES",
      form "All" [("with_privileges_keyword", .flag word)]⟩
  else
    let rights ← commaSeparated grantedRight
    return ⟨commaJoin (rights.map Wording.text),
      .node "Actions" (.list (rights.map Wording.shape))⟩

/-- What a grant is about. -/
def grantedObjects : Parser Wording := do
  let objects := do
    let names ← commaSeparated name
    return (commaJoin (names.map Name.toSql), Shape.list (names.map Name.shape))
  if ← acceptWords ["ALL", "TABLES", "IN", "SCHEMA"] then
    let (text, shape) ← objects
    return ⟨"ALL TABLES IN SCHEMA " ++ text, form "AllTablesInSchema" [("schemas", shape)]⟩
  else if ← acceptWords ["ALL", "SEQUENCES", "IN", "SCHEMA"] then
    let (text, shape) ← objects
    return ⟨"ALL SEQUENCES IN SCHEMA " ++ text, form "AllSequencesInSchema" [("schemas", shape)]⟩
  else
    let kind ← acceptOneOf ["SEQUENCE", "SCHEMA", "TABLE"]
    let (text, shape) ← objects
    match kind with
    | some "SEQUENCE" => return ⟨"SEQUENCE " ++ text, .node "Sequences" shape⟩
    | some "SCHEMA" => return ⟨"SCHEMA " ++ text, .node "Schemas" shape⟩
    | _ => return ⟨text, .node "Tables" shape⟩

/-- The suffix that tells a place. -/
def positionSuffix (at_ : Text.Location) : String :=
  " at Line: " ++ toString at_.line ++ ", Column: " ++ toString at_.column

/-- The name of who grants. Nothing can be made of a text where it is missing. -/
def grantor : Parser Ident := fun input =>
  match ident input with
  | .ok result => .ok result
  | .error (.rejected message location) =>
    let report := message ++ (location.map positionSuffix).getD ""
    .error (.fatal ("called \x60Result::unwrap()\x60 on an \x60Err\x60 value: ParserError(" ++
      Text.reported report ++ ")"))
  | .error e => .error e

/-- The name of who grants, if it is said. -/
def optionalGrantor : Parser (Option Ident) := do
  if ← acceptWords ["GRANTED", "BY"] then return some (← grantor) else return none

/-- A grant behind its keyword. -/
def granting : Parser Phrase := do
  let rights ← grantedRights
  expectWord "ON"
  let objects ← grantedObjects
  expectWord "TO"
  let grantees ← commaSeparated ident
  let grantOption ← acceptWords ["WITH", "GRANT", "OPTION"]
  let grantedBy ← optionalGrantor
  return Wording.phrase ⟨"GRANT " ++ rights.text ++ " ON " ++ objects.text ++ " TO " ++
      identsText grantees ++ wordIf grantOption " WITH GRANT OPTION" ++
      withLead " GRANTED BY " (grantedBy.map Ident.toSql),
    form "Grant" [("privileges", rights.shape), ("objects", objects.shape),
      ("grantees", .list (grantees.map .ident)), ("with_grant_option", .flag grantOption),
      ("granted_by", identShape grantedBy)]⟩

/-- A withdrawal of rights behind its keyword. -/
def revoking : Parser Phrase := do
  let rights ← grantedRights
  expectWord "ON"
  let objects ← grantedObjects
  expectWord "FROM"
  let grantees ← commaSeparated ident
  let grantedBy ← optionalGrantor
  let l ← peek
  let cascade ← acceptWord "CASCADE"
  let restrict ← acceptWord "RESTRICT"
  if cascade && restrict then
    reject "Cannot specify both CASCADE and RESTRICT in REVOKE" l
  return Wording.phrase ⟨"REVOKE " ++ rights.text ++ " ON " ++ objects.text ++ " FROM " ++
      identsText grantees ++ withLead " GRANTED BY " (grantedBy.map Ident.toSql) ++
      (if cascade then " CASCADE" else " RESTRICT"),
    form "Revoke" [("privileges", rights.shape), ("objects", objects.shape),
      ("grantees", .list (grantees.map .ident)), ("granted_by", identShape grantedBy),
      ("cascade", .flag cascade)]⟩

end SqlTemplate.Sql.Parser
