import SqlTemplate.Sql.Parser.Query
import SqlTemplate.Sql.Parser.Transaction

/-!
# Reading session commands

The commands that show and set the state of a session.
-/

namespace SqlTemplate.Sql.Parser

/-- Which of the things shown are meant, if it is said. -/
def showFilter (g : Grammar) : Parser (Option (Draft Slot)) := do
  if ← acceptWord "LIKE" then
    let text ← literalText g.dialect
    return some (return ⟨words ("LIKE " ++ writeQuoted '\'' text), .node "Like" (.text text)⟩)
  else if ← acceptWord "ILIKE" then
    let text ← literalText g.dialect
    let written := String.ofList (quotedBody '\'' '\x00' text.toList)
    return some (return ⟨words ("ILIKE " ++ written), .node "ILike" (.text text)⟩)
  else if ← acceptWord "WHERE" then
    let e ← g.expr 0
    return some do
      let e ← Draft.expr e
      return ⟨words "WHERE " ++ e.written, .node "Where" e.shape⟩
  else match ← attempt (literalText g.dialect) with
    | none => return none
    | some text =>
      return some (return ⟨words (writeQuoted '\'' text), .node "NoKeyword" (.text text)⟩)

/-- The kinds of things that hold others: word and kind. -/
def showParents : List (String × String) :=
  [("ACCOUNT", "Account"), ("DATABASE", "Database"), ("SCHEMA", "Schema"), ("TABLE", "Table"),
    ("VIEW", "View")]

/-- Whether what comes next is no name of a thing that holds others. -/
def lacksParentName (parent : String) : Parser Bool := do
  let input ← get
  return (parent = "DATABASE" || parent = "SCHEMA") &&
    (startsWithWords ["STARTS", "WITH"] input || startsWithWords ["LIMIT"] input)

/-- In which thing those shown are to be, if it is said. A table may be followed by its database,
which is then written in front of it. -/
def showIn : Parser (Option Wording) := do
  match ← acceptOneOf ["FROM", "IN"] with
  | none => return none
  | some clause =>
    let parent ← acceptOneOf (showParents.map Prod.fst)
    let parentName : Option Name ← match parent with
      | some word => do
        if ← lacksParentName word then pure none else attempt name
      | none => do
        let inner ← name
        match ← acceptOneOf ["FROM", "IN"] with
        | none => pure (some inner)
        | some _ => pure (some ((← ident) :: inner))
    return some ⟨clause ++ withLead " " parent ++ withLead " " (parentName.map Name.toSql),
      fields [("clause", .text clause),
        ("parent_type", textShape (parent.bind fun p => showParents.lookup p)),
        ("parent_name", nameShape parentName)]⟩

/-- Which of the things shown are meant, how many, and from which on. -/
def showOptions (g : Grammar) : Parser (Draft Slot) := do
  let parent ← showIn
  let filter ← showFilter g
  let start ← do
    if ← acceptWords ["STARTS", "WITH"] then pure (some (← value)) else pure none
  let limit ← if ← acceptWord "LIMIT" then limitValue g else pure none
  let origin ← optionalClause "FROM" value
  return do
    let limit ← Draft.optExpr limit
    let filter ← optDraft filter
    return ⟨words (withLead " " (parent.map Wording.text)) ++
        behind " STARTS WITH " (start.map Literal.slot) ++ behind " LIMIT " limit ++
        behind " FROM " (origin.map Literal.slot) ++ behind " " filter,
      fields [("show_in", (parent.map Wording.shape).getD .null),
        ("starts_with", (start.map Shape.literal).getD .null), ("limit", optShape limit),
        ("limit_from", (origin.map Shape.literal).getD .null),
        ("filter_position", (filter.map fun f => Shape.node "Suffix" f.shape).getD .null)]⟩

/-- A phrase that starts with words and ends with options. -/
def showPhrase (lead kind : String) (members : List (String × Shape)) (options : Draft Slot) :
    Phrase := Draft.phrase do
  let options ← options
  return ⟨words lead ++ options.written, form kind (members ++ [("show_options", options.shape)])⟩

/-- A phrase that starts with words and ends with a filter. -/
def filterPhrase (lead kind : String) (members : List (String × Shape))
    (filter : Option (Draft Slot)) : Phrase := Draft.phrase do
  let filter ← optDraft filter
  return ⟨words lead ++ behind " " filter, form kind (members ++ [("filter", optShape filter)])⟩

/-- The things whose creation can be shown: word and kind. -/
def shownObjects : List (String × String) :=
  [("TABLE", "Table"), ("TRIGGER", "Trigger"), ("FUNCTION", "Function"),
    ("PROCEDURE", "Procedure"), ("EVENT", "Event"), ("VIEW", "View")]

/-- The words that come next, up to an equals sign or the end; other tokens count for nothing. -/
def looseNames : List Lexeme → List Ident × List Lexeme
  | [] => ([], [])
  | l :: rest =>
    match l.token with
    | .word text quote =>
      let (names, left) := looseNames rest
      (⟨text, quote, some l.span⟩ :: names, left)
    | .sign "=" => ([], l :: rest)
    | _ => looseNames rest

/-- A variable to be shown. -/
def variableShow : Parser Phrase := do
  let (names, rest) := looseNames (← get)
  set rest
  return Wording.phrase ⟨"SHOW" ++ String.join (names.map fun n => " " ++ n.toSql),
    form "ShowVariable" [("variable", .list (names.map .ident))]⟩

/-- A command that shows something, behind its keyword. -/
def showing (g : Grammar) : Parser Phrase := do
  let terse ← acceptWord "TERSE"
  let extended ← acceptWord "EXTENDED"
  let full ← acceptWord "FULL"
  let session ← acceptWord "SESSION"
  let global ← acceptWord "GLOBAL"
  let external ← acceptWord "EXTERNAL"
  let terseText := wordIf terse "TERSE "
  let widthText := wordIf extended "EXTENDED " ++ wordIf full "FULL "
  let scopeText := wordIf global " GLOBAL" ++ wordIf session " SESSION"
  if (← acceptOneOf ["COLUMNS", "FIELDS"]).isSome then
    return showPhrase ("SHOW " ++ widthText ++ "COLUMNS") "ShowColumns"
      [("extended", .flag extended), ("full", .flag full)] (← showOptions g)
  else if ← acceptWord "TABLES" then
    let history ← acceptWordIf (!external) "HISTORY"
    return showPhrase ("SHOW " ++ terseText ++ widthText ++ wordIf external "EXTERNAL " ++
        "TABLES" ++ wordIf history " HISTORY") "ShowTables"
      [("terse", .flag terse), ("history", .flag history), ("extended", .flag extended),
        ("full", .flag full), ("external", .flag external)] (← showOptions g)
  else if ← acceptWords ["MATERIALIZED", "VIEWS"] then
    return showPhrase ("SHOW " ++ terseText ++ "MATERIALIZED VIEWS") "ShowViews"
      [("terse", .flag terse), ("materialized", .flag true)] (← showOptions g)
  else if ← acceptWord "VIEWS" then
    return showPhrase ("SHOW " ++ terseText ++ "VIEWS") "ShowViews"
      [("terse", .flag terse), ("materialized", .flag false)] (← showOptions g)
  else if ← acceptWord "FUNCTIONS" then
    return filterPhrase "SHOW FUNCTIONS" "ShowFunctions" [] (← showFilter g)
  else if extended || full then
    throw (.rejected "EXTENDED/FULL are not supported with this type of SHOW query" none)
  else if ← acceptWord "CREATE" then
    let word ← expectOneOf (shownObjects.map Prod.fst)
    let object ← name
    return Wording.phrase ⟨"SHOW CREATE " ++ word ++ " " ++ object.toSql,
      form "ShowCreate" [("obj_type", textShape (shownObjects.lookup word)),
        ("obj_name", object.shape)]⟩
  else if ← acceptWord "COLLATION" then
    return filterPhrase "SHOW COLLATION" "ShowCollation" [] (← showFilter g)
  else if (← acceptWord "VARIABLES") && g.isGeneric then
    return filterPhrase ("SHOW" ++ scopeText ++ " VARIABLES") "ShowVariables"
      [("global", .flag global), ("session", .flag session)] (← showFilter g)
  else if (← acceptWord "STATUS") && g.isGeneric then
    return filterPhrase ("SHOW" ++ scopeText ++ " STATUS") "ShowStatus"
      [("global", .flag global), ("session", .flag session)] (← showFilter g)
  else
    match ← acceptFirst [(["DATABASES"], "ShowDatabases"), (["SCHEMAS"], "ShowSchemas")] with
    | some (keywords, kind) =>
      let history ← acceptWord "HISTORY"
      return showPhrase ("SHOW " ++ terseText ++ String.join keywords ++
          wordIf history " HISTORY") kind
        [("terse", .flag terse), ("history", .flag history)] (← showOptions g)
    | none => variableShow

/-- A change of the database in use, behind its keyword. -/
def using_ : Parser Phrase := do
  let database ← name
  return Wording.phrase ⟨"USE " ++ database.toSql, .node "Use" (.node "Object" database.shape)⟩

/-- A command that ends work, behind its keyword. -/
def killing : Parser Phrase := do
  let modifier ← acceptFirst [(["CONNECTION"], "Connection"), (["QUERY"], "Query"),
    (["MUTATION"], "Mutation")]
  let id ← wholeNumber
  return Wording.phrase ⟨"KILL " ++
      ((modifier.map fun (keywords, _) => String.join keywords ++ " ").getD "") ++ toString id,
    form "Kill" [("modifier", textShape (modifier.map Prod.snd)), ("id", .number id)]⟩

/-- What a session forgets, behind the keyword. -/
def discarding : Parser Phrase := do
  match ← acceptFirst [(["ALL"], "ALL"), (["PLANS"], "PLANS"), (["SEQUENCES"], "SEQUENCES"),
      (["TEMP"], "TEMP"), (["TEMPORARY"], "TEMP")] with
  | some (_, kind) =>
    return Wording.phrase ⟨"DISCARD " ++ kind, form "Discard" [("object_type", .text kind)]⟩
  | none => expectedNext "ALL, PLANS, SEQUENCES, TEMP or TEMPORARY after DISCARD"

/-- A setting of the engine, behind the keyword. -/
def pragma : Parser Phrase := do
  let setting ← name
  let pragmaValue : Parser Literal := do
    let l ← peek
    match ← value with
    | .string .single text => return .string .single text
    | .string .double text => return .string .double text
    | .number text long => return .number text long
    | .placeholder text => return .placeholder text
    | _ => expected "number or string or ? placeholder" l
  let phrase (text : String) (value : Shape) (equals : Bool) : Phrase :=
    Wording.phrase ⟨"PRAGMA " ++ setting.toSql ++ text,
      form "Pragma" [("name", setting.shape), ("value", value), ("is_eq", .flag equals)]⟩
  if ← acceptSign "(" then
    let v ← pragmaValue
    expectSign ")"
    return phrase ("(" ++ v.toSql ++ ")") (.literal v) false
  else if ← acceptSign "=" then
    let v ← pragmaValue
    return phrase (" = " ++ v.toSql) (.literal v) true
  else return phrase "" .null false

/-- The role of a session, behind `ROLE`. -/
def roleSetting (modifier : Option String) : Parser Phrase := do
  let role ← if ← acceptWord "NONE" then pure none else pure (some (← ident))
  let (text, kind) := match modifier with
    | some "LOCAL" => (" LOCAL", "Local")
    | some "SESSION" => (" SESSION", "Session")
    | _ => ("", "None")
  return Wording.phrase ⟨"SET" ++ text ++ " ROLE " ++ (role.map Ident.toSql).getD "NONE",
    form "SetRole" [("context_modifier", .text kind), ("role_name", identShape role)]⟩

/-- The character set of a session, behind `NAMES`. -/
def namesSetting (g : Grammar) : Parser Phrase := do
  if ← acceptWord "DEFAULT" then
    return Wording.phrase ⟨"SET NAMES DEFAULT", .node "SetNamesDefault" (fields [])⟩
  else
    let charset ← literalText g.dialect
    let collation ← optionalClause "COLLATE" (literalText g.dialect)
    return Wording.phrase ⟨"SET NAMES " ++ charset ++ withLead " COLLATE " collation,
      form "SetNames" [("charset_name", .text charset), ("collation_name", textShape collation)]⟩

/-- An expression or a query without parentheses, where nothing else can stand. -/
def settingValue (g : Grammar) (what : String) : Parser Expr := do
  if ← comesQuery then return .subquery (← g.query)
  else match ← attempt (g.expr 0) with
    | some e => return e
    | none => expectedNext what

/-- The modes of the transactions of a session. -/
def transactionSetting (session : Bool) : Parser Phrase := do
  let lead := if session then "SET SESSION CHARACTERISTICS AS TRANSACTION" else "SET TRANSACTION"
  let phrase (modes : List Wording) (snapshot : Option Literal) : Phrase :=
    Wording.phrase ⟨lead ++ modesText modes ++ withLead " SNAPSHOT " (snapshot.map Literal.toSql),
      form "SetTransaction" [("modes", modesShape modes),
        ("snapshot", (snapshot.map Shape.literal).getD .null), ("session", .flag session)]⟩
  if session then
    expectWords ["AS", "TRANSACTION"]
    return phrase (← transactionModes) none
  else if ← acceptWord "SNAPSHOT" then return phrase [] (some (← value))
  else return phrase (← transactionModes) none

/-- What a setting sets: one variable, or several between parentheses. -/
inductive SettingTarget where
  | one (variable_ : Name)
  | many (names : List Ident)

/-- What a setting sets. -/
def settingTarget (g : Grammar) : Parser SettingTarget := do
  if ← acceptWords ["TIME", "ZONE"] then return .one [⟨"TIMEZONE", none, none⟩]
  else if g.isGeneric && isSign "(" (← peek) then
    return .many (← inParens (commaSeparated ident))
  else return .one (← name)

/-- A setting of variables, behind the sign. -/
def assignedVariables (g : Grammar) (modifier : Option String) (target : SettingTarget) :
    Parser Phrase := do
  let values := commaSeparated (settingValue g "variable value")
  let isLocal := modifier = some "LOCAL"
  let hive := modifier = some "HIVEVAR"
  let phrase (name open_ closing : String) (target : Shape) (values : List Expr) : Phrase :=
    Draft.phrase do
      let values ← Draft.exprs values
      return ⟨words ("SET " ++ wordIf isLocal "LOCAL " ++ wordIf hive "HIVEVAR:" ++ name ++
          " = " ++ open_) ++ commas values ++ words closing,
        form "SetVariable" [("local", .flag isLocal), ("hivevar", .flag hive),
          ("variables", target), ("value", listShape values)]⟩
  match target with
  | .one variable_ =>
    return phrase variable_.toSql "" "" (.node "One" variable_.shape) (← values)
  | .many names =>
    return phrase ("(" ++ identsText names ++ ")") "(" ")"
      (.node "Many" (.list (names.map fun v => .list [.ident v]))) (← inParens values)

/-- A setting behind its keyword and the words about its scope. -/
def variableSetting (g : Grammar) (modifier : Option String) : Parser Phrase := do
  let target ← settingTarget g
  let name := match target with
    | .one variable_ => variable_.toSql
    | .many _ => ""
  if Text.lowerAscii name = "names" && g.isGeneric then namesSetting g
  else if ← comesAssignment then assignedVariables g modifier target
  else match target with
    | .many _ => expectedNext "set variable"
    | .one _ =>
      if Text.lowerAscii name = "timezone" then
        match ← attempt (g.expr 0) with
        | none => expectedNext "timezone value"
        | some zone =>
          let isLocal := modifier = some "LOCAL"
          return Draft.phrase do
            let zone ← Draft.expr zone
            return ⟨words ("SET " ++ wordIf isLocal "LOCAL " ++ "TIME ZONE ") ++ zone.written,
              form "SetTimeZone" [("local", .flag isLocal), ("value", zone.shape)]⟩
      else if name = "CHARACTERISTICS" then transactionSetting true
      else if name = "TRANSACTION" && modifier.isNone then transactionSetting false
      else expectedNext "equals sign or TO"
where
  /-- Takes the sign or the word of an assignment, if it comes next. -/
  comesAssignment : Parser Bool := do
    if ← acceptSign "=" then return true else acceptWord "TO"

/-- A setting behind its keyword. -/
def setting (g : Grammar) : Parser Phrase := do
  let modifier ← acceptOneOf ["SESSION", "LOCAL", "HIVEVAR"]
  if modifier = some "HIVEVAR" then
    expectSign ":"
    variableSetting g modifier
  else
    let role ← attempt do
      expectWord "ROLE"
      roleSetting modifier
    match role with
    | some phrase => return phrase
    | none => variableSetting g modifier

/-- A comment on an object, behind the keyword. -/
def commenting (g : Grammar) : Parser Phrase := do
  let ifExists ← acceptWords ["IF", "EXISTS"]
  expectWord "ON"
  let objects := [("COLUMN", "Column"), ("TABLE", "Table"), ("EXTENSION", "Extension"),
    ("SCHEMA", "Schema"), ("DATABASE", "Database"), ("USER", "User"), ("ROLE", "Role")]
  match ← acceptOneOf (objects.map Prod.fst) with
  | none => expected "comment object_type" (← next)
  | some word =>
    let object ← name
    expectWord "IS"
    let text ← if ← acceptWord "NULL" then pure none else pure (some (← literalText g.dialect))
    return Wording.phrase ⟨"COMMENT " ++ wordIf ifExists "IF EXISTS " ++ "ON " ++ word ++ " " ++
        object.toSql ++ " IS " ++ (text.map fun t => "'" ++ t ++ "'").getD "NULL",
      form "Comment" [("object_type", textShape (objects.lookup word)),
        ("object_name", object.shape), ("comment", textShape text),
        ("if_exists", .flag ifExists)]⟩

end SqlTemplate.Sql.Parser
