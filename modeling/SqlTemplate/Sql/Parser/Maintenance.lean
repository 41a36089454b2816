import SqlTemplate.Sql.Parser.Query

/-!
# Reading maintenance commands

The commands that drop, empty, inspect, optimize and cache tables and other objects.
-/

namespace SqlTemplate.Sql.Parser

/-- The group of servers that a command is for, if it is said. -/
def onCluster : Parser (Option Ident) := do
  if ← acceptWords ["ON", "CLUSTER"] then return some (← ident) else return none

/-- Partitions between parentheses, behind their keyword, if it comes next. -/
def partitionList (g : Grammar) : Parser (Option (List Expr)) :=
  optionalClause "PARTITION" (inParens (commaSeparated (g.expr 0)))

/-- Expressions of a list that may be missing, in a draft. -/
def optExprs : Option (List Expr) → Draft (Option (List Slot))
  | none => return none
  | some es => some <$> Draft.exprs es

/-- The objects that can be dropped: word and kind. -/
def droppedObjects : List (String × String) :=
  [("TABLE", "Table"), ("VIEW", "View"), ("INDEX", "Index"), ("ROLE", "Role"),
    ("SCHEMA", "Schema"), ("DATABASE", "Database"), ("SEQUENCE", "Sequence"), ("STAGE", "Stage"),
    ("TYPE", "Type")]

/-- A removal of objects, behind the keyword. -/
def dropping (g : Grammar) : Parser Phrase := do
  let temporary ← acceptWordIf g.isGeneric "TEMPORARY"
  match ← acceptOneOf (droppedObjects.map Prod.fst) with
  | none => expectedNext ("TABLE, VIEW, INDEX, ROLE, SCHEMA, DATABASE, FUNCTION, PROCEDURE, " ++
      "STAGE, TRIGGER, SECRET, SEQUENCE, or TYPE after DROP")
  | some word =>
    let ifExists ← acceptWords ["IF", "EXISTS"]
    let names ← commaSeparated name
    let l ← peek
    let cascade ← acceptWord "CASCADE"
    let restrict ← acceptWord "RESTRICT"
    let purge ← acceptWord "PURGE"
    if cascade && restrict then reject "Cannot specify both CASCADE and RESTRICT in DROP" l
    else if word = "ROLE" && (cascade || restrict || purge) then
      reject "Cannot specify CASCADE, RESTRICT, or PURGE in DROP ROLE" l
    else return Wording.phrase ⟨"DROP " ++ wordIf temporary "TEMPORARY " ++ word ++
        wordIf ifExists " IF EXISTS" ++ " " ++ commaJoin (names.map Name.toSql) ++
        wordIf cascade " CASCADE" ++ wordIf restrict " RESTRICT" ++ wordIf purge " PURGE",
      form "Drop" [("object_type", textShape (droppedObjects.lookup word)),
        ("if_exists", .flag ifExists), ("names", .list (names.map Name.shape)),
        ("cascade", .flag cascade), ("restrict", .flag restrict), ("purge", .flag purge),
        ("temporary", .flag temporary)]⟩

/-- The emptying of tables, behind the keyword. -/
def truncation (g : Grammar) : Parser Phrase := do
  let tableWord ← acceptWord "TABLE"
  let only ← acceptWord "ONLY"
  let names ← commaSeparated name
  let partitions ← partitionList g
  let identity ← match g.dialect with
    | .clickHouse => pure none
    | .generic => acceptFirst [(["RESTART", "IDENTITY"], "Restart"),
        (["CONTINUE", "IDENTITY"], "Continue")]
  let cascade ← match g.dialect with
    | .clickHouse => pure none
    | .generic => acceptFirst [(["CASCADE"], "Cascade"), (["RESTRICT"], "Restrict")]
  let cluster ← onCluster
  let said (found : Option (List String × String)) : String :=
    withLead " " (found.map fun (keywords, _) => String.intercalate " " keywords)
  return Draft.phrase do
    let partitions ← optExprs partitions
    return ⟨words ("TRUNCATE " ++ wordIf tableWord "TABLE " ++ wordIf only "ONLY " ++
          commaJoin (names.map Name.toSql) ++ said identity ++ said cascade) ++
        commasWithin " PARTITION (" ")" (partitions.getD []) ++
        behind " ON CLUSTER " (cluster.map Ident.slot),
      form "Truncate" [("table_names", .list (names.map fun n => fields [("name", n.shape)])),
        ("partitions", optListShape partitions), ("table", .flag tableWord), ("only", .flag only),
        ("identity", textShape (identity.map Prod.snd)),
        ("cascade", textShape (cascade.map Prod.snd)), ("on_cluster", identShape cluster)]⟩

/-- What an inspection of a table takes into account. -/
structure Inspection where
  partitions : Option (List Expr) := none
  forColumns : Bool := false
  columns : List Ident := []
  cacheMetadata : Bool := false
  noscan : Bool := false
  computeStatistics : Bool := false

/-- What an inspection takes into account, in any order. -/
def inspectionFrom (g : Grammar) : (fuel : Nat) → Inspection → Parser Inspection
  | 0, i => return i
  | fuel + 1, i => do
    match ← acceptOneOf ["PARTITION", "FOR", "CACHE", "NOSCAN", "COMPUTE"] with
    | some "PARTITION" =>
      let partitions ← inParens (commaSeparated (g.expr 0))
      inspectionFrom g fuel { i with partitions := some partitions }
    | some "NOSCAN" => inspectionFrom g fuel { i with noscan := true }
    | some "FOR" =>
      expectWord "COLUMNS"
      let columns ← attempt (commaSeparated ident)
      inspectionFrom g fuel { i with forColumns := true, columns := columns.getD [] }
    | some "CACHE" =>
      expectWord "METADATA"
      inspectionFrom g fuel { i with cacheMetadata := true }
    | some _ =>
      expectWord "STATISTICS"
      inspectionFrom g fuel { i with computeStatistics := true }
    | none => return i

/-- An inspection of a table, behind the keyword. -/
def inspecting (g : Grammar) : Parser Phrase := do
  expectWord "TABLE"
  let table ← name
  let i ← inspectionFrom g ((← remaining) + 1) {}
  return Draft.phrase do
    let partitions ← optExprs i.partitions
    return ⟨words ("ANALYZE TABLE " ++ table.toSql) ++
        commasWithin " PARTITION (" ")" (partitions.getD []) ++
        words (wordIf i.computeStatistics " COMPUTE STATISTICS" ++ wordIf i.noscan " NOSCAN" ++
          wordIf i.cacheMetadata " CACHE METADATA" ++
          wordIf i.forColumns (" FOR COLUMNS" ++
            listWithLead " " (i.columns.map Ident.toSql))),
      form "Analyze" [("table_name", table.shape), ("partitions", optListShape partitions),
        ("for_columns", .flag i.forColumns), ("columns", .list (i.columns.map .ident)),
        ("cache_metadata", .flag i.cacheMetadata), ("noscan", .flag i.noscan),
        ("compute_statistics", .flag i.computeStatistics)]⟩

/-- An optimization of a table, behind the keyword. -/
def optimizing (g : Grammar) : Parser Phrase := do
  expectWord "TABLE"
  let table ← name
  let cluster ← onCluster
  let partition : Option (Draft Slot) ← do
    if ← acceptWord "PARTITION" then
      if ← acceptWord "ID" then
        let id ← ident
        pure (some (return ⟨words ("PARTITION ID " ++ id.toSql),
          .node "Identifier" (.ident id)⟩))
      else
        let e ← g.expr 0
        pure (some do
          let e ← Draft.expr e
          return ⟨words "PARTITION " ++ e.written, .node "Expr" e.shape⟩)
    else pure none
  let final ← acceptWord "FINAL"
  let deduplicate : Option (Draft Slot) ← do
    if ← acceptWord "DEDUPLICATE" then
      if ← acceptWord "BY" then
        let e ← g.expr 0
        pure (some do
          let e ← Draft.expr e
          return ⟨words "DEDUPLICATE BY " ++ e.written, .node "ByExpression" e.shape⟩)
      else pure (some (return keywordSlot "DEDUPLICATE" "All"))
    else pure none
  return Draft.phrase do
    let partition ← optDraft partition
    let deduplicate ← optDraft deduplicate
    return ⟨words ("OPTIMIZE TABLE " ++ table.toSql) ++
        behind " ON CLUSTER " (cluster.map Ident.slot) ++ behind " " partition ++
        wordsIf final " FINAL" ++ behind " " deduplicate,
      form "OptimizeTable" [("name", table.shape), ("on_cluster", identShape cluster),
        ("partition", optShape partition), ("include_final", .flag final),
        ("deduplicate", optShape deduplicate)]⟩

/-- The repair of a table, behind the keyword. -/
def repairing : Parser Phrase := do
  let repair ← acceptWord "REPAIR"
  expectWord "TABLE"
  let table ← name
  let action ← attempt do
    let action ← acceptOneOf ["ADD", "DROP", "SYNC"]
    expectWord "PARTITIONS"
    return action
  let action := action.bind id
  return Wording.phrase ⟨"MSCK " ++ wordIf repair "REPAIR " ++ "TABLE " ++ table.toSql ++
      ((action.map fun a => " " ++ a ++ " PARTITIONS").getD ""),
    form "Msck" [("table_name", table.shape), ("repair", .flag repair),
      ("partition_action", textShape action)]⟩

/-- A query to be cached, with `AS` or without. -/
def cachedQuery (g : Grammar) : Parser (Bool × Query) := do
  match ← peek with
  | some ⟨.word _ _, _⟩ =>
    let asWord ← acceptWord "AS"
    return (asWord, ← g.query)
  | _ => expectedNext "a QUERY statement"

/-- A table to be cached, behind the keyword. -/
def caching (g : Grammar) : Parser Phrase := do
  let flag ← if isWord "TABLE" (← peek) then pure none else pure (some (← name))
  let input ← get
  if !(← acceptWord "TABLE") then
    expected "a \x60TABLE\x60 keyword" input.head?
  let table ← name
  let options ← optionsBehind g "OPTIONS"
  let source ← if (← peek).isSome then pure (some (← cachedQuery g)) else pure none
  return Draft.phrase do
    let options ← drafts options
    let query ← Draft.optPart (source.map fun (_, q) => .query q)
    let asWord := (source.map Prod.fst).getD false
    return ⟨words ("CACHE " ++ ((flag.map fun f => f.toSql ++ " ").getD "") ++ "TABLE " ++
          table.toSql) ++ commasWithin " OPTIONS(" ")" options ++
        behind (if asWord then " AS " else " ") query,
      form "Cache" [("table_flag", nameShape flag), ("table_name", table.shape),
        ("has_as", .flag asWord), ("options", listShape options), ("query", optShape query)]⟩

/-- A table to be cached no longer, behind the keyword. -/
def uncaching : Parser Phrase := do
  if !(← acceptWord "TABLE") then expectedNext "a \x60TABLE\x60 keyword"
  let ifExists ← acceptWords ["IF", "EXISTS"]
  let table ← name
  return Wording.phrase ⟨"UNCACHE TABLE " ++ wordIf ifExists "IF EXISTS " ++ table.toSql,
    form "UNCache" [("table_name", table.shape), ("if_exists", .flag ifExists)]⟩

/-- A database file to be taken in, behind the keyword. -/
def attaching (g : Grammar) : Parser Phrase := do
  let database ← acceptWord "DATABASE"
  let file ← g.expr 0
  expectWord "AS"
  let schema ← ident
  return Draft.phrase do
    let file ← Draft.expr file
    return ⟨words ("ATTACH " ++ wordIf database "DATABASE ") ++ file.written ++
        words (" AS " ++ schema.toSql),
      form "AttachDatabase" [("schema_name", .ident schema), ("database_file_name", file.shape),
        ("database", .flag database)]⟩

/-- A database to be given up, behind the keyword. -/
def detaching : Parser Phrase := do
  let database ← acceptWord "DATABASE"
  let ifExists ← acceptWords ["IF", "EXISTS"]
  let schema ← ident
  return Wording.phrase ⟨"DETACH" ++ wordIf database " DATABASE" ++
      wordIf ifExists " IF EXISTS" ++ " " ++ schema.toSql,
    form "DetachDuckDBDatabase" [("if_exists", .flag ifExists), ("database", .flag database),
      ("database_alias", .ident schema)]⟩

/-- An extension to be fetched or used, behind the keyword. -/
def extension (word kind : String) : Parser Phrase := do
  let extension ← ident
  return Wording.phrase ⟨word ++ " " ++ extension.toSql,
    form kind [("extension_name", .ident extension)]⟩

/-- An extension to be used, behind the keyword; there is none in the clickHouse dialect. -/
def loading (g : Grammar) : Parser Phrase := do
  match g.dialect with
  | .generic => extension "LOAD" "Load"
  | .clickHouse =>
    let _ ← acceptWord "DATA"
    expectedNext "\x60DATA\x60 or an extension name after \x60LOAD\x60"

/-- An export of the rows of a query, behind the keyword. -/
def unloading (g : Grammar) : Parser Phrase := do
  let source ← inParens g.query
  expectWord "TO"
  let target ← ident
  let options ← optionsBehind g "WITH"
  return Draft.phrase do
    let source ← Draft.part (.query source)
    let options ← drafts options
    return ⟨words "UNLOAD(" ++ source.written ++ words (") TO " ++ target.toSql) ++
        commasWithin " WITH (" ")" options,
      form "Unload" [("query", source.shape), ("to", .ident target),
        ("with", listShape options)]⟩

end SqlTemplate.Sql.Parser
