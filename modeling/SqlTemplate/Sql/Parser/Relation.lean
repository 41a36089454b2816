import SqlTemplate.Sql.Parser.Pattern

/-!
# Reading relations

Tables, table functions, queries between parentheses, and the joins between them.
-/

namespace SqlTemplate.Sql.Parser

/-- The arguments of a table function behind the opening parenthesis, and its settings. -/
def tableArgs (g : Grammar) : (fuel : Nat) → Parser (List Arg × List (Ident × Literal))
  | 0 => return ([], [])
  | fuel + 1 => do
    if ← acceptWord "SETTINGS" then return ([], ← settingList)
    else
      let a ← arg g
      if ← acceptSign "," then
        let (args, values) ← tableArgs g fuel
        return (a :: args, values)
      else return ([a], [])

/-- The arguments of a table function, if there are any. -/
def optionalTableArgs (g : Grammar) : Parser (Option (List Arg) × List (Ident × Literal)) := do
  if ← acceptSign "(" then
    if ← acceptSign ")" then return (some [], [])
    else
      let (args, values) ← tableArgs g ((← remaining) + 1)
      expectSign ")"
      return (some args, values)
  else return (none, [])

/-- The rows behind `VALUES`, and whether each of them is marked as a row. -/
def valueRows (g : Grammar) : Parser Body := do
  let rows ← commaSeparated do
    let marked ← acceptWord "ROW"
    return (marked, ← inParens (commaSeparated (g.expr 0)))
  return .values (rows.any Prod.fst) (rows.map Prod.snd)

/-- A query that is nothing but its body. -/
def Query.ofBody (body : Body) : Query :=
  { withWord := none, recursive := false, ctes := [], body, orderBy := [], interpolate := none,
    limit := none, limitBy := [], offset := none, offsetRows := .none, settings := [],
    delivery := ⟨none, [], none⟩, format := none }

/-- A derived table behind its opening parenthesis. -/
def derivedTable (g : Grammar) (lateral : Bool) : Parser Relation := do
  let q ← g.query
  expectSign ")"
  return .derived lateral q (← tableAlias g)

/-- The name that a relation already has. -/
def Relation.label : Relation → Option TableAlias
  | .table _ _ _ _ _ label _ | .derived _ _ label | .function _ label | .nested _ label
  | .unnest _ _ _ label | .phrase _ label => label

/-- A relation under a name. -/
def Relation.withAlias (label : TableAlias) : Relation → Relation
  | .table name partitions args settings ordinality _ hints =>
    .table name partitions args settings ordinality (some label) hints
  | .derived lateral query _ => .derived lateral query (some label)
  | .function expr _ => .function expr (some label)
  | .nested inner _ => .nested inner (some label)
  | .unnest arrays ordinality offset _ => .unnest arrays ordinality offset (some label)
  | .phrase phrase _ => .phrase phrase (some label)

/-- Whether a relation is a join between parentheses. -/
def Relation.isNested : Relation → Bool
  | .nested _ _ => true
  | _ => false

/-- The closing of a parenthesis that holds a relation. A join keeps its parentheses; a lone
relation may stand between them in the generic dialect only, and loses them. -/
def closeRelation (g : Grammar) (inner : FromItem) : Parser Relation := do
  if !inner.joins.isEmpty || Relation.isNested inner.relation then
    expectSign ")"
    return .nested inner (← tableAlias g)
  else match g.dialect with
    | .clickHouse => expectedNext "joined table"
    | .generic =>
      expectSign ")"
      match ← tableAlias g with
      | none => return inner.relation
      | some outer =>
        match Relation.label inner.relation with
        | some given => throw (.rejected ("duplicate alias " ++ given.toSql) none)
        | none => return Relation.withAlias outer inner.relation

/-- A slot with an optional name behind it. -/
def labelled (slot : Slot) (label : Option Ident) : Slot :=
  ⟨slot.written ++ behind " AS " (label.map Ident.slot),
    fields [("expr", slot.shape), ("alias", identShape label)]⟩

/-- A function of a pivot, with a name or without. -/
def pivotFunction (g : Grammar) : Parser (Expr × Option Ident) := do
  match ← next with
  | some ⟨.word text _, _⟩ =>
    expectSign "("
    let e ← call g (operandAt g ((← remaining) + 1)) false [⟨text, none, none⟩]
    return (e, ← optionalClause "AS" ident)
  | _ => expectedNext "a function identifier"

/-- The values of a pivot. -/
inductive PivotValues where
  | list (values : List (Expr × Option Ident))
  | any (order : List OrderItem)
  | query (query : Query)

/-- The values of a pivot between their parentheses. -/
def pivotValues (g : Grammar) : Parser PivotValues := inParens do
  if ← acceptWord "ANY" then return .any (← optionalOrder g)
  else if ← comesQuery then return .query (← g.query)
  else return .list (← commaSeparated do
    let e ← g.expr 0
    return (e, ← optionalClause "AS" ident))

/-- The values of a pivot in a draft. -/
def PivotValues.draft : PivotValues → Draft Slot
  | .list values => do
    let values ← values.mapM fun (e, label) => do return labelled (← Draft.expr e) label
    return ⟨commas values, .node "List" (listShape values)⟩
  | .any order => do
    let order ← Draft.orders order
    return ⟨words "ANY" ++ commasBehind " ORDER BY " order, .node "Any" (listShape order)⟩
  | .query q => do
    let q ← Draft.part (.query q)
    return ⟨q.written, .node "Subquery" q.shape⟩

/-- A relation turned by the values of a column, behind the keyword. -/
def pivot (g : Grammar) (table : Relation) : Parser Relation := do
  expectSign "("
  let functions ← commaSeparated (pivotFunction g)
  expectWord "FOR"
  let column ← name
  expectWord "IN"
  let source ← pivotValues g
  let default ← do
    if ← acceptWords ["DEFAULT", "ON", "NULL"] then pure (some (← inParens (g.expr 0)))
    else pure none
  expectSign ")"
  let phrase := Draft.phrase do
    let table ← Draft.part (.relation table)
    let functions ← functions.mapM fun (e, label) => do return labelled (← Draft.expr e) label
    let source ← source.draft
    let default ← Draft.optExpr default
    return ⟨table.written ++ words " PIVOT(" ++ commas functions ++
        words (" FOR " ++ column.toSql ++ " IN (") ++ source.written ++ words ")" ++
        (match default with
          | none => []
          | some e => words " DEFAULT ON NULL (" ++ e.written ++ words ")") ++
        words ")" ++ [.label],
      form "Pivot" [("table", table.shape), ("aggregate_functions", listShape functions),
        ("value_column", column.shape), ("value_source", source.shape),
        ("default_on_null", optShape default), ("alias", .label)]⟩
  return .phrase phrase (← tableAlias g)

/-- A relation whose columns become rows, behind the keyword. -/
def unpivot (g : Grammar) (table : Relation) : Parser Relation := do
  expectSign "("
  let v ← ident
  expectWord "FOR"
  let label ← ident
  expectWord "IN"
  let columns ← columnList
  expectSign ")"
  let phrase := Draft.phrase do
    let table ← Draft.part (.relation table)
    return ⟨table.written ++ words (" UNPIVOT(" ++ v.toSql ++ " FOR " ++ label.toSql ++ " IN (" ++
        identsText columns ++ "))") ++ [.label],
      form "Unpivot" [("table", table.shape), ("value", .ident v), ("name", .ident label),
        ("columns", .list (columns.map .ident)), ("alias", .label)]⟩
  return .phrase phrase (← tableAlias g)

/-- The pivots behind a relation, at most `fuel` of them. -/
def pivots (g : Grammar) : (fuel : Nat) → Relation → Parser Relation
  | 0, table => return table
  | fuel + 1, table => do
    match ← acceptOneOf ["PIVOT", "UNPIVOT"] with
    | none => return table
    | some word =>
      let table ← if word = "PIVOT" then pivot g table else unpivot g table
      pivots g fuel table

/-- The lists of members as a relation, behind the keyword. -/
def unnest (g : Grammar) : Parser Relation := do
  let arrays ← inParens (commaSeparated (g.expr 0))
  let ordinality ← acceptWords ["WITH", "ORDINALITY"]
  let label ← tableAlias g
  let numbered ← do
    if ← acceptWord "WITH" then acceptWord "OFFSET" else pure false
  let offset ← do
    if numbered then pure (some (← optionalAlias reservedForColumnAlias)) else pure none
  return .unnest arrays ordinality offset label

/-- What happens where a column has no value: words and kind. -/
def jsonFallback : Parser (Option Wording) := do
  let found : Option Wording ← do
    if ← acceptWord "NULL" then pure (some ⟨"NULL", .text "Null"⟩)
    else if ← acceptWord "ERROR" then pure (some ⟨"ERROR", .text "Error"⟩)
    else if ← acceptWord "DEFAULT" then
      let v ← value
      pure (some ⟨"DEFAULT " ++ v.toSql, .node "Default" (.literal v)⟩)
    else pure none
  if found.isSome then expectWord "ON"
  return found

/-- What happens where a column is empty and where it is wrong. -/
def jsonFallbacks : (fuel : Nat) → (empty error : Option Wording) →
    Parser (Option Wording × Option Wording)
  | 0, empty, error => return (empty, error)
  | fuel + 1, empty, error => do
    match ← jsonFallback with
    | none => return (empty, error)
    | some w =>
      if ← acceptWord "EMPTY" then jsonFallbacks fuel (some w) error
      else
        expectWord "ERROR"
        jsonFallbacks fuel empty (some w)

/-- A column of a table made from a document, with at most `fuel` tables inside one another. -/
def jsonColumn (g : Grammar) : (fuel : Nat) → Parser (Draft Slot)
  | 0 => expectedNext "identifier"
  | fuel + 1 => do
    if ← acceptWord "NESTED" then
      let _ ← acceptWord "PATH"
      let path ← value
      expectWord "COLUMNS"
      let columns ← inParens (commaSeparated (jsonColumn g fuel))
      return do
        let columns ← drafts columns
        return ⟨words ("NESTED PATH " ++ path.toSql ++ " COLUMNS (") ++ commas columns ++
            words ")",
          form "Nested" [("path", .literal path), ("columns", listShape columns)]⟩
    else
      let column ← ident
      if ← acceptWord "FOR" then
        expectWord "ORDINALITY"
        return return ⟨words (column.toSql ++ " FOR ORDINALITY"),
          .node "ForOrdinality" (.ident column)⟩
      else
        let type ← dataType g
        let exists_ ← acceptWord "EXISTS"
        expectWord "PATH"
        let path ← value
        let (empty, error) ← jsonFallbacks ((← remaining) + 1) none none
        return do
          let type ← Draft.phrasePart type
          return ⟨words (column.toSql ++ " ") ++ type.written ++ words (wordIf exists_ " EXISTS" ++
              " PATH " ++ path.toSql ++
              ((empty.map fun w => " " ++ w.text ++ " ON EMPTY").getD "") ++
              ((error.map fun w => " " ++ w.text ++ " ON ERROR").getD "")),
            form "Named" [("name", .ident column), ("type", type.shape), ("path", .literal path),
              ("exists", .flag exists_), ("on_empty", (empty.map Wording.shape).getD .null),
              ("on_error", (error.map Wording.shape).getD .null)]⟩

/-- A table made from a document, behind the keyword and its parenthesis. -/
def jsonTable (g : Grammar) : Parser Relation := do
  let document ← g.expr 0
  expectSign ","
  let path ← value
  expectWord "COLUMNS"
  let columns ← inParens (commaSeparated (jsonColumn g ((← remaining) + 1)))
  expectSign ")"
  let phrase := Draft.phrase do
    let document ← Draft.expr document
    let columns ← drafts columns
    return ⟨words "JSON_TABLE(" ++ document.written ++
        words (", " ++ path.toSql ++ " COLUMNS(") ++ commas columns ++ words "))" ++ [.label],
      form "JsonTable" [("json_expr", document.shape), ("json_path", .literal path),
        ("columns", listShape columns), ("alias", .label)]⟩
  return .phrase phrase (← tableAlias g)

/-- A column of an open document. -/
def openJsonColumn (g : Grammar) : Parser (Draft Slot) := do
  let column ← ident
  let type ← dataType g
  let path ← match ← peek with
    | some ⟨.string .single text, _⟩ => do
      let _ ← next
      pure (some text)
    | _ => pure none
  let asJson := (← optionalClause "AS" (expectWord "JSON")).isSome
  return do
    let type ← Draft.phrasePart type
    return ⟨words (column.toSql ++ " ") ++ type.written ++ behind " " (path.map textSlot) ++
        wordsIf asJson " AS JSON",
      fields [("name", .ident column), ("type", type.shape), ("path", textShape path),
        ("as_json", .flag asJson)]⟩

/-- An open document, behind the keyword and its parenthesis. -/
def openJson (g : Grammar) : Parser Relation := do
  let document ← g.expr 0
  let path ← if ← acceptSign "," then pure (some (← value)) else pure none
  expectSign ")"
  let columns ← do
    if ← acceptWord "WITH" then inParens (commaSeparated (openJsonColumn g))
    else pure []
  let phrase := Draft.phrase do
    let document ← Draft.expr document
    let columns ← drafts columns
    return ⟨words "OPENJSON(" ++ document.written ++ behind ", " (path.map Literal.slot) ++
        words ")" ++ commasWithin " WITH (" ")" columns ++ [.label],
      form "OpenJsonTable" [("json_expr", document.shape),
        ("json_path", (path.map Shape.literal).getD .null),
        ("columns", listShape columns), ("alias", .label)]⟩
  return .phrase phrase (← tableAlias g)

/-- A relation that may look at those before it, behind the keyword. -/
def lateralRelation (g : Grammar) : Parser Relation := do
  if ← acceptSign "(" then derivedTable g true
  else
    let function ← name
    expectSign "("
    let args ← commaSeparatedUntil ")" (arg g)
    expectSign ")"
    let phrase := Draft.phrase do
      let args ← Draft.parts (args.map .arg)
      return ⟨words ("LATERAL " ++ function.toSql ++ "(") ++ commas args ++ words ")" ++ [.label],
        form "Function" [("lateral", .flag true), ("name", function.shape),
          ("args", listShape args), ("alias", .label)]⟩
    return .phrase phrase (← tableAlias g)

/-- The hints behind a table, if there are any. -/
def tableHints (g : Grammar) : Parser (List Expr) := do
  match ← get with
  | a :: b :: rest =>
    if isWord "WITH" (some a) && isSign "(" (some b) then
      set rest
      let hints ← commaSeparated (g.expr 0)
      expectSign ")"
      return hints
    else return []
  | _ => return []

/-- The relation behind a name. -/
def namedRelation (g : Grammar) : Parser Relation := do
  let table ← name
  let partitions ← match g.dialect with
    | .clickHouse => pure []
    | .generic => do
      if ← acceptWord "PARTITION" then inParens (commaSeparated ident) else pure []
  let (args, values) ← optionalTableArgs g
  let ordinality ← acceptWords ["WITH", "ORDINALITY"]
  let label ← tableAlias g
  let hints ← tableHints g
  let relation ←
    pivots g (← remaining) (.table table partitions args values ordinality label hints)
  if ← acceptWordIf g.isGeneric "MATCH_RECOGNIZE" then patternSearch g relation
  else return relation

/-- Whether a keyword and a parenthesis come next. -/
def comesWithParen (word : String) : Parser Bool := do
  match ← get with
  | a :: b :: _ => return isWord word (some a) && isSign "(" (some b)
  | _ => return false

/-- Takes a keyword and a parenthesis behind it if they come next. -/
def acceptWithParen (word : String) : Parser Bool := do
  if ← comesWithParen word then
    modify (·.drop 2)
    return true
  else return false

/-- A relation that does not start with a parenthesis. -/
def plainRelation (g : Grammar) : Parser Relation := do
  let generic := g.dialect == .generic
  if ← acceptWord "LATERAL" then lateralRelation g
  else if ← acceptWord "TABLE" then
    let e ← inParens (g.expr 0)
    return .function e (← tableAlias g)
  else if generic && (← comesWithParen "VALUES") then
    expectWord "VALUES"
    let rows ← valueRows g
    return .derived false (Query.ofBody rows) (← tableAlias g)
  else if ← acceptWordIf generic "UNNEST" then unnest g
  else if ← acceptWithParen "JSON_TABLE" then jsonTable g
  else if ← acceptWithParen "OPENJSON" then openJson g
  else namedRelation g

/-- The kind of join that comes next, with its keywords taken; none if no join comes. -/
def joinKind (natural : Bool) : Parser (Option JoinKind) := do
  let sided := fun (side : String) (whole half without : JoinKind) => do
    let _ ← next
    match ← acceptOneOf ["OUTER", "SEMI", "ANTI", "JOIN"] with
    | some "OUTER" =>
      expectWord "JOIN"
      return some whole
    | some "SEMI" =>
      expectWord "JOIN"
      return some half
    | some "ANTI" =>
      expectWord "JOIN"
      return some without
    | some _ => return some whole
    | none => throw (.rejected ("expected OUTER, SEMI, ANTI or JOIN after " ++ side) none)
  match ← peekWord with
  | some "INNER" | some "JOIN" =>
    let _ ← acceptWord "INNER"
    expectWord "JOIN"
    return some .inner
  | some "LEFT" => sided "LEFT" .leftOuter .leftSemi .leftAnti
  | some "RIGHT" => sided "RIGHT" .rightOuter .rightSemi .rightAnti
  | some "ANTI" =>
    let _ ← next
    expectWord "JOIN"
    return some .anti
  | some "SEMI" =>
    let _ ← next
    expectWord "JOIN"
    return some .semi
  | some "FULL" =>
    let _ ← next
    let _ ← acceptWord "OUTER"
    expectWord "JOIN"
    return some .fullOuter
  | some "OUTER" => expectedNext "LEFT, RIGHT, or FULL"
  | _ => if natural then expectedNext "a join type after NATURAL" else return none

/-- The kind of join that comes next, with its keywords taken, if it is one that takes no
condition. -/
def unconditionalJoin : Parser (Option JoinKind) := do
  if ← acceptWord "CROSS" then
    if ← acceptWord "JOIN" then return some .cross
    else if ← acceptWord "APPLY" then return some .crossApply
    else expectedNext "JOIN or APPLY after CROSS"
  else if ← acceptWord "OUTER" then
    expectWord "APPLY"
    return some .outerApply
  else return none

/-- Which rows of a join belong together. -/
def joinConstraint (g : Grammar) (natural : Bool) : Parser JoinConstraint := do
  if natural then return .natural
  else if ← acceptWord "ON" then return .on (← g.expr 0)
  else if ← acceptWord "USING" then return .using (← columnList)
  else return .none

/-- The join that comes next, if there is one. -/
def join (g : Grammar) (relation : Parser Relation) : Parser (Option Join) := do
  let global ← acceptWord "GLOBAL"
  match ← unconditionalJoin with
  | some kind =>
    let joined ← relation
    return some { kind, global, relation := joined, matching := none, constraint := .none }
  | none =>
    if ← acceptWord "ASOF" then
      expectWord "JOIN"
      let joined ← relation
      expectWord "MATCH_CONDITION"
      let matching ← inParens (g.expr 0)
      let constraint ← joinConstraint g false
      return some { kind := .asOf, global, relation := joined, matching := some matching,
                    constraint }
    else
      let natural ← acceptWord "NATURAL"
      match ← joinKind natural with
      | none => return none
      | some kind =>
        let joined ← relation
        let constraint ← joinConstraint g natural
        return some { kind, global, relation := joined, matching := none, constraint }

/-- The joins behind a relation, at most `fuel` of them. -/
def joins (g : Grammar) (relation : Parser Relation) : (fuel : Nat) → Parser (List Join)
  | 0 => return []
  | fuel + 1 => do
    match ← join g relation with
    | none => return []
    | some j => return j :: (← joins g relation fuel)

/-- A relation, with at most `fuel` parentheses inside one another. -/
def relationAt (g : Grammar) : (fuel : Nat) → Parser Relation
  | 0 => expectedNext "identifier"
  | fuel + 1 => do
    if ← acceptSign "(" then
      match ← attempt (derivedTable g false) with
      | some table => pivots g (← remaining) table
      | none =>
        let relation ← relationAt g fuel
        let joined ← joins g (relationAt g fuel) (← remaining)
        closeRelation g { relation, joins := joined }
    else plainRelation g

/-- A relation and those joined to it. -/
def fromItem (g : Grammar) : Parser FromItem := do
  let fuel := (← remaining) + 1
  let relation ← relationAt g fuel
  let joined ← joins g (relationAt g fuel) (← remaining)
  return { relation, joins := joined }

end SqlTemplate.Sql.Parser
