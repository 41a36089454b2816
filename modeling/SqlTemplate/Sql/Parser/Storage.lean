import SqlTemplate.Sql.Parser.Grammar
import SqlTemplate.Sql.Phrase

/-!
# Reading storage options

How a table or a view is stored: settings with their values, and in the generic dialect also the
ranges of its partitions and the order of its rows.
-/

namespace SqlTemplate.Sql.Parser

/-- The ranges of partitions, behind the keyword. -/
def partitionOption (g : Grammar) : Parser (Draft Slot) := do
  expectSign "("
  let column ← ident
  expectWord "RANGE"
  let side : Option (String × String) ← do
    if ← acceptWord "LEFT" then pure (some (" LEFT", "Left"))
    else if ← acceptWord "RIGHT" then pure (some (" RIGHT", "Right"))
    else pure none
  expectWords ["FOR", "VALUES"]
  let bounds ← inParens (commaSeparated (g.expr 0))
  expectSign ")"
  return do
    let bounds ← Draft.exprs bounds
    return ⟨words ("PARTITION (" ++ column.toSql ++ " RANGE" ++ (side.map Prod.fst).getD "" ++
        " FOR VALUES (") ++ commas bounds ++ words "))",
      form "Partition" [("column_name", .ident column),
        ("range_direction", textShape (side.map Prod.snd)), ("for_values", listShape bounds)]⟩

/-- A column of an index, with its direction. -/
def indexColumn : Parser Wording := do
  let column ← ident
  let ascending ← direction
  return ⟨column.toSql ++ directionText ascending,
    fields [("name", .ident column), ("asc", flagShape ascending)]⟩

/-- The order in which rows are stored. -/
def clusteredOption : Parser Wording := do
  if ← acceptWords ["CLUSTERED", "COLUMNSTORE", "INDEX", "ORDER"] then
    let columns ← columnList
    return ⟨"CLUSTERED COLUMNSTORE INDEX ORDER (" ++ identsText columns ++ ")",
      .node "Clustered" (.node "ColumnstoreIndexOrder" (.list (columns.map .ident)))⟩
  else if ← acceptWords ["CLUSTERED", "COLUMNSTORE", "INDEX"] then
    return ⟨"CLUSTERED COLUMNSTORE INDEX", .node "Clustered" (.text "ColumnstoreIndex")⟩
  else if ← acceptWords ["CLUSTERED", "INDEX"] then
    let columns ← inParens (commaSeparated indexColumn)
    return ⟨"CLUSTERED INDEX (" ++ commaJoin (columns.map Wording.text) ++ ")",
      .node "Clustered" (.node "Index" (.list (columns.map Wording.shape)))⟩
  else throw (.rejected "invalid CLUSTERED sequence" none)

/-- An option with its value. -/
def keyedOption (g : Grammar) : Parser (Draft Slot) := do
  let key ← ident
  expectSign "="
  let e ← g.expr 0
  return do
    let e ← Draft.expr e
    return ⟨words (key.toSql ++ " = ") ++ e.written,
      form "KeyValue" [("key", .ident key), ("value", e.shape)]⟩

/-- An option. -/
def storageOption (g : Grammar) : Parser (Draft Slot) := do
  match g.dialect, ← peekWord with
  | .generic, some "HEAP" =>
    let flag ← ident
    return return ⟨words flag.toSql, .node "Ident" (.ident flag)⟩
  | .generic, some "PARTITION" =>
    expectWord "PARTITION"
    partitionOption g
  | .generic, some "CLUSTERED" =>
    let order ← clusteredOption
    return return order.slot
  | _, _ => keyedOption g

/-- Options behind a keyword, if it comes next. -/
def optionsBehind (g : Grammar) (word : String) : Parser (List (Draft Slot)) := do
  if ← acceptWord word then inParens (commaSeparatedUntil ")" (storageOption g)) else return []

end SqlTemplate.Sql.Parser
