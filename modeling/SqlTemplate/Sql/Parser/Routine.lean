import SqlTemplate.Sql.Parser.Query

/-!
# Reading routine commands

The commands that run prepared statements, that read rows through a cursor, and that check a
condition.
-/

namespace SqlTemplate.Sql.Parser

/-- A check of a condition, behind the keyword. -/
def asserting (g : Grammar) : Parser Phrase := do
  let condition ← g.expr 0
  let message ← optionalClause "AS" (g.expr 0)
  return Draft.phrase do
    let condition ← Draft.expr condition
    let message ← Draft.optExpr message
    return ⟨words "ASSERT " ++ condition.written ++ behind " AS " message,
      form "Assert" [("condition", condition.shape), ("message", optShape message)]⟩

/-- A prepared statement to be forgotten, behind the keyword. -/
def deallocating : Parser Phrase := do
  let prepare ← acceptWord "PREPARE"
  let statement ← ident
  return Wording.phrase ⟨"DEALLOCATE " ++ wordIf prepare "PREPARE " ++ statement.toSql,
    form "Deallocate" [("name", .ident statement), ("prepare", .flag prepare)]⟩

/-- The parameters of a prepared statement without parentheses, if there are any. -/
def bareParameters (g : Grammar) : Parser (List Expr) := do
  let l ← peek
  if l.isNone || isWord "USING" l || isSign ";" l then return []
  else commaSeparated (g.expr 0)

/-- A prepared statement to be run, behind the keyword. -/
def executing (g : Grammar) : Parser Phrase := do
  let statement ← name
  let parens := isSign "(" (← peek)
  let parameters ← do
    if parens then inParens (commaSeparatedUntil ")" (g.expr 0)) else bareParameters g
  let used ← optionalClause "USING" (commaSeparated (g.expr 0))
  return Draft.phrase do
    let parameters ← Draft.exprs parameters
    let used ← Draft.exprs (used.getD [])
    let given := if parens then words "(" ++ commas parameters ++ words ")"
      else commasBehind " " parameters
    return ⟨words ("EXECUTE " ++ statement.toSql) ++ given ++ commasBehind " USING " used,
      form "Execute" [("name", statement.shape), ("parameters", listShape parameters),
        ("has_parentheses", .flag parens), ("using", listShape used)]⟩

/-- A cursor to be closed, behind the keyword. -/
def closing : Parser Phrase := do
  if ← acceptWord "ALL" then
    return Wording.phrase ⟨"CLOSE ALL", form "Close" [("cursor", .text "All")]⟩
  else
    let cursor ← ident
    return Wording.phrase ⟨"CLOSE " ++ cursor.toSql,
      form "Close" [("cursor", form "Specific" [("name", .ident cursor)])]⟩

/-- A choice that may be left open: the keywords of either side. -/
def optionalChoice (yes no : List String) : Parser (Option Bool) := do
  if ← acceptWords yes then return some true
  else if ← acceptWords no then return some false
  else return none

/-- A choice as written, with a blank in front. -/
def choiceText (yes no : String) : Option Bool → String
  | none => ""
  | some true => " " ++ yes
  | some false => " " ++ no

/-- The declaration of a cursor, behind the keyword. -/
def declaring (g : Grammar) : Parser Phrase := do
  let cursor ← ident
  let binary ← acceptWord "BINARY"
  let sensitive ← optionalChoice ["INSENSITIVE"] ["ASENSITIVE"]
  let scroll ← optionalChoice ["SCROLL"] ["NO", "SCROLL"]
  expectWord "CURSOR"
  let hold ← match ← acceptOneOf ["WITH", "WITHOUT"] with
    | none => pure none
    | some word => do
      expectWord "HOLD"
      pure (some (word == "WITH"))
  expectWord "FOR"
  let source ← g.query
  return Draft.phrase do
    let source ← Draft.part (.query source)
    return ⟨words ("DECLARE " ++ cursor.toSql ++ wordIf binary " BINARY" ++
          choiceText "INSENSITIVE" "ASENSITIVE" sensitive ++
          choiceText "SCROLL" "NO SCROLL" scroll ++ " CURSOR" ++
          choiceText "WITH HOLD" "WITHOUT HOLD" hold ++ " FOR ") ++ source.written,
      form "Declare" [("stmts", .list [fields [("names", .list [.ident cursor]),
        ("data_type", .null), ("assignment", .null), ("declare_type", .text "Cursor"),
        ("binary", .flag binary), ("sensitive", flagShape sensitive),
        ("scroll", flagShape scroll), ("hold", flagShape hold), ("for_query", source.shape)]])]⟩

/-- A number, where nothing but a number can stand. -/
def numberValue : Parser Literal := do
  let l ← peek
  match ← value with
  | .number text long => return .number text long
  | .placeholder text => return .placeholder text
  | _ => expected "literal number" l

/-- Which rows are read from a cursor. -/
def fetchDirection : Parser Wording := do
  let counted (word kind : String) : Parser Wording := do
    let n ← numberValue
    return ⟨word ++ n.toSql, form kind [("limit", .literal n)]⟩
  let sided (word kind : String) : Parser Wording := do
    if ← acceptWord "ALL" then return ⟨word ++ " ALL", .text (kind ++ "All")⟩
    else counted (word ++ " ") kind
  match ← acceptOneOf ["NEXT", "PRIOR", "FIRST", "LAST", "ABSOLUTE", "RELATIVE", "FORWARD",
      "BACKWARD", "ALL"] with
  | some "NEXT" => return ⟨"NEXT", .text "Next"⟩
  | some "PRIOR" => return ⟨"PRIOR", .text "Prior"⟩
  | some "FIRST" => return ⟨"FIRST", .text "First"⟩
  | some "LAST" => return ⟨"LAST", .text "Last"⟩
  | some "ABSOLUTE" => counted "ABSOLUTE " "Absolute"
  | some "RELATIVE" => counted "RELATIVE " "Relative"
  | some "FORWARD" => sided "FORWARD" "Forward"
  | some "BACKWARD" => sided "BACKWARD" "Backward"
  | some _ => return ⟨"ALL", .text "All"⟩
  | none => counted "" "Count"

/-- Rows to be read from a cursor, behind the keyword. -/
def fetching : Parser Phrase := do
  let rows ← fetchDirection
  let _ ← expectOneOf ["FROM", "IN"]
  let cursor ← ident
  let target ← optionalClause "INTO" name
  return Wording.phrase ⟨"FETCH " ++ rows.text ++ " IN " ++ cursor.toSql ++
      withLead " INTO " (target.map Name.toSql),
    form "Fetch" [("name", .ident cursor), ("direction", rows.shape),
      ("into", nameShape target)]⟩

/-- The arguments between a pair of parentheses, in a draft. -/
def draftArgs (a : ArgList) : Draft Slot := do
  let args ← Draft.parts (a.args.map .arg)
  let clauses ← Draft.parts (a.clauses.map .phrase)
  let given : List Slot := match args with
    | [] => []
    | _ => [⟨commas args, .null⟩]
  return ⟨words ("(" ++ (a.repeats.map Repeats.toSql).getD "") ++
      separated " " (given ++ clauses) ++ words ")",
    form "List" [("duplicate_treatment", textShape (a.repeats.map fun
        | .all => "All"
        | .distinct => "Distinct")),
      ("args", listShape args), ("clauses", listShape clauses)]⟩

/-- A called procedure, given how its parameters and arguments are drafted. -/
def procedureCall (procedure : Name) (parameters args : Draft Slot) (window within : Draft Slot) :
    Phrase := Draft.phrase do
  let parameters ← parameters
  let args ← args
  let window ← window
  let within ← within
  return ⟨words ("CALL " ++ procedure.toSql) ++ parameters.written ++ args.written ++
      within.written ++ window.written,
    form "Call" [("name", procedure.shape), ("uses_odbc_syntax", .flag false),
      ("parameters", parameters.shape), ("args", args.shape), ("filter", .null),
      ("null_treatment", .null), ("over", window.shape), ("within_group", within.shape)]⟩

/-- A procedure to be called, behind the keyword. What is called is no expression of its own. -/
def calling (g : Grammar) : Parser Phrase := do
  let procedure ← name
  let missing (s : Shape) : Draft Slot := return ⟨[], s⟩
  if ← acceptSign "(" then
    match ← call g (operandAt g ((← remaining) + 1)) false procedure with
    | .call called parameters args _ window within =>
      return procedureCall called
        ((parameters.map draftArgs).getD (missing (.text "None"))) (draftArgs args)
        ((window.map fun w => do
          let w ← Draft.phrasePart w
          return ⟨words " OVER " ++ w.written, w.shape⟩).getD (missing .null))
        ((within.map fun w => do
          let w ← Draft.phrasePart w
          return ⟨words " " ++ w.written, w.shape⟩).getD (missing (.list [])))
    | .queryCall called q =>
      let args : Draft Slot := do
        let q ← Draft.part (.query q)
        return ⟨words "(" ++ q.written ++ words ")", .node "Subquery" q.shape⟩
      return procedureCall called (missing (.text "None")) args (missing .null)
        (missing (.list []))
    | other =>
      reject ("Expected a simple procedure call but found: " ++ other.toSql) (← peek)
  else
    return procedureCall procedure (missing (.text "None")) (missing (.text "None"))
      (missing .null) (missing (.list []))

end SqlTemplate.Sql.Parser
