import SqlTemplate.Sql.Parser.Command
import SqlTemplate.Sql.Parser.Maintenance
import SqlTemplate.Sql.Parser.Routine
import SqlTemplate.Sql.Parser.Session

/-!
# Reading statements

The grammar is tied together here: a statement, a query and an expression each take one level of a
limited depth, so reading ends on every text.
-/

namespace SqlTemplate.Sql

namespace Parser

/-- Whether a statement describes another one or a table. -/
def isDescription : Statement → Bool
  | .explain .. | .explainTable .. => true
  | _ => false

/-- An option of a description, with a value or without. -/
def descriptionOption (g : Grammar) : Parser (Draft Slot) := do
  let option ← ident
  let l ← peek
  let value ← do
    if isSign "," l || isSign ")" l then pure none else pure (some (← g.expr 0))
  return do
    let value ← Draft.optExpr value
    return ⟨words option.toSql ++ behind " " value,
      fields [("name", .ident option), ("arg", optShape value)]⟩

/-- The options of a description between parentheses. -/
def descriptionOptions (g : Grammar) : Parser Phrase := do
  let options ← inParens (commaSeparated (descriptionOption g))
  return Draft.phrase do
    let options ← drafts options
    return ⟨words "(" ++ commas options ++ words ")", listShape options⟩

/-- The formats of a description, whose kinds are their keywords. -/
def descriptionFormat : Parser Wording := do
  match ← acceptOneOf ["TEXT", "GRAPHVIZ", "JSON"] with
  | some word => return ⟨word, .text word⟩
  | none => expected "fileformat" (← next)

/-- How a table is described, if it is said. -/
def tableFormat : Parser (Option Wording) := do
  if ← acceptWord "EXTENDED" then return some ⟨"EXTENDED", .text "Extended"⟩
  else if ← acceptWord "FORMATTED" then return some ⟨"FORMATTED", .text "Formatted"⟩
  else return none

/-- How a description starts. -/
structure DescriptionHead where
  analyze : Bool := false
  verbose : Bool := false
  queryPlan : Bool := false
  format : Option Wording := none
  options : Option Phrase := none

/-- How a description starts, behind its keyword. -/
def descriptionHead (g : Grammar) (word : DescribeWord) : Parser DescriptionHead := do
  if word = .explain && g.dialect = .generic && isSign "(" (← peek) then
    return { options := some (← descriptionOptions g) }
  else if ← acceptWords ["QUERY", "PLAN"] then return { queryPlan := true }
  else
    let analyze ← acceptWord "ANALYZE"
    let verbose ← acceptWord "VERBOSE"
    return { analyze, verbose, format := ← optionalClause "FORMAT" descriptionFormat }

/-- A description behind its keyword: of a statement if one follows, else of a table. -/
def description (g : Grammar) (word : DescribeWord) : Parser Statement := do
  let head ← descriptionHead g word
  match ← attempt g.statement with
  | some inner =>
    if isDescription inner then throw (.rejected "Explain must be root of the plan" none)
    else
      return .explain word head.analyze head.verbose head.queryPlan head.format head.options inner
  | none =>
    let format ← tableFormat
    let tableWord ← match g.dialect with
      | .clickHouse => acceptWord "TABLE"
      | .generic => pure false
    return .explainTable word format tableWord (← name)

/-- A replacement behind its keyword: an insertion of the generic dialect. -/
def replacement (g : Grammar) : Parser Phrase := do
  match g.dialect with
  | .clickHouse => reject "Unsupported statement REPLACE" (← peek)
  | .generic => insertion g true

/-- The command that a keyword starts, if it starts one. The keyword has been taken. -/
def commandOf (g : Grammar) (word : String) : Option (Parser Phrase) :=
  let plain (p : Parser Wording) : Option (Parser Phrase) := some (return (← p).phrase)
  let genericOnly (p : Parser Phrase) : Option (Parser Phrase) :=
    if g.isGeneric then some p else none
  match word with
  | "INSERT" => some (insertion g false)
  | "REPLACE" => some (replacement g)
  | "DELETE" => some (deletion g)
  | "UPDATE" => some (updating g)
  | "CREATE" => some (creation g)
  | "GRANT" => some granting
  | "REVOKE" => some revoking
  | "START" => plain transactionStart
  | "BEGIN" => plain (transactionBegin g)
  | "COMMIT" | "END" => plain commitment
  | "ROLLBACK" => plain rollback
  | "SAVEPOINT" => plain savepoint
  | "RELEASE" => plain release
  | "SHOW" => some (showing g)
  | "SET" => some (setting g)
  | "USE" => some using_
  | "KILL" => some killing
  | "DISCARD" => some discarding
  | "PRAGMA" => some pragma
  | "COMMENT" => genericOnly (commenting g)
  | "DROP" => some (dropping g)
  | "TRUNCATE" => some (truncation g)
  | "ANALYZE" => some (inspecting g)
  | "OPTIMIZE" => some (optimizing g)
  | "MSCK" => some repairing
  | "CACHE" => some (caching g)
  | "UNCACHE" => some uncaching
  | "ATTACH" => some (attaching g)
  | "DETACH" => genericOnly detaching
  | "INSTALL" => genericOnly (extension "INSTALL" "Install")
  | "LOAD" => some (loading g)
  | "UNLOAD" => some (unloading g)
  | "ASSERT" => some (asserting g)
  | "DEALLOCATE" => some deallocating
  | "EXECUTE" | "EXEC" => some (executing g)
  | "CLOSE" => some closing
  | "DECLARE" => some (declaring g)
  | "FETCH" => some fetching
  | "CALL" => some (calling g)
  | _ => none

/-- A statement. -/
def statement (g : Grammar) : Parser Statement := do
  let input ← get
  let l ← next
  match l.bind (·.token.keyword?) with
  | some "DESC" => description g .desc
  | some "DESCRIBE" => description g .describe
  | some "EXPLAIN" => description g .explain
  | some "SELECT" | some "WITH" | some "VALUES" =>
    set input
    return .query (← g.query)
  | some word =>
    match commandOf g word with
    | some p => return .command (← p)
    | none => expected "an SQL statement" l
  | none =>
    if isSign "(" l then
      set input
      return .query (← g.query)
    else expected "an SQL statement" l

end Parser

/-- The grammars of a dialect for texts nested at most `depth` levels deep: the plain one, and the
one for expressions that tie rows to one another. -/
def grammars (dialect : Dialect) : (depth : Nat) → Grammar × Grammar
  | 0 =>
    let limit (connecting : Bool) : Grammar :=
      { dialect, connecting, expr := fun _ => throw .tooDeep, relating := throw .tooDeep,
        query := throw .tooDeep, statement := throw .tooDeep }
    (limit false, limit true)
  | depth + 1 =>
    let (plain, relating) := grammars dialect depth
    let level (connecting : Bool) (inner : Grammar) : Grammar :=
      { dialect, connecting, expr := Parser.exprAbove inner,
        relating := Parser.exprAbove relating 0,
        query := Parser.query inner (Parser.bodyCommand inner),
        statement := Parser.statement inner }
    (level false plain, level true relating)

/-- The grammar of a dialect for texts nested at most `depth` levels deep. -/
def grammar (dialect : Dialect) (depth : Nat) : Grammar := (grammars dialect depth).1

/-- How many levels a text may be nested. -/
def maxDepth : Nat := 50

namespace Parser

/-- Statements with semicolons between them; `ended` tells whether the one before is complete. The
word `END` behind a statement ends the text. -/
def statements (p : Parser Statement) : (fuel : Nat) → (ended : Bool) → Parser (List Statement)
  | 0, _ => return []
  | fuel + 1, ended => do
    let l ← peek
    match l with
    | none => return []
    | some _ =>
      if ← acceptSign ";" then statements p fuel false
      else if ended && isWord "END" l then return []
      else if ended then expected "end of statement" l
      else
        let s ← p
        return s :: (← statements p fuel true)

end Parser

end SqlTemplate.Sql
