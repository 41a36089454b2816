import SqlTemplate.Sql.Parser.Relation

/-!
# Reading queries

Selections, set operations, and what stands around them.
-/

namespace SqlTemplate.Sql.Parser

/-- A keyword as written, if it comes next. -/
def acceptMark (word : String) : Parser (Option Mark) := do
  match ← takeIf (isWord word) with
  | some ⟨.word text _, span⟩ => return some ⟨text, span⟩
  | _ => return none

/-- Expressions behind keywords, if the keywords come next. -/
def exprsBehind (g : Grammar) (keywords : List String) : Parser (List Expr) := do
  if ← acceptWords keywords then commaSeparated (g.expr 0) else return []

/-- One of the options behind a wildcard: its key in a tree, and how it is drafted. -/
abbrev WildcardOption := String × Draft Slot

/-- The columns that a wildcard is limited to by a pattern, if it is said. -/
def ilikeOption : Parser (List WildcardOption) := do
  if ← acceptWord "ILIKE" then
    let l ← next
    match l with
    | some ⟨.string .single text, _⟩ =>
      return [("opt_ilike", return ⟨words (" ILIKE " ++ writeQuoted '\'' text),
        fields [("pattern", .text text)]⟩)]
    | _ => expected "ilike pattern" l
  else return []

/-- The columns that a wildcard leaves out, if it is said. -/
def excludeOption : Parser (List WildcardOption) := do
  if ← acceptWord "EXCLUDE" then
    if isSign "(" (← peek) then
      let names ← inParens (commaSeparated ident)
      return [("opt_exclude", return ⟨words (" EXCLUDE (" ++ identsText names ++ ")"),
        .node "Multiple" (.list (names.map .ident))⟩)]
    else
      let one ← ident
      return [("opt_exclude", return ⟨words (" EXCLUDE " ++ one.toSql),
        .node "Single" (.ident one)⟩)]
  else return []

/-- The columns that a wildcard leaves out, if it is said. -/
def exceptOption : Parser (List WildcardOption) := do
  if ← acceptWord "EXCEPT" then
    let names ← if isSign "(" (← peek) then columnList else pure [← ident]
    return [("opt_except", return ⟨words (" EXCEPT (" ++ identsText names ++ ")"),
      fields [("first_element", identShape names.head?),
        ("additional_elements", .list (names.tail.map .ident))]⟩)]
  else return []

/-- The columns that a wildcard replaces, if it is said. -/
def replaceOption (g : Grammar) : Parser (List WildcardOption) := do
  if ← acceptWord "REPLACE" then
    if isSign "(" (← peek) then
      let items ← inParens (commaSeparated do
        let e ← g.expr 0
        let asWord ← acceptWord "AS"
        return (e, asWord, ← ident))
      return [("opt_replace", do
        let items : List Slot ← items.mapM fun (e, asWord, column) => do
          let e ← Draft.expr e
          return ⟨e.written ++ words (wordIf asWord " AS" ++ " " ++ column.toSql),
            fields [("expr", e.shape), ("column_name", .ident column),
              ("as_keyword", .flag asWord)]⟩
        return ⟨commasWithin " REPLACE (" ")" items, fields [("items", listShape items)]⟩)]
    else expected "( after REPLACE but" (← next)
  else return []

/-- A column and its new name. -/
def renamedColumn : Parser Wording := do
  let column ← ident
  expectWord "AS"
  let label ← ident
  return ⟨column.toSql ++ " AS " ++ label.toSql,
    fields [("ident", .ident column), ("alias", .ident label)]⟩

/-- The columns that a wildcard renames, if it is said. -/
def renameOption : Parser (List WildcardOption) := do
  if ← acceptWord "RENAME" then
    if isSign "(" (← peek) then
      let names ← inParens (commaSeparated renamedColumn)
      return [("opt_rename",
        return ⟨words (" RENAME (" ++ commaJoin (names.map Wording.text) ++ ")"),
          .node "Multiple" (.list (names.map Wording.shape))⟩)]
    else
      let one ← renamedColumn
      return [("opt_rename", return ⟨words (" RENAME " ++ one.text),
        .node "Single" one.shape⟩)]
  else return []

/-- The keys of the options behind a wildcard. -/
def wildcardKeys : List String :=
  ["opt_ilike", "opt_exclude", "opt_except", "opt_replace", "opt_rename"]

/-- The options behind a wildcard, if there are any. -/
def wildcardOptions (g : Grammar) : Parser (Option Phrase) := do
  let generic := g.dialect == .generic
  let ilike ← if generic then ilikeOption else pure []
  let exclude ← if generic && ilike.isEmpty then excludeOption else pure []
  let except ← exceptOption
  let replace ← replaceOption g
  let rename ← if generic then renameOption else pure []
  match ilike ++ exclude ++ except ++ replace ++ rename with
  | [] => return none
  | options =>
    return some <| Draft.phrase do
      let options ← options.mapM fun (key, draft) => do return (key, ← draft)
      return ⟨options.flatMap fun (_, slot) => slot.written,
        fields (wildcardKeys.map fun key =>
          (key, ((options.lookup key).map Slot.shape).getD .null))⟩

/-- An item of a selection. -/
def selectItem (g : Grammar) : Parser SelectItem := do
  match ← item g with
  | .wildcard qualifier star => return .wildcard qualifier star (← wildcardOptions g)
  | .expr e =>
    match e with
    | .ident ⟨text, none, _⟩ =>
      if Text.lowerAscii text = "from" then
        reject ("Expected an expression, found: " ++ text) (← peek)
      else return .expr e (← optionalAlias reservedForColumnAlias)
    | _ => return .expr e (← optionalAlias reservedForColumnAlias)

/-- `ALL` or `DISTINCT` behind `SELECT`, and the keys of the latter. -/
def selectDistinct (g : Grammar) : Parser (Option Phrase) := do
  match ← repeats with
  | some .distinct =>
    if ← acceptWord "ON" then
      let keys ← inParens (commaSeparatedUntil ")" (g.expr 0))
      return some <| Draft.phrase do
        let keys ← Draft.exprs keys
        return ⟨words "DISTINCT ON (" ++ commas keys ++ words ")", .node "On" (listShape keys)⟩
    else return some (Wording.phrase ⟨"DISTINCT", .text "Distinct"⟩)
  | _ => return none

/-- A bound on the rows behind `TOP`. -/
def topClause (g : Grammar) : Parser Phrase := do
  let (e, n) ← do
    if isSign "(" (← peek) then pure (some (← inParens (g.expr 0)), none)
    else pure (none, some (← wholeNumber))
  let percent ← acceptWord "PERCENT"
  let ties ← acceptWords ["WITH", "TIES"]
  return Draft.phrase do
    let e ← Draft.optExpr e
    let (written, quantity) := match e, n with
      | some e, _ => (words "(" ++ e.written ++ words ")", Shape.node "Expr" e.shape)
      | none, some n => (words (toString n), .node "Constant" (.number n))
      | none, none => ([], .null)
    return ⟨words "TOP " ++ written ++ wordsIf percent " PERCENT" ++ wordsIf ties " WITH TIES",
      fields [("with_ties", .flag ties), ("percent", .flag percent), ("quantity", quantity)]⟩

/-- The table that a selection fills, behind `INTO`. -/
def intoClause : Parser Wording := do
  let temporary ← acceptOneOf ["TEMP", "TEMPORARY"]
  let unlogged ← acceptWord "UNLOGGED"
  let tableWord ← acceptWord "TABLE"
  let table ← name
  return ⟨"INTO" ++ wordIf temporary.isSome " TEMPORARY" ++ wordIf unlogged " UNLOGGED" ++
      wordIf tableWord " TABLE" ++ " " ++ table.toSql,
    fields [("temporary", .flag temporary.isSome), ("unlogged", .flag unlogged),
      ("table", .flag tableWord), ("name", table.shape)]⟩

/-- A view on the members of lists, behind its keywords. -/
def lateralView (g : Grammar) : Parser Phrase := do
  let outer ← acceptWord "OUTER"
  let e ← g.expr 0
  let view ← name
  let columns ← commaSeparated
    (optionalAlias ["WHERE", "GROUP", "CLUSTER", "HAVING", "LATERAL"])
  let columns := columns.filterMap id
  return Draft.phrase do
    let e ← Draft.expr e
    return ⟨words (" LATERAL VIEW" ++ wordIf outer " OUTER" ++ " ") ++ e.written ++
        words (" " ++ view.toSql) ++ commasBehind " AS " (columns.map Ident.slot),
      fields [("lateral_view", e.shape), ("lateral_view_name", view.shape),
        ("lateral_col_alias", .list (columns.map .ident)), ("outer", .flag outer)]⟩

/-- What a grouping adds to its groups. -/
def groupModifiers : Parser (List GroupModifier) := do
  repeatWhile (acceptWord "WITH") (do
    match ← expectOneOf ["ROLLUP", "CUBE", "TOTALS"] with
    | "ROLLUP" => return .rollup
    | "CUBE" => return .cube
    | _ => return .totals) (← remaining)

/-- Expressions between parentheses, or one without them. -/
def groupingSet (g : Grammar) (lone : Bool) : Parser (List Expr) := do
  if lone && !isSign "(" (← peek) then return [← g.expr 0]
  else inParens (commaSeparatedUntil ")" (g.expr 0))

/-- Several groupings at once, behind their keyword. -/
def groupingSets (g : Grammar) (word kind : String) (lone : Bool) : Parser Expr := do
  let sets ← inParens (commaSeparated (groupingSet g lone))
  return phraseExpr do
    let sets : List Slot ← sets.mapM fun set => do
      let members ← Draft.exprs set
      let bare := lone && members.length == 1
      return ⟨if bare then commas members else words "(" ++ commas members ++ words ")",
        listShape members⟩
    return ⟨words (word ++ " (") ++ commas sets ++ words ")", .node kind (listShape sets)⟩

/-- An expression to group by. The generic dialect knows several groupings at once and the empty
tuple. -/
def groupExpr (g : Grammar) : Parser Expr := do
  match g.dialect with
  | .clickHouse => g.expr 0
  | .generic =>
    if ← acceptWords ["GROUPING", "SETS"] then groupingSets g "GROUPING SETS" "GroupingSets" false
    else if ← acceptWord "CUBE" then groupingSets g "CUBE" "Cube" true
    else if ← acceptWord "ROLLUP" then groupingSets g "ROLLUP" "Rollup" true
    else match ← get with
      | a :: b :: rest =>
        if isSign "(" (some a) && isSign ")" (some b) then
          set rest
          return .tuple []
        else g.expr 0
      | _ => g.expr 0

/-- A grouping, if there is one: whether by all columns, by which expressions, and what it
adds. -/
def groupBy (g : Grammar) : Parser (Bool × List Expr × List GroupModifier) := do
  if ← acceptWords ["GROUP", "BY"] then
    if ← acceptWord "ALL" then return (true, [], ← groupModifiers)
    else
      let exprs ← commaSeparated (groupExpr g)
      return (false, exprs, ← groupModifiers)
  else return (false, [], [])

/-- A window that gets a name. -/
def windowDefinition (g : Grammar) : Parser Phrase := do
  let label ← ident
  expectWord "AS"
  let window ← do
    if ← acceptSign "(" then windowSpec g (operandAt g ((← remaining) + 1))
    else match g.dialect with
      | .generic => pure (namedWindow (← ident))
      | .clickHouse => expectedNext "("
  return Draft.phrase do
    let window ← window
    return ⟨words (label.toSql ++ " AS ") ++ window.written,
      .list [.ident label, window.shape]⟩

/-- How rows are tied to one another, if it is said. -/
def connectBy (g : Grammar) : Parser (Option Phrase) := do
  let relations := do
    expectWords ["CONNECT", "BY"]
    commaSeparated g.relating
  let condition := do
    expectWords ["START", "WITH"]
    g.expr 0
  let tied := fun (condition : Expr) (relations : List Expr) => Draft.phrase do
    let condition ← Draft.expr condition
    let relations ← Draft.exprs relations
    return ⟨words "START WITH " ++ condition.written ++ commasBehind " CONNECT BY " relations,
      fields [("condition", condition.shape), ("relationships", listShape relations)]⟩
  if ← comesOneOf ["START", "CONNECT"] then
    if startsWithWords ["CONNECT", "BY"] (← get) then
      let r ← relations
      let c ← condition
      return some (tied c r)
    else
      let c ← condition
      let r ← relations
      return some (tied c r)
  else return none

/-- The clauses about windows: the named ones, a condition, and whether the former came first. -/
def windowClauses (g : Grammar) : Parser (List Phrase × Option Expr × Bool) := do
  let windows := commaSeparated (windowDefinition g)
  if ← acceptWord "WINDOW" then
    let ws ← windows
    return (ws, ← optionalClause "QUALIFY" (g.expr 0), true)
  else if ← acceptWord "QUALIFY" then
    let condition ← g.expr 0
    return ((← optionalClause "WINDOW" windows).getD [], some condition, false)
  else return ([], none, false)

/-- A selection behind its keyword. -/
def select (g : Grammar) (selectWord : Mark) : Parser Select := do
  let distinct ← selectDistinct g
  let top ← optionalClause "TOP" (topClause g)
  let items ← commaSeparated (selectItem g)
  let into ← optionalClause "INTO" intoClause
  let from_ ← optionalClause "FROM" (commaSeparated (fromItem g))
  let lateralViews ← repeatWhile (acceptWords ["LATERAL", "VIEW"]) (lateralView g) (← remaining)
  let prewhere ← optionalClause "PREWHERE" (g.expr 0)
  let where_ ← optionalClause "WHERE" (g.expr 0)
  let (groupByAll, groupBy, groupModifiers) ← groupBy g
  let clusterBy ← exprsBehind g ["CLUSTER", "BY"]
  let distributeBy ← exprsBehind g ["DISTRIBUTE", "BY"]
  let sortBy ← exprsBehind g ["SORT", "BY"]
  let having ← optionalClause "HAVING" (g.expr 0)
  let (windows, qualify, windowsFirst) ← windowClauses g
  let connectBy ← match g.dialect with
    | .clickHouse => pure none
    | .generic => connectBy g
  return { selectWord, distinct, top, items, into, from_ := from_.getD [], lateralViews, prewhere,
           where_, groupByAll, groupBy, groupModifiers, clusterBy, distributeBy, sortBy, having,
           windows, qualify, windowsFirst, connectBy }

/-- A whole table, behind the keyword. Two tokens are read behind the name, of which only a point
and a second name count. -/
def tableBody : Parser Body := do
  let first ← next
  let second ← next
  let third ← next
  if isSign "." second then
    match first, third with
    | some ⟨.word schema _, _⟩, some ⟨.word table _, _⟩ => return .table (some schema) table
    | some ⟨.word _ _, _⟩, _ => expected "Table name" third
    | _, _ => expected "Schema name" first
  else match first with
    | some ⟨.word table _, _⟩ => return .table none table
    | _ => expected "Table name" first

/-- A body without set operations at its top. -/
def plainBody (g : Grammar) : Parser Body := do
  match ← acceptMark "SELECT" with
  | some word => return .select (← select g word)
  | none =>
    if isSign "(" (← peek) then return .query (← inParens g.query)
    else if ← acceptWord "VALUES" then valueRows g
    else if ← acceptWord "TABLE" then tableBody
    else expectedNext "SELECT, VALUES, or a subquery in the query body"

/-- The words behind a set operation. -/
def setQuantifier : Parser SetQuantifier := do
  if ← acceptWords ["DISTINCT", "BY", "NAME"] then return .distinctByName
  else if ← acceptWords ["BY", "NAME"] then return .byName
  else if ← acceptWord "ALL" then
    if ← acceptWords ["BY", "NAME"] then return .allByName else return .all
  else if ← acceptWord "DISTINCT" then return .distinct
  else return .none

/-- The set operation that comes next, if it is one of some. -/
def acceptSetOp (ops : List SetOp) : Parser (Option SetOp) := do
  let word ← peekWord
  match ops.find? (fun op => word == some op.toSql) with
  | some op =>
    let _ ← next
    return some op
  | none => return none

/-- Bodies with some of the set operations between them, grouped to the left. -/
def setOperations (ops : List SetOp) (operand : Parser Body) : (fuel : Nat) → Body → Parser Body
  | 0, left => return left
  | fuel + 1, left => do
    match ← acceptSetOp ops with
    | none => return left
    | some op =>
      let quantifier ← setQuantifier
      let right ← operand
      setOperations ops operand fuel (.setOperation op quantifier left right)

/-- Bodies with `INTERSECT` between them. -/
def intersections (g : Grammar) : Parser Body := do
  let first ← plainBody g
  setOperations [.intersect] (plainBody g) (← remaining) first

/-- A body. `INTERSECT` binds tighter than the other set operations. -/
def body (g : Grammar) : Parser Body := do
  let first ← intersections g
  setOperations [.union, .except] (intersections g) (← remaining) first

/-- How the values of columns are interpolated, if it is said. -/
def interpolateClause (g : Grammar) : Parser (Option Phrase) := do
  if ← acceptWord "INTERPOLATE" then
    if isSign "(" (← peek) then
      let items ← inParens (commaSeparatedUntil ")" do
        let column ← ident
        return (column, ← optionalClause "AS" (g.expr 0)))
      return some <| Draft.phrase do
        let items : List Slot ← items.mapM fun (column, e) => do
          let e ← Draft.optExpr e
          return ⟨words column.toSql ++ behind " AS " e,
            fields [("column", .ident column), ("expr", optShape e)]⟩
        return ⟨words "INTERPOLATE (" ++ commas items ++ words ")",
          fields [("exprs", listShape items)]⟩
    else return some (Wording.phrase ⟨"INTERPOLATE", fields [("exprs", .null)]⟩)
  else return none

/-- The bounds of a result: limit and offset. -/
structure Limits where
  limit : Option Expr
  offset : Option Expr
  rows : OffsetRows

/-- A bound on the number of rows behind its keyword; `ALL` is none. -/
def limitValue (g : Grammar) : Parser (Option Expr) := do
  if ← acceptWord "ALL" then return none else return some (← g.expr 0)

/-- A limit, unless there is one already. -/
def limitClause (g : Grammar) (l : Limits) : Parser Limits := do
  if l.limit.isSome then return l
  else if ← acceptWord "LIMIT" then return { l with limit := ← limitValue g }
  else return l

/-- An offset, unless there is one already. -/
def offsetClause (g : Grammar) (l : Limits) : Parser Limits := do
  if l.offset.isSome then return l
  else if ← acceptWord "OFFSET" then
    let e ← g.expr 0
    let unit ← do
      if ← acceptWord "ROW" then pure OffsetRows.row
      else if ← acceptWord "ROWS" then pure OffsetRows.rows
      else pure OffsetRows.none
    return { l with offset := some e, rows := unit }
  else return l

/-- A second number behind a limit: then the first one is the offset. -/
def limitComma (g : Grammar) (l : Limits) : Parser Limits := do
  if l.limit.isNone || l.offset.isSome then return l
  else if ← acceptSign "," then
    let e ← g.expr 0
    return { limit := some e, offset := l.limit, rows := .none }
  else return l

/-- Limit and offset in any order. -/
def limits (g : Grammar) : Parser Limits := do
  let turn := fun l => limitClause g l >>= offsetClause g >>= limitComma g
  turn { limit := none, offset := none, rows := .none } >>= turn

/-- How many rows are fetched, behind the keyword. -/
def fetchClause : Parser Wording := do
  let _ ← expectOneOf ["FIRST", "NEXT"]
  let (quantity, percent) ← do
    if (← acceptOneOf ["ROW", "ROWS"]).isSome then pure (none, false)
    else
      let v ← value
      let percent ← acceptWord "PERCENT"
      let _ ← expectOneOf ["ROW", "ROWS"]
      pure (some v, percent)
  let ties ← do
    if ← acceptWord "ONLY" then pure false
    else if ← acceptWords ["WITH", "TIES"] then pure true
    else expectedNext "one of ONLY or WITH TIES"
  return ⟨"FETCH FIRST" ++ withLead " " (quantity.map Literal.toSql) ++
      wordIf percent " PERCENT" ++ " ROWS " ++ (if ties then "WITH TIES" else "ONLY"),
    fields [("with_ties", .flag ties), ("percent", .flag percent),
      ("quantity", (quantity.map fun v => Shape.node "Value" (.literal v)).getD .null)]⟩

/-- A text between parentheses, if a parenthesis comes next. -/
def optionalText (dialect : Dialect) : Parser (Option String) := do
  if isSign "(" (← peek) then return some (← inParens (literalText dialect)) else return none

/-- What is said about an output document: flags by their keys, and the name of its root. -/
structure DocumentOptions where
  flags : List String
  root : Option String

/-- A flag of an output document: its keyword, those that must follow, and its key in a tree. -/
structure DocumentFlag where
  word : String
  more : List String
  key : String

/-- The options of an output document, with a comma in front of each; a comma may also stand
alone. -/
def documentOptions (dialect : Dialect) (flags : List DocumentFlag) :
    (fuel : Nat) → DocumentOptions → Parser DocumentOptions
  | 0, options => return options
  | fuel + 1, options => do
    if ← acceptSign "," then
      let word ← peekWord
      match flags.find? fun flag => word == some flag.word with
      | some flag =>
        let _ ← next
        expectWords flag.more
        documentOptions dialect flags fuel { options with flags := flag.key :: options.flags }
      | none =>
        if ← acceptWord "ROOT" then
          let root ← inParens (literalText dialect)
          documentOptions dialect flags fuel { options with root := some root }
        else documentOptions dialect flags fuel options
    else return options

/-- The flags of an output document in XML. -/
def xmlFlags : List DocumentFlag :=
  [⟨"ELEMENTS", [], "elements"⟩, ⟨"BINARY", ["BASE64"], "binary_base64"⟩, ⟨"TYPE", [], "type"⟩]

/-- The flags of an output document in JSON. -/
def jsonFlags : List DocumentFlag :=
  [⟨"INCLUDE_NULL_VALUES", [], "include_null_values"⟩,
    ⟨"WITHOUT_ARRAY_WRAPPER", [], "without_array_wrapper"⟩]

/-- A root element as written. -/
def rootText (root : Option String) : String :=
  (root.map fun text => ", ROOT('" ++ text ++ "')").getD ""

/-- The words of an XML form, with the name of an element if it has one. -/
def elementText (word : String) (element : Option String) : String :=
  word ++ ((element.map fun text => "('" ++ text ++ "')").getD "")

/-- An output document in XML, behind the keyword. -/
def xmlForm (dialect : Dialect) : Parser Wording := do
  let kind : Wording ← do
    if ← acceptWord "RAW" then
      let element ← optionalText dialect
      pure ⟨elementText "RAW" element, .node "Raw" (textShape element)⟩
    else if ← acceptWord "AUTO" then pure ⟨"AUTO", .text "Auto"⟩
    else if ← acceptWord "EXPLICIT" then pure ⟨"EXPLICIT", .text "Explicit"⟩
    else if ← acceptWord "PATH" then
      let element ← optionalText dialect
      pure ⟨elementText "PATH" element, .node "Path" (textShape element)⟩
    else throw (.rejected "Expected FOR XML [RAW | AUTO | EXPLICIT | PATH ]" none)
  let o ← documentOptions dialect xmlFlags ((← remaining) + 1) ⟨[], none⟩
  let has (key : String) : Bool := o.flags.contains key
  return ⟨"FOR XML " ++ kind.text ++ wordIf (has "binary_base64") ", BINARY BASE64" ++
      wordIf (has "type") ", TYPE" ++ rootText o.root ++ wordIf (has "elements") ", ELEMENTS",
    form "Xml" [("for_xml", kind.shape), ("elements", .flag (has "elements")),
      ("binary_base64", .flag (has "binary_base64")), ("root", textShape o.root),
      ("type", .flag (has "type"))]⟩

/-- An output document in JSON, behind the keyword. -/
def jsonForm (dialect : Dialect) : Parser Wording := do
  let (word, kind) ← do
    if ← acceptWord "AUTO" then pure ("AUTO", "Auto")
    else if ← acceptWord "PATH" then pure ("PATH", "Path")
    else throw (.rejected "Expected FOR JSON [AUTO | PATH ]" none)
  let o ← documentOptions dialect jsonFlags ((← remaining) + 1) ⟨[], none⟩
  let has (key : String) : Bool := o.flags.contains key
  return ⟨"FOR JSON " ++ word ++ rootText o.root ++
      wordIf (has "include_null_values") ", INCLUDE_NULL_VALUES" ++
      wordIf (has "without_array_wrapper") ", WITHOUT_ARRAY_WRAPPER",
    form "Json" [("for_json", .text kind), ("root", textShape o.root),
      ("include_null_values", .flag (has "include_null_values")),
      ("without_array_wrapper", .flag (has "without_array_wrapper"))]⟩

/-- A lock on the rows of a query, behind `FOR`. -/
def lockClause : Parser Wording := do
  let word ← expectOneOf ["UPDATE", "SHARE"]
  let table ← optionalClause "OF" name
  let (waiting, kind) ← do
    if ← acceptWord "NOWAIT" then pure (" NOWAIT", some "Nowait")
    else if ← acceptWords ["SKIP", "LOCKED"] then pure (" SKIP LOCKED", some "SkipLocked")
    else pure ("", none)
  return ⟨"FOR " ++ word ++ withLead " OF " (table.map Name.toSql) ++ waiting,
    fields [("lock_type", .text (if word = "UPDATE" then "Update" else "Share")),
      ("of", (table.map Name.shape).getD .null), ("nonblock", textShape kind)]⟩

/-- The clauses behind `FOR`: locks, up to one about the form of the output. -/
def forClauses (dialect : Dialect) : (fuel : Nat) → Parser (List Wording × Option Wording)
  | 0 => return ([], none)
  | fuel + 1 => do
    if ← acceptWord "FOR" then
      if ← acceptWord "XML" then return ([], some (← xmlForm dialect))
      else if ← acceptWord "JSON" then return ([], some (← jsonForm dialect))
      else if ← acceptWord "BROWSE" then return ([], some ⟨"FOR BROWSE", .text "Browse"⟩)
      else
        let lock ← lockClause
        let (locks, output) ← forClauses dialect fuel
        return (lock :: locks, output)
    else return ([], none)

/-- A closing parenthesis and its place. -/
def closingParen : Parser Text.Span := do
  let l ← next
  match l with
  | some ⟨.sign ")", span⟩ => return span
  | _ => expected ")" l

/-- A named query. -/
def cte (g : Grammar) : Parser Cte := do
  let label ← ident
  let columns ← do
    if isWord "AS" (← peek) then pure [] else columnDefs g
  expectWord "AS"
  expectSign "("
  let q ← g.query
  let closing ← closingParen
  let source ← optionalClause "FROM" ident
  return { label := { name := label, columns }, query := q, source, closing }

/-- The named queries in front of a query. -/
def withClause (g : Grammar) : Parser (Option Mark × Bool × List Cte) := do
  match ← acceptMark "WITH" with
  | none => return (none, false, [])
  | some word =>
    let recursive ← acceptWord "RECURSIVE"
    return (some word, recursive, ← commaSeparated (cte g))

/-- An output format. -/
def outputFormat : Parser OutputFormat := do
  if ← acceptWord "NULL" then return .null else return .named (← ident)

/-- A query; `command` reads the change of a table that may stand in the place of its body. -/
def query (g : Grammar) (command : Parser (Option (String × Phrase))) : Parser Query := do
  let (withWord, recursive, ctes) ← withClause g
  match ← command with
  | some (kind, phrase) =>
    return { Query.ofBody (.command kind phrase) with withWord, recursive, ctes }
  | none =>
    let body ← body g
    let orderBy ← optionalOrder g
    let interpolate ← if orderBy.isEmpty then pure none else interpolateClause g
    let bounds ← limits g
    let limitBy ← exprsBehind g ["BY"]
    let settings ← settings
    let fetch ← optionalClause "FETCH" fetchClause
    let (locks, output) ← forClauses g.dialect ((← remaining) + 1)
    let format ← optionalClause "FORMAT" outputFormat
    return { withWord, recursive, ctes, body, orderBy, interpolate, limit := bounds.limit,
             limitBy, offset := bounds.offset, offsetRows := bounds.rows, settings,
             delivery := ⟨fetch, locks, output⟩, format }

end SqlTemplate.Sql.Parser
