import SqlTemplate.Sql.Parser.Operator

/-!
# Reading calls

Arguments and the clauses behind them, orders, intervals and windows.
-/

namespace SqlTemplate.Sql.Parser

/-- A wildcard or an expression. -/
inductive Item where
  | wildcard (qualifier : Name) (star : Text.Span)
  | expr (value : Expr)

/-- The star behind a qualifier, if the names between points end in one. -/
def qualifiedStar : (fuel : Nat) → Name → Parser (Option (Name × Text.Span))
  | 0, _ => return none
  | fuel + 1, parts => do
    if ← acceptSign "." then
      let l ← next
      match l, identOf? l with
      | some ⟨.sign "*", span⟩, _ => return some (parts, span)
      | _, some i => qualifiedStar fuel (parts ++ [i])
      | _, none => expected "an identifier or a '*' after '.'" l
    else return none

/-- A wildcard or an expression. -/
def item (g : Grammar) : Parser Item := do
  let input ← get
  match input with
  | ⟨.sign "*", span⟩ :: rest =>
    set rest
    return .wildcard [] span
  | l :: ⟨.sign ".", _⟩ :: _ =>
    match identOf? (some l) with
    | none => return .expr (← g.expr 0)
    | some i =>
      set (input.drop 1)
      match ← qualifiedStar input.length [i] with
      | some (qualifier, star) => return .wildcard qualifier star
      | none =>
        set input
        return .expr (← g.expr 0)
  | _ => return .expr (← g.expr 0)

/-- What ties an argument to its name. -/
def namedStyle (dialect : Dialect) : Parser NamedStyle := do
  if ← acceptWord "VALUE" then return .value
  else if ← acceptSign "=>" then return .arrow
  else
    let l ← peek
    if dialect = .generic ∧ isSign ":=" l then
      let _ ← next
      return .assignment
    else expected "argument operator" l

/-- An argument of a call. -/
def arg (g : Grammar) : Parser Arg := do
  let named ← attempt do
    let label ← ident
    let style ← namedStyle g.dialect
    let i ← item g
    return (some (label, style), i)
  let (label, i) ← match named with
    | some result => pure result
    | none => do
      let i ← item g
      pure (none, i)
  match i with
  | .wildcard qualifier _ => return .wildcard label qualifier
  | .expr value => return .expr label value

/-- `ALL` or `DISTINCT` in front of arguments. -/
def repeats : Parser (Option Repeats) := do
  let l ← peek
  let all ← acceptWord "ALL"
  let distinct ← acceptWord "DISTINCT"
  if all && distinct then reject "Cannot specify both ALL and DISTINCT" l
  else if all then return some .all
  else if distinct then return some .distinct
  else return none

/-- How the gaps between the keys of an order are filled. -/
def fillClause (g : Grammar) : Parser Phrase := do
  let start ← optionalClause "FROM" (g.expr 0)
  let stop ← optionalClause "TO" (g.expr 0)
  let step ← optionalClause "STEP" (g.expr 0)
  return Draft.phrase do
    let start ← Draft.optExpr start
    let stop ← Draft.optExpr stop
    let step ← Draft.optExpr step
    return ⟨words "WITH FILL" ++ behind " FROM " start ++ behind " TO " stop ++
        behind " STEP " step,
      fields [("from", optShape start), ("to", optShape stop), ("step", optShape step)]⟩

/-- A key of an order with a direction, a place for nulls and a filling. -/
def orderItem (g : Grammar) : Parser OrderItem := do
  let expr ← g.expr 0
  let ascending ← direction
  let nullsFirst ← do
    if ← acceptWords ["NULLS", "FIRST"] then pure (some true)
    else if ← acceptWords ["NULLS", "LAST"] then pure (some false)
    else pure none
  let fill ← do
    if ← acceptWords ["WITH", "FILL"] then pure (some (← fillClause g)) else pure none
  return { expr, ascending, nullsFirst, fill }

/-- An order, if there is one. -/
def optionalOrder (g : Grammar) : Parser (List OrderItem) := do
  if ← acceptWords ["ORDER", "BY"] then commaSeparated (orderItem g) else return []

/-- The words about nulls, if there are any. -/
def nullTreatment : Parser (Option NullTreatment) := do
  match ← acceptOneOf ["RESPECT", "IGNORE"] with
  | none => return none
  | some word =>
    expectWord "NULLS"
    return some (if word = "RESPECT" then .respect else .ignore)

/-- The words about members that are null, if there are any. -/
def jsonNullClause : Parser (List Phrase) := do
  let clause (words kind : String) : List Phrase :=
    [Wording.phrase ⟨words, .node "JsonNullClause" (.text kind)⟩]
  if ← acceptWords ["ABSENT", "ON", "NULL"] then
    return clause "ABSENT ON NULL" "AbsentOnNull"
  else if ← acceptWords ["NULL", "ON", "NULL"] then return clause "NULL ON NULL" "NullOnNull"
  else return []

/-- Whether a text literal comes next that can fill a list that is too long. -/
def comesFiller : Parser Bool := do
  match ← peek with
  | some ⟨.string kind _, _⟩ =>
    return kind == .single || kind == .escaped || kind == .unicode || kind == .national ||
      kind == .hex
  | _ => return false

/-- What happens to a list that is too long, if it is said. -/
def overflowClause (g : Grammar) : Parser (List Phrase) := do
  if ← acceptWords ["ON", "OVERFLOW"] then
    if ← acceptWord "ERROR" then
      return [Wording.phrase ⟨"ON OVERFLOW ERROR", .node "OnOverflow" (.text "Error")⟩]
    else
      expectWord "TRUNCATE"
      let filler ← do
        if ← comesOneOf ["WITH", "WITHOUT"] then pure none
        else if ← comesFiller then pure (some (← g.expr 0))
        else expectedNext "either filler, WITH, or WITHOUT in LISTAGG"
      let counted ← acceptWord "WITH"
      let uncounted ← acceptWordIf (!counted) "WITHOUT"
      if !counted && !uncounted then expectedNext "either WITH or WITHOUT in LISTAGG"
      expectWord "COUNT"
      return [Draft.phrase do
        let filler ← Draft.optExpr filler
        return ⟨words "ON OVERFLOW TRUNCATE" ++ behind " " filler ++
            words (if counted then " WITH COUNT" else " WITHOUT COUNT"),
          .node "OnOverflow" (form "Truncate"
            [("filler", optShape filler), ("with_count", .flag counted)])⟩]
  else return []

/-- A clause behind arguments with one expression in it. -/
def exprClause (lead kind : String) (e : Expr) : Phrase := Draft.phrase do
  let e ← Draft.expr e
  return ⟨words lead ++ e.written, .node kind e.shape⟩

/-- The order behind arguments, if there is one. -/
def orderClause (g : Grammar) : Parser (List Phrase) := do
  match ← optionalOrder g with
  | [] => return []
  | items =>
    return [Draft.phrase do
      let items ← Draft.orders items
      return ⟨commasBehind "ORDER BY " items, .node "OrderBy" (listShape items)⟩]

/-- The words about nulls behind arguments, if there are any. -/
def nullsClause : Parser (List Phrase) := do
  match ← nullTreatment with
  | none => return []
  | some t =>
    let kind := match t with
      | .ignore => "IgnoreNulls"
      | .respect => "RespectNulls"
    return [Wording.phrase ⟨t.toSql, .node "IgnoreOrRespectNulls" (.text kind)⟩]

/-- The rows that a call is bound to, if they are said. -/
def havingClause (g : Grammar) : Parser (List Phrase) := do
  if ← acceptWord "HAVING" then
    let word ← expectOneOf ["MIN", "MAX"]
    let e ← g.expr 0
    return [Draft.phrase do
      let e ← Draft.expr e
      return ⟨words ("HAVING " ++ word ++ " ") ++ e.written,
        .node "Having" (.list [.text (if word = "MIN" then "Min" else "Max"), e.shape])⟩]
  else return []

/-- The text between the members of a list, if it is said. -/
def separatorClause : Parser (List Phrase) := do
  match ← optionalClause "SEPARATOR" value with
  | none => return []
  | some v =>
    return [Wording.phrase ⟨"SEPARATOR " ++ v.toSql, .node "Separator" (.literal v)⟩]

/-- Clauses of the generic dialect only. -/
def genericClause (g : Grammar) (p : Parser (List Phrase)) : Parser (List Phrase) :=
  match g.dialect with
  | .clickHouse => return []
  | .generic => p

/-- Arguments behind their opening parenthesis. -/
def argList (g : Grammar) : Parser ArgList := do
  let leading ← jsonNullClause
  if ← acceptSign ")" then return { repeats := none, args := [], clauses := leading }
  else
    let quantifier ← repeats
    let args ← commaSeparated (arg g)
    let nulls ← genericClause g nullsClause
    let order ← orderClause g
    let limit ← optionalClause "LIMIT" (g.expr 0)
    let having ← genericClause g (havingClause g)
    let separator ← genericClause g separatorClause
    let overflow ← overflowClause g
    let trailing ← jsonNullClause
    expectSign ")"
    return { repeats := quantifier, args,
             clauses := leading ++ nulls ++ order ++
               (limit.map (exprClause "LIMIT " "Limit")).toList ++ having ++ separator ++
               overflow ++ trailing }

/-- Whether the clauses behind arguments say something about nulls. -/
def treatsNulls (args : ArgList) : Bool :=
  args.clauses.any fun clause =>
    match clause.shape with
    | .node "IgnoreOrRespectNulls" _ => true
    | _ => false

/-- The fields of a time: word and kind. -/
def timeFields : List (String × String) :=
  [("YEAR", "Year"), ("MONTH", "Month"), ("DAY", "Day"), ("DAYOFWEEK", "DayOfWeek"),
    ("DAYOFYEAR", "DayOfYear"), ("DATE", "Date"), ("DATETIME", "Datetime"), ("HOUR", "Hour"),
    ("MINUTE", "Minute"), ("SECOND", "Second"), ("CENTURY", "Century"), ("DECADE", "Decade"),
    ("DOY", "Doy"), ("DOW", "Dow"), ("EPOCH", "Epoch"), ("ISODOW", "Isodow"),
    ("ISOWEEK", "IsoWeek"), ("ISOYEAR", "Isoyear"), ("JULIAN", "Julian"),
    ("MICROSECOND", "Microsecond"), ("MICROSECONDS", "Microseconds"),
    ("MILLENIUM", "Millenium"), ("MILLENNIUM", "Millennium"), ("MILLISECOND", "Millisecond"),
    ("MILLISECONDS", "Milliseconds"), ("NANOSECOND", "Nanosecond"),
    ("NANOSECONDS", "Nanoseconds"), ("QUARTER", "Quarter"), ("TIME", "Time"),
    ("TIMEZONE", "Timezone"), ("TIMEZONE_ABBR", "TimezoneAbbr"),
    ("TIMEZONE_HOUR", "TimezoneHour"), ("TIMEZONE_MINUTE", "TimezoneMinute"),
    ("TIMEZONE_REGION", "TimezoneRegion")]

/-- A week, which may start on a given day in the generic dialect. -/
def weekField (dialect : Dialect) : Parser Wording := do
  match dialect with
  | .clickHouse => return ⟨"WEEK", .node "Week" .null⟩
  | .generic =>
    if ← acceptSign "(" then
      let day ← ident
      expectSign ")"
      return ⟨"WEEK(" ++ day.toSql ++ ")", .node "Week" (.ident day)⟩
    else return ⟨"WEEK", .node "Week" .null⟩

/-- A field of a time. In the generic dialect any name is one. -/
def timeField (dialect : Dialect) : Parser Wording := do
  let l ← next
  let word := (l.bind (·.token.keyword?)).getD ""
  if word = "WEEK" then weekField dialect
  else match timeFields.lookup word, dialect, identOf? l with
    | some kind, _, _ => return ⟨word, .text kind⟩
    | none, .generic, some custom => return ⟨custom.toSql, .node "Custom" (.ident custom)⟩
    | none, _, _ => expected "date/time field" l

/-- The units of an interval behind its value, given the leading one. -/
def intervalRest (dialect : Dialect) (leading : Option Wording) : Parser Qualifier := do
  if (leading.map Wording.text) = some "SECOND" then
    if ← acceptSign "(" then
      let precision ← wholeNumber
      let fraction ← if ← acceptSign "," then pure (some (← wholeNumber)) else pure none
      expectSign ")"
      return { leading, precision := some precision, last := none, fraction }
    else return { leading, precision := none, last := none, fraction := none }
  else
    let precision ← optionalSize
    if ← acceptWord "TO" then
      let last ← timeField dialect
      let fraction ← if last.text = "SECOND" then optionalSize else pure none
      return { leading, precision, last := some last, fraction }
    else return { leading, precision, last := none, fraction := none }

/-- An interval behind its keyword; `operand` reads a value without operators. -/
def interval (g : Grammar) (operand : Parser Expr) : Parser Expr := do
  let amount ← match g.dialect with
    | .clickHouse => g.expr 0
    | .generic => operand
  let leading ← do
    if ← comesOneOf intervalUnits then pure (some (← timeField g.dialect))
    else match g.dialect with
      | .clickHouse => reject "INTERVAL requires a unit after the literal value" (← peek)
      | .generic => pure none
  return .interval amount (← intervalRest g.dialect leading)

/-- One end of a frame. -/
def bound (g : Grammar) (operand : Parser Expr) : Parser (Draft Slot) := do
  if ← acceptWords ["CURRENT", "ROW"] then return pure (keywordSlot "CURRENT ROW" "CurrentRow")
  else
    let distance ← do
      if ← acceptWord "UNBOUNDED" then pure none
      else match ← peek with
        | some ⟨.string .single _, _⟩ => pure (some (← interval g operand))
        | _ => pure (some (← g.expr 0))
    let (word, kind) ← do
      if ← acceptWord "PRECEDING" then pure (" PRECEDING", "Preceding")
      else if ← acceptWord "FOLLOWING" then pure (" FOLLOWING", "Following")
      else expectedNext "PRECEDING or FOLLOWING"
    return do
      let distance ← Draft.optExpr distance
      let written := (distance.map Slot.written).getD (words "UNBOUNDED")
      return ⟨written ++ words word, .node kind (optShape distance)⟩

/-- The rows of a window around the current one. -/
def frame (g : Grammar) (operand : Parser Expr) : Parser (Draft Slot) := do
  let l ← next
  let (unit, kind) ← match l.bind (·.token.keyword?) with
    | some "ROWS" => pure ("ROWS", "Rows")
    | some "RANGE" => pure ("RANGE", "Range")
    | some "GROUPS" => pure ("GROUPS", "Groups")
    | _ => expected "ROWS, RANGE, GROUPS" l
  if ← acceptWord "BETWEEN" then
    let start ← bound g operand
    expectWord "AND"
    let stop ← bound g operand
    return do
      let start ← start
      let stop ← stop
      return ⟨words (unit ++ " BETWEEN ") ++ start.written ++ words " AND " ++ stop.written,
        fields [("units", .text kind), ("start_bound", start.shape), ("end_bound", stop.shape)]⟩
  else
    let start ← bound g operand
    return do
      let start ← start
      return ⟨words (unit ++ " ") ++ start.written,
        fields [("units", .text kind), ("start_bound", start.shape), ("end_bound", .null)]⟩

/-- A window behind its opening parenthesis. -/
def windowSpec (g : Grammar) (operand : Parser Expr) : Parser (Draft Slot) := do
  let base ← match ← peek with
    | some ⟨.word text quote, _⟩ =>
      if (Token.word text quote).isKeyword then pure none else do pure (some (← ident))
    | _ => pure none
  let partitionBy ← do
    if ← acceptWords ["PARTITION", "BY"] then commaSeparated (g.expr 0) else pure []
  let orderBy ← optionalOrder g
  let frame ← do
    if ← acceptSign ")" then pure none
    else
      let f ← frame g operand
      expectSign ")"
      pure (some f)
  return do
    let partitionBy ← Draft.exprs partitionBy
    let orderBy ← Draft.orders orderBy
    let frame : Option Slot ← match frame with
      | none => pure none
      | some f => some <$> f
    let pieces := (base.map Ident.slot).toList ++
      (if partitionBy.isEmpty then []
        else [⟨commasBehind "PARTITION BY " partitionBy, .null⟩]) ++
      (if orderBy.isEmpty then [] else [⟨commasBehind "ORDER BY " orderBy, .null⟩]) ++
      frame.toList
    return ⟨words "(" ++ separated " " pieces ++ words ")",
      form "WindowSpec" [("window_name", identShape base),
        ("partition_by", listShape partitionBy), ("order_by", listShape orderBy),
        ("window_frame", optShape frame)]⟩

/-- A window that is called by its name. -/
def namedWindow (window : Ident) : Draft Slot :=
  return ⟨words window.toSql, .node "NamedWindow" (.ident window)⟩

/-- A window, if there is one. -/
def optionalWindow (g : Grammar) (operand : Parser Expr) : Parser (Option Phrase) := do
  if ← acceptWord "OVER" then
    if ← acceptSign "(" then return some (← windowSpec g operand).phrase
    else return some (namedWindow (← ident)).phrase
  else return none

/-- The order of the rows that a call collects, if there is one. -/
def optionalGroupOrder (g : Grammar) : Parser (Option Phrase) := do
  if ← acceptWords ["WITHIN", "GROUP"] then
    expectSign "("
    expectWords ["ORDER", "BY"]
    let items ← commaSeparated (orderItem g)
    expectSign ")"
    return some <| Draft.phrase do
      let items ← Draft.orders items
      return ⟨commasWithin "WITHIN GROUP (ORDER BY " ")" items, listShape items⟩
  else return none

/-- A call behind its opening parenthesis. -/
def call (g : Grammar) (operand : Parser Expr) (braced : Bool) (function : Name) :
    Parser Expr := do
  let first ← argList g
  let (parameters, args) ← do
    if ← acceptSign "(" then pure (some first, ← argList g) else pure (none, first)
  let withinGroup ← optionalGroupOrder g
  let nulls ← if treatsNulls args then pure none else nullTreatment
  let window ← optionalWindow g operand
  return .call function parameters args ⟨braced, nulls⟩ window withinGroup

/-- A call with its arguments and nothing else. -/
def plainCall (function : Name) (args : ArgList) : Expr :=
  .call function none args ⟨false, none⟩ none none

end SqlTemplate.Sql.Parser
