import SqlTemplate.Sql.Parser.Expr

/-!
# Reading patterns of rows

A relation can be searched for rows that follow a pattern. A pattern is a regular expression over
symbols, each of which is defined by a condition on a row.

* `rowPattern` reads a pattern, `RowPattern.toSql` writes it.
* `patternSearch` reads a search, with what it says besides its pattern.
-/

namespace SqlTemplate.Sql

/-- How often a pattern is repeated. -/
inductive Quantifier where
  | zeroOrMore
  | oneOrMore
  | atMostOne
  | exactly (n : Nat)
  | atLeast (n : Nat)
  | atMost (n : Nat)
  | range (low high : Nat)
deriving DecidableEq, Repr

/-- A quantifier as written behind its pattern. -/
def Quantifier.toSql : Quantifier → String
  | .zeroOrMore => "*"
  | .oneOrMore => "+"
  | .atMostOne => "?"
  | .exactly n => "\x7b" ++ toString n ++ "\x7d"
  | .atLeast n => "\x7b" ++ toString n ++ ",\x7d"
  | .atMost n => "\x7b," ++ toString n ++ "\x7d"
  | .range low high => "\x7b" ++ toString low ++ "," ++ toString high ++ "\x7d"

/-- A quantifier in a tree. -/
def Quantifier.shape : Quantifier → Shape
  | .zeroOrMore => .text "ZeroOrMore"
  | .oneOrMore => .text "OneOrMore"
  | .atMostOne => .text "AtMostOne"
  | .exactly n => .node "Exactly" (.number n)
  | .atLeast n => .node "AtLeast" (.number n)
  | .atMost n => .node "AtMost" (.number n)
  | .range low high => .node "Range" (.list [.number low, .number high])

/-- A pattern of rows. -/
inductive RowPattern where
  /-- A row that a symbol stands for. -/
  | row (symbol : Ident)
  /-- The place before the first row. -/
  | start
  /-- The place behind the last row. -/
  | stop
  /-- A row that is matched but left out. -/
  | excluded (symbol : Ident)
  /-- Some rows in any order. -/
  | permuted (symbols : List Ident)
  | sequence (patterns : List RowPattern)
  | group (pattern : RowPattern)
  | choice (patterns : List RowPattern)
  | repeated (pattern : RowPattern) (quantifier : Quantifier)

namespace RowPattern

/-- The symbol of a row in a tree. -/
def rowShape (symbol : Ident) : Shape := .node "Named" (.ident symbol)

mutual

/-- A pattern as written. -/
def toSql : RowPattern → String
  | .row symbol => symbol.toSql
  | .start => "^"
  | .stop => "$"
  | .excluded symbol => "\x7b- " ++ symbol.toSql ++ " -\x7d"
  | .permuted symbols => "PERMUTE(" ++ identsText symbols ++ ")"
  | .sequence patterns => String.intercalate " " (texts patterns)
  | .group pattern => "( " ++ pattern.toSql ++ " )"
  | .choice patterns => String.intercalate " | " (texts patterns)
  | .repeated pattern quantifier => pattern.toSql ++ quantifier.toSql

/-- Patterns of a list. -/
def texts : List RowPattern → List String
  | [] => []
  | p :: ps => p.toSql :: texts ps

end

mutual

/-- A pattern in a tree. -/
def shape : RowPattern → Shape
  | .row symbol => .node "Symbol" (rowShape symbol)
  | .start => .node "Symbol" (.text "Start")
  | .stop => .node "Symbol" (.text "End")
  | .excluded symbol => .node "Exclude" (rowShape symbol)
  | .permuted symbols => .node "Permute" (.list (symbols.map rowShape))
  | .sequence patterns => .node "Concat" (.list (shapes patterns))
  | .group pattern => .node "Group" pattern.shape
  | .choice patterns => .node "Alternation" (.list (shapes patterns))
  | .repeated pattern quantifier => .node "Repetition" (.list [pattern.shape, quantifier.shape])

/-- Patterns of a list in a tree. -/
def shapes : List RowPattern → List Shape
  | [] => []
  | p :: ps => p.shape :: shapes ps

end

end RowPattern

namespace Parser

/-- A pattern without quantifiers and choices, given how to read one between parentheses. -/
def basePattern (inner : Parser RowPattern) : Parser RowPattern := do
  match ← peek with
  | some ⟨.sign "^", _⟩ =>
    let _ ← next
    return .start
  | some ⟨.placeholder "$", _⟩ =>
    let _ ← next
    return .stop
  | some ⟨.sign "\x7b", _⟩ =>
    let _ ← next
    expectSign "-"
    let symbol ← ident
    expectSign "-"
    expectSign "\x7d"
    return .excluded symbol
  | some ⟨.word "PERMUTE" none, _⟩ =>
    let _ ← next
    return .permuted (← inParens (commaSeparated ident))
  | some ⟨.sign "(", _⟩ => return .group (← inParens inner)
  | _ => return .row (← ident)

/-- The bounds of a quantifier behind its opening brace. -/
def quantifierRange : Parser Quantifier := do
  let l ← next
  match l with
  | some ⟨.sign ",", _⟩ =>
    let upper ← next
    match upper with
    | some ⟨.number high _, _⟩ =>
      expectSign "\x7d"
      return .atMost (← numberOf .bits32 high l)
    | _ => expected "literal number" upper
  | some ⟨.number low _, _⟩ =>
    if ← acceptSign "," then
      let upper ← next
      match upper with
      | some ⟨.number high _, _⟩ =>
        expectSign "\x7d"
        return .range (← numberOf .bits32 low l) (← numberOf .bits32 high l)
      | some ⟨.sign "\x7d", _⟩ => return .atLeast (← numberOf .bits32 low l)
      | _ => expected "\x7d or upper bound" upper
    else
      expectSign "\x7d"
      return .exactly (← numberOf .bits32 low l)
  | _ => expected "quantifier range" l

/-- A quantifier, if one comes next. -/
def quantifier? : Parser (Option Quantifier) := do
  match ← peek with
  | some ⟨.sign "*", _⟩ =>
    let _ ← next
    return some .zeroOrMore
  | some ⟨.sign "+", _⟩ =>
    let _ ← next
    return some .oneOrMore
  | some ⟨.placeholder "?", _⟩ =>
    let _ ← next
    return some .atMostOne
  | some ⟨.sign "\x7b", _⟩ =>
    let _ ← next
    return some (← quantifierRange)
  | _ => return none

/-- The quantifiers behind a pattern, at most `fuel` of them. -/
def quantified : (fuel : Nat) → RowPattern → Parser RowPattern
  | 0, p => return p
  | fuel + 1, p => do
    match ← quantifier? with
    | some q => quantified fuel (.repeated p q)
    | none => return p

/-- Patterns one after the other, up to a closing parenthesis or a bar. -/
def sequenceFrom (inner : Parser RowPattern) : (fuel : Nat) → Parser (List RowPattern)
  | 0 => return []
  | fuel + 1 => do
    let p ← basePattern inner
    let p ← quantified (← remaining) p
    let l ← peek
    if isSign ")" l || isSign "|" l then return [p] else return p :: (← sequenceFrom inner fuel)

/-- A pattern of one or more patterns one after the other. -/
def sequencePattern (inner : Parser RowPattern) : Parser RowPattern := do
  match ← sequenceFrom inner ((← remaining) + 1) with
  | [p] => return p
  | ps => return .sequence ps

/-- A pattern, with at most `fuel` bars and parentheses inside one another. The choices that follow
one another are one choice. -/
def patternAt : (fuel : Nat) → Parser RowPattern
  | 0 => expectedNext "identifier"
  | fuel + 1 => do
    let first ← sequencePattern (patternAt fuel)
    if ← acceptSign "|" then
      match ← patternAt fuel with
      | .choice more => return .choice (first :: more)
      | second => return .choice [first, second]
    else return first

/-- A pattern. -/
def rowPattern : Parser RowPattern := do patternAt ((← remaining) + 1)

/-- Which rows a search yields for a match, if it is said. -/
def rowsPerMatch : Parser (Option Wording) := do
  if ← acceptWords ["ONE", "ROW", "PER", "MATCH"] then
    return some ⟨"ONE ROW PER MATCH", .text "OneRow"⟩
  else if ← acceptWords ["ALL", "ROWS", "PER", "MATCH"] then
    let mode ← acceptFirst [(["SHOW", "EMPTY", "MATCHES"], "Show"),
      (["OMIT", "EMPTY", "MATCHES"], "Omit"), (["WITH", "UNMATCHED", "ROWS"], "WithUnmatched")]
    let modeText := mode.map fun (keywords, _) => String.intercalate " " keywords
    return some ⟨"ALL ROWS PER MATCH" ++ withLead " " modeText,
      .node "AllRows" (textShape (mode.map Prod.snd))⟩
  else return none

/-- Where a search goes on behind a match. -/
def matchSkip : Parser Wording := do
  if ← acceptWords ["PAST", "LAST", "ROW"] then return ⟨"PAST LAST ROW", .text "PastLastRow"⟩
  else if ← acceptWords ["TO", "NEXT", "ROW"] then return ⟨" TO NEXT ROW", .text "ToNextRow"⟩
  else if ← acceptWords ["TO", "FIRST"] then
    let symbol ← ident
    return ⟨"TO FIRST " ++ symbol.toSql, .node "ToFirst" (.ident symbol)⟩
  else if ← acceptWords ["TO", "LAST"] then
    let symbol ← ident
    return ⟨"TO LAST " ++ symbol.toSql, .node "ToLast" (.ident symbol)⟩
  else expected "after match skip option" (← next)

/-- A value computed for a match, and its name. -/
def measure (g : Grammar) : Parser (Expr × Ident) := do
  let e ← g.expr 0
  let _ ← acceptWord "AS"
  return (e, ← ident)

/-- A symbol and the condition that defines it. -/
def symbolDefinition (g : Grammar) : Parser (Ident × Expr) := do
  let symbol ← ident
  expectWord "AS"
  return (symbol, ← g.expr 0)

/-- A relation searched for a pattern of rows, behind the keyword. -/
def patternSearch (g : Grammar) (table : Relation) : Parser Relation := do
  expectSign "("
  let partitionBy ← do
    if ← acceptWords ["PARTITION", "BY"] then commaSeparated (g.expr 0) else pure []
  let orderBy ← optionalOrder g
  let measures ← optionalClause "MEASURES" (commaSeparated (measure g))
  let rows ← rowsPerMatch
  let skip ← do
    if ← acceptWords ["AFTER", "MATCH", "SKIP"] then pure (some (← matchSkip)) else pure none
  expectWord "PATTERN"
  let pattern ← inParens rowPattern
  expectWord "DEFINE"
  let symbols ← commaSeparated (symbolDefinition g)
  expectSign ")"
  let phrase := Draft.phrase do
    let table ← Draft.part (.relation table)
    let partitionBy ← Draft.exprs partitionBy
    let orderBy ← Draft.orders orderBy
    let measures : List Slot ← (measures.getD []).mapM fun (e, label) => do
      let e ← Draft.expr e
      return ⟨e.written ++ words (" AS " ++ label.toSql),
        fields [("expr", e.shape), ("alias", .ident label)]⟩
    let symbols : List Slot ← symbols.mapM fun (symbol, e) => do
      let e ← Draft.expr e
      return ⟨words (symbol.toSql ++ " AS ") ++ e.written,
        fields [("symbol", .ident symbol), ("definition", e.shape)]⟩
    return ⟨table.written ++ words " MATCH_RECOGNIZE(" ++
        commasWithin "PARTITION BY " " " partitionBy ++ commasWithin "ORDER BY " " " orderBy ++
        commasWithin "MEASURES " " " measures ++
        words ((rows.map fun w => w.text ++ " ").getD "") ++
        words ((skip.map fun w => "AFTER MATCH SKIP " ++ w.text ++ " ").getD "") ++
        words ("PATTERN (" ++ pattern.toSql ++ ") DEFINE ") ++ commas symbols ++ words ")" ++
        [.label],
      form "MatchRecognize" [("table", table.shape), ("partition_by", listShape partitionBy),
        ("order_by", listShape orderBy), ("measures", listShape measures),
        ("rows_per_match", (rows.map Wording.shape).getD .null),
        ("after_match_skip", (skip.map Wording.shape).getD .null), ("pattern", pattern.shape),
        ("symbols", listShape symbols), ("alias", .label)]⟩
  return .phrase phrase (← tableAlias g)

end Parser

end SqlTemplate.Sql
