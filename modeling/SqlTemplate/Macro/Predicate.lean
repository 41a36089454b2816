import SqlTemplate.Dialect
import SqlTemplate.Filter
import SqlTemplate.Sql.Keyword
import SqlTemplate.Sql.Quoted

/-!
# Filters as predicates

A filter becomes a comparison of a column with text literals. Values are quoted so that they cannot
end their literal; a key stands as it is if it reads as a column, and in quotes otherwise.

* `Macro.stringLiteral` quotes a value, `Macro.quoteKey` a key.
* `Macro.filterPredicate` is the predicate of one filter, `Macro.filtersPredicate` that of a list.
-/

namespace SqlTemplate.Macro

/-- Why a macro stands for nothing. -/
inductive RenderError where
  | missingArgument (index : Nat)
  | emptyFilterKey
  | notExpandable
deriving DecidableEq, Repr, Inhabited

/-- The wording of an error. -/
def RenderError.message : RenderError → String
  | .missingArgument index => "missing argument " ++ toString index
  | .emptyFilterKey => "ad-hoc filter has an empty key"
  | .notExpandable => "CTE placeholders are not expression macros"

/-- A character of a text literal: a quote is doubled, and a backslash too where it would take the
next character along. -/
def literalChar (dialect : Dialect) (c : Char) : List Char :=
  if c = '\'' then [c, c]
  else if c = '\\' ∧ dialect.hasBackslashEscapes then [c, c]
  else [c]

/-- A value as a text literal. -/
def stringLiteral (dialect : Dialect) (value : String) : String :=
  String.ofList ('\'' :: value.toList.flatMap (literalChar dialect) ++ ['\''])

/-- The parts of a key between its dots. -/
def keyParts : List Char → List (List Char)
  | [] => [[]]
  | c :: cs =>
    match c, keyParts cs with
    | '.', parts => [] :: parts
    | c, part :: parts => (c :: part) :: parts
    | c, [] => [[c]]

/-- The keywords that have a meaning of their own inside an expression. -/
def expressionKeywords : List String :=
  ["AND", "OR", "NOT", "NULL", "TRUE", "FALSE", "IS", "IN", "LIKE", "BETWEEN", "CASE", "WHEN",
    "THEN", "ELSE", "EXISTS", "INTERVAL", "CAST"]

/-- Whether a word has a meaning of its own where a column is expected. -/
def isReserved (word : String) : Bool :=
  let keyword := Text.upper word
  Sql.reservedForColumnAlias.contains keyword || expressionKeywords.contains keyword

/-- A word of ASCII letters, digits and underscores that does not start with a digit. -/
def isPlainWord : List Char → Bool
  | [] => false
  | c :: cs => (c.isAlpha || c == '_') && cs.all fun d => d.isAlphanum || d == '_'

/-- Whether a key reads as a column, with or without qualifiers. -/
def isPlainKey (key : String) : Bool :=
  let parts := keyParts key.toList
  parts.all isPlainWord && parts.all fun part => !isReserved (String.ofList part)

/-- The quote around a name. -/
def nameQuote : Dialect → Char
  | .clickHouse => '\x60'
  | .generic => '"'

/-- A key as a column, in quotes unless it reads as one. -/
def quoteKey (dialect : Dialect) (key : String) : Except RenderError String :=
  if key.isEmpty then .error .emptyFilterKey
  else if isPlainKey key then .ok key
  else
    let quote := nameQuote dialect
    .ok (String.ofList (quote :: Sql.doubleQuotes quote key.toList ++ [quote]))

/-- The function that matches a text with a pattern. -/
def matchFunction : Dialect → String
  | .clickHouse => "match"
  | .generic => "REGEXP_LIKE"

/-- The predicate of a filter on a column that has been quoted. -/
def columnPredicate (dialect : Dialect) (key : String) (f : Filter) : String :=
  let negation := if f.operator.isNegated then "NOT " else ""
  let comparison := key ++ " " ++ f.operator.symbol ++ " "
  match f.operator with
  | .equal | .notEqual =>
    if f.value = Filter.nullMark then key ++ " IS " ++ negation ++ "NULL"
    else if f.value = Filter.emptyMark then comparison ++ "''"
    else comparison ++ stringLiteral dialect f.value
  | .regexMatch | .regexNotMatch =>
    negation ++ matchFunction dialect ++ "(" ++ key ++ ", " ++ stringLiteral dialect f.value ++ ")"
  | .oneOf | .notOneOf =>
    key ++ " " ++ negation ++ "IN (" ++
      String.intercalate ", " (f.operands.map (stringLiteral dialect)) ++ ")"
  | .less | .greater | .lessOrEqual | .greaterOrEqual =>
    comparison ++ stringLiteral dialect f.value

/-- The predicate of a filter. -/
def filterPredicate (dialect : Dialect) (f : Filter) : Except RenderError String := do
  let key ← quoteKey dialect f.key
  return columnPredicate dialect key f

/-- The predicate that all filters hold; true of every row if there are none. -/
def filtersPredicate (dialect : Dialect) : List Filter → Except RenderError String
  | [] => .ok "1 = 1"
  | filters => do
    let conjuncts ← filters.mapM (filterPredicate dialect)
    return "(" ++ String.intercalate " AND " conjuncts ++ ")"

end SqlTemplate.Macro
