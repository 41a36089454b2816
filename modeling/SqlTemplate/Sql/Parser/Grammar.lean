import SqlTemplate.Sql.Parser.Basic

/-!
# Grammars

What is nested inside other syntax is read by a `Grammar`, each use of which goes one level deeper.
-/

namespace SqlTemplate.Sql

/-- The parsers for what can be nested to any depth. -/
structure Grammar where
  dialect : Dialect
  /-- Whether rows are being tied to one another, where `PRIOR` is an operator. -/
  connecting : Bool
  /-- An expression whose operators are all above a level. -/
  expr : (level : Nat) → Parser Expr
  /-- An expression that ties rows to one another. -/
  relating : Parser Expr
  query : Parser Query
  statement : Parser Statement

/-- Whether the dialect is the generic one. -/
def Grammar.isGeneric (g : Grammar) : Bool := g.dialect == .generic

end SqlTemplate.Sql
