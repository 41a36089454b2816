import SqlTemplate.Diagnostic
import SqlTemplate.Sql.Parser.Statement

/-!
# Reading a text

A text is read as statements or as one expression. An error has a message and a place; at the end
of the text the place is behind the last token.

* `parseStatements`, `parseExpr` read a text.
* `splitPosition` takes the place off a report that ends in one.
-/

namespace SqlTemplate.Sql

/-- Why a text cannot be read. -/
structure ParseError where
  message : String
  location : Option Text.Location
deriving DecidableEq, Repr, Inhabited

/-- Why work on a text failed: with an error, or for a text that the reader gives up on. -/
inductive Failure (ε : Type) where
  | error (e : ε)
  | fatal (text : String)
deriving DecidableEq, Repr, Inhabited

/-- The failure with another error. -/
def Failure.map {ε ε' : Type} (f : ε → ε') : Failure ε → Failure ε'
  | .error e => .error (f e)
  | .fatal text => .fatal text

namespace ParseError

/-- The error as `line L:C message`, with line and column from 0. -/
def display (e : ParseError) : String :=
  match e.location with
  | some at_ =>
    "line " ++ toString (at_.line - 1) ++ ":" ++ toString (at_.column - 1) ++ " " ++ e.message
  | none => e.message

/-- The error as a report. -/
def diagnostic (e : ParseError) : Diagnostic :=
  { code := .sqlParseError, severity := .error,
    message := "Failed to parse SQL: " ++ e.message, location := e.location, subject := none }

end ParseError

/-- The largest line or column of a report. -/
def maxPosition : Nat := 18446744073709551615

/-- The number that decimal digits spell, unless some digit is not ASCII or the number is too
large. -/
def positionNumber? (digits : List Char) : Option Nat :=
  if digits.all Char.isDigit then
    let n := digits.foldl (fun n d => 10 * n + (d.toNat - 48)) 0
    if n ≤ maxPosition then some n else none
  else none

/-- The digits at the end of a reversed text, in their order, and what stands before them, still
reversed; none if there is no digit. -/
def lastDigits? (reversed : List Char) : Option (List Char × List Char) :=
  let digits := reversed.takeWhile Text.isDecimalDigit
  if digits.isEmpty then none else some (digits.reverse, reversed.dropWhile Text.isDecimalDigit)

/-- Takes the suffix ` at Line: L, Column: C` off a report: the message before it, and the place if
it is one. A report without such a suffix is all message. -/
def splitPosition (report : String) : String × Option Text.Location :=
  let split := do
    let (column, rest) ← lastDigits? (report.toList.reverse.dropWhile Text.isBlank)
    let rest ← dropStart? ", Column: ".toList.reverse rest
    let (line, rest) ← lastDigits? rest
    let rest ← dropStart? "at Line: ".toList.reverse rest
    return (line, column, (rest.dropWhile Text.isBlank).reverse)
  match split with
  | none => (report, none)
  | some (line, column, message) =>
    (String.ofList message,
      match positionNumber? line, positionNumber? column with
      | some l, some c => if 0 < l then some ⟨l, c⟩ else none
      | _, _ => none)

/-- A fault as one text, with the place as a suffix. -/
def Fault.report : Fault → String
  | .rejected message location => message ++ (location.map Parser.positionSuffix).getD ""
  | .tooDeep => "recursion limit exceeded"
  | .fatal text => text

/-- The place behind the last token. -/
def endLocation (tokens : List Lexeme) : Option Text.Location :=
  tokens.getLast?.map (·.span.stop)

/-- What a fault in some tokens says about their text. -/
def Fault.failure (tokens : List Lexeme) : Fault → Failure ParseError
  | .fatal text => .fatal text
  | fault =>
    let (message, location) := splitPosition fault.report
    .error { message, location := location.or (endLocation tokens) }

/-- The tokens of a text, or why it has none. -/
def tokensOf (dialect : Dialect) (text : String) :
    Except (Failure ParseError) (List Lexeme) :=
  match lexemes dialect text with
  | .ok tokens => .ok tokens
  | .error (e, location) => .error (.error { message := e.message, location := some location })

/-- Reads a text as statements. -/
def parseStatements (dialect : Dialect) (text : String) :
    Except (Failure ParseError) (List Statement) := do
  let tokens ← tokensOf dialect text
  match Parser.statements (grammar dialect maxDepth).statement (2 * tokens.length + 1) false tokens
    with
  | .ok (statements, _) => .ok statements
  | .error fault => .error (fault.failure tokens)

/-- Reads a text as one expression. -/
def parseExpr (dialect : Dialect) (text : String) : Except (Failure ParseError) Expr := do
  let tokens ← tokensOf dialect text
  match (grammar dialect maxDepth).expr 0 tokens with
  | .ok (e, []) => .ok e
  | .ok (_, l :: _) =>
    .error (.error
      { message := "Expected: end of expression, found: " ++ l.token.display,
        location := some l.span.start })
  | .error fault => .error (fault.failure tokens)

end SqlTemplate.Sql
