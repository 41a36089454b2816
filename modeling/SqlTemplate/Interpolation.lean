import SqlTemplate.Cancellation
import SqlTemplate.Macro.Extraction
import SqlTemplate.Macro.Fragment
import SqlTemplate.Sql.Document

/-!
# Interpolation

A template is read, the time range of the request is rounded, every macro call is replaced by what
it stands for, the inner ones first, and the statements are written again. Work is polled before
the template is read, before each statement, and before the statements are written.

* `expand` is the expression that a macro stands for.
* `expandStatements` replaces the macro calls of statements.
* `interpolateStatements`, `interpolate` give the text.
-/

namespace SqlTemplate

open Sql

/-- Why a template cannot be expanded. -/
inductive Error where
  | parse (e : ParseError)
  /-- A macro was called in a way that the catalog does not know. -/
  | badCall (name message : String) (location : Option Text.Location)
  /-- A macro stands for nothing that could be read as an expression. -/
  | badExpansion (name message : String) (location : Option Text.Location)
  | badPlaceholder (name message : String) (location : Option Text.Location)
  | range (e : Time.Range.Error)
  | cancelled (reason : Cancelled)
deriving DecidableEq, Repr

namespace Error

/-- The kinds of error. -/
inductive Kind where
  | parse
  | interpolation
  | placeholder
  | request
  | cancelled
deriving DecidableEq, Repr, Inhabited

/-- The kind of an error. -/
def kind : Error → Kind
  | .parse _ => .parse
  | .badCall _ _ _ | .badExpansion _ _ _ => .interpolation
  | .badPlaceholder _ _ _ => .placeholder
  | .range _ => .request
  | .cancelled _ => .cancelled

/-- The wording of an error. -/
def message : Error → String
  | .parse e => e.display
  | .badCall name message _ | .badExpansion name message _ =>
    "failed to interpolate " ++ name ++ ": " ++ message
  | .badPlaceholder name message _ => "invalid CTE placeholder " ++ name ++ ": " ++ message
  | .range e => e.message
  | .cancelled reason => reason.message

/-- Where an error was found. -/
def location : Error → Option Text.Location
  | .parse e => e.location
  | .badCall _ _ location | .badExpansion _ _ location | .badPlaceholder _ _ location => location
  | .range _ | .cancelled _ => none

/-- An error as a report with a code, and with the name that it is about. -/
def report (e : Error) (code : Diagnostic.Code) (subject : Option String) : Diagnostic :=
  { code, severity := .error, message := e.message, location := e.location, subject }

/-- An error as a report. -/
def diagnostic (e : Error) : Diagnostic :=
  match e with
  | .parse p => p.diagnostic
  | .badCall name _ _ => e.report .macroArityMismatch (some name)
  | .badExpansion name _ _ => e.report .macroRenderError (some name)
  | .badPlaceholder name _ _ => e.report .cteInvalidPlaceholder (some name)
  | .range _ => e.report .requestInvalid none
  | .cancelled _ => e.report .requestCancelled none

/-- The error of a macro that cannot stand as it was written. -/
def ofShape (e : Macro.ShapeError) : Error :=
  match e.target with
  | .call => .badCall e.name e.message e.location
  | .cte => .badPlaceholder e.name e.message e.location

end Error

/-- What comes of work on a template. -/
abbrev Outcome := Except (Failure Error)

/-- An outcome whose error is of another kind. -/
def Outcome.lift {ε α : Type} (f : ε → Error) : Except ε α → Outcome α
  | .ok a => .ok a
  | .error e => .error (.error (f e))

/-- What comes of reading a text. -/
def Outcome.ofParse {α : Type} : Except (Failure ParseError) α → Outcome α
  | .ok a => .ok a
  | .error f => .error (f.map .parse)

/-- The expression that a macro stands for. -/
def expand (dialect : Dialect) (request : Request) (i : Macro.Invocation) : Outcome Expr :=
  let fail (message : String) : Outcome Expr :=
    .error (.error (.badExpansion i.name message i.location))
  match Macro.render dialect i request with
  | .error e => fail e.message
  | .ok (.expr e) => .ok e
  | .ok (.sql text) =>
    match parseExpr dialect text with
    | .ok e => .ok e
    | .error (.fatal report) => .error (.fatal report)
    | .error (.error e) =>
      fail ("rendered `" ++ text ++ "` is not a valid expression: " ++ e.message)

/-- The visitor that expands macro calls and leaves placeholders as they are. -/
def expander (dialect : Dialect) (request : Request) : Macro.Visitor Outcome where
  call invocation _ := expand dialect request invocation
  cte _ := pure ()
  malformed e := if e.target = .call then .error (.error (.ofShape e)) else pure ()

/-- The polls after the first one. -/
def Polls.rest (polls : Polls) : Polls := fun n => polls (n + 1)

/-- Asks whether work may go on. -/
def Polls.ask (polls : Polls) : Outcome Unit := Outcome.lift .cancelled (polls 0)

/-- Expands the macro calls of statements, with a poll before each and one at the end. -/
def expandStatements (dialect : Dialect) (request : Request) :
    Polls → List Statement → Outcome (List Statement)
  | polls, [] => do
    polls.ask
    return []
  | polls, s :: ss => do
    polls.ask
    let s ← Macro.walkStatement (expander dialect request) s
    let ss ← expandStatements dialect request polls.rest ss
    return s :: ss

/-- The request with its range rounded. -/
def Request.rounded (request : Request) : Outcome Request := do
  let range ← Outcome.lift .range (request.range.round request.round)
  return { request with range }

/-- The statements of a template with their macro calls expanded. -/
def expandRounded (dialect : Dialect) (request : Request) (polls : Polls)
    (statements : List Statement) : Outcome (List Statement) := do
  let request ← request.rounded
  expandStatements dialect request polls statements

/-- The text of a template that has been read. -/
def interpolateStatements (dialect : Dialect) (request : Request) (polls : Polls)
    (statements : List Statement) : Outcome String := do
  let statements ← expandRounded dialect request polls statements
  return renderStatements statements

/-- The text of a template. -/
def interpolate (dialect : Dialect) (request : Request) (polls : Polls) (template : String) :
    Outcome String := do
  polls.ask
  let statements ← Outcome.ofParse (parseStatements dialect template)
  interpolateStatements dialect request polls.rest statements

/-- The placeholders of statements. -/
def extractPlaceholders (source : Option String) (statements : List Statement) :
    Outcome Macro.Extraction :=
  Outcome.lift .ofShape (Macro.extract source statements)

end SqlTemplate
