import SqlTemplate.Text.Location

/-!
# Diagnostics

What is reported about a text: a stable code, a severity, a message, and where known a place and
the name that it is about.
-/

namespace SqlTemplate

namespace Diagnostic

/-- The kinds of report. -/
inductive Code where
  | sqlParseError
  | macroArityMismatch
  | macroRenderError
  | cteInvalidPlaceholder
  | cteDuplicateName
  | requestInvalid
  | requestCancelled
deriving DecidableEq, Repr, Inhabited

namespace Code

/-- All codes, in the order in which messages list them. -/
def all : List Code :=
  [.sqlParseError, .macroArityMismatch, .macroRenderError, .cteInvalidPlaceholder,
    .cteDuplicateName, .requestInvalid, .requestCancelled]

/-- The stable name of a code. -/
def name : Code → String
  | .sqlParseError => "SQL_PARSE_ERROR"
  | .macroArityMismatch => "MACRO_ARITY_MISMATCH"
  | .macroRenderError => "MACRO_RENDER_ERROR"
  | .cteInvalidPlaceholder => "CTE_INVALID_PLACEHOLDER"
  | .cteDuplicateName => "CTE_DUPLICATE_NAME"
  | .requestInvalid => "REQUEST_INVALID"
  | .requestCancelled => "REQUEST_CANCELLED"

/-- The code of a name. -/
def ofName? (name : String) : Option Code := all.find? (·.name == name)

theorem ofName?_name (c : Code) : ofName? c.name = some c := by
  cases c <;> rfl

end Code

/-- How grave a report is. -/
inductive Severity where
  | info
  | warn
  | error
deriving DecidableEq, Repr, Inhabited

namespace Severity

/-- All severities, the least grave first. -/
def all : List Severity := [.info, .warn, .error]

/-- The name of a severity. -/
def name : Severity → String
  | .info => "info"
  | .warn => "warn"
  | .error => "error"

/-- The severity of a name. -/
def ofName? (name : String) : Option Severity := all.find? (·.name == name)

/-- The place of a severity in the order of gravity. -/
def rank : Severity → Nat
  | .info => 0
  | .warn => 1
  | .error => 2

theorem ofName?_name (s : Severity) : ofName? s.name = some s := by
  cases s <;> rfl

end Severity

end Diagnostic

/-- A report about a text. -/
structure Diagnostic where
  code : Diagnostic.Code
  severity : Diagnostic.Severity
  message : String
  location : Option Text.Location
  subject : Option String
deriving DecidableEq, Repr, Inhabited

end SqlTemplate
