import SqlTemplate.Text.Letter

/-!
# Dialects

The two kinds of SQL that are read and written, and how their words and text literals differ.
-/

namespace SqlTemplate

/-- A kind of SQL. -/
inductive Dialect where
  | clickHouse
  | generic
deriving DecidableEq, Repr, Inhabited

namespace Dialect

/-- The name of a dialect in settings. -/
def name : Dialect → String
  | .clickHouse => "clickhouse"
  | .generic => "generic"

/-- The dialect of a name. -/
def ofName? (name : String) : Option Dialect :=
  [clickHouse, generic].find? (·.name == name)

/-- A character that can start a word. -/
def isWordStart (dialect : Dialect) (c : Char) : Bool :=
  match dialect with
  | .clickHouse => c.isAlpha || c == '_'
  | .generic => Text.isLetter c || c == '_' || c == '#' || c == '@'

/-- A character that can go on a word. -/
def isWordPart (dialect : Dialect) (c : Char) : Bool :=
  match dialect with
  | .clickHouse => c.isAlphanum || c == '_'
  | .generic => Text.isLetter c || c.isDigit || c == '@' || c == '$' || c == '#' || c == '_'

/-- Whether a backslash takes the next character along in a text literal. -/
def hasBackslashEscapes : Dialect → Bool
  | .clickHouse => true
  | .generic => false

theorem ofName?_name (d : Dialect) : ofName? d.name = some d := by
  cases d <;> rfl

end Dialect

end SqlTemplate
