import SqlTemplate.Dialect
import SqlTemplate.Time.Duration
import SqlTemplate.Toml.Document

/-!
# Settings

What can be set in a file: the dialect, the unit of rounding where a request names none, the time
that a request may take, and what is logged. A file names only what it changes.

* `Settings.parse` reads a file.
* `Settings.effectiveRound` is the unit of rounding of a request.
-/

namespace SqlTemplate

/-- The settings of the program. -/
structure Settings where
  dialect : Dialect
  defaultRound : String
  timeoutMillis : Nat
  logFilter : String
deriving DecidableEq, Repr

namespace Settings

/-- The settings without a file. -/
def default : Settings where
  dialect := .clickHouse
  defaultRound := ""
  timeoutMillis := 30000
  logFilter := "info"

instance : Inhabited Settings := ⟨default⟩

/-- Why there are no settings. -/
inductive Error where
  | unreadable (reason : String)
  | malformed
  | invalidRound (e : Time.Duration.Error)
deriving DecidableEq, Repr

/-- The wording of an error. -/
def Error.message : Error → String
  | .unreadable reason => "IO error: " ++ reason
  | .malformed => "Parse error: invalid settings"
  | .invalidRound e => "Invalid default_round: " ++ e.message

/-- A setting that is a text. -/
def text? : Toml.Item → Option String
  | .string text => some text
  | _ => none

/-- A setting that is a whole number from 0. -/
def nat? : Toml.Item → Option Nat
  | .integer (.ofNat n) => some n
  | _ => none

/-- Whether an item holds nothing. -/
def isEmptyItem : Toml.Item → Bool
  | .array items => items.isEmpty
  | .table _ members => members.isEmpty
  | .tables tables => tables.isEmpty
  | _ => false

/-- A dialect: its name, or a table whose only key is its name and holds nothing. -/
def dialect? : Toml.Item → Option Dialect
  | .string name => Dialect.ofName? name
  | .table _ [(name, item)] => if isEmptyItem item then Dialect.ofName? name else none
  | _ => none

/-- The setting of a name, or what it is without one. -/
def setting {α : Type} (t : Toml.Table) (name : String) (read : Toml.Item → Option α)
    (without : α) : Option α :=
  match t.get? name with
  | none => some without
  | some item => read item

/-- The settings in a table; names that are no settings do not count. -/
def ofTable? (t : Toml.Table) : Option Settings := do
  let dialect ← setting t "dialect" dialect? default.dialect
  let defaultRound ← setting t "default_round" text? default.defaultRound
  let timeoutMillis ← setting t "request_timeout_ms" nat? default.timeoutMillis
  let logFilter ← setting t "log_filter" text? default.logFilter
  return { dialect, defaultRound, timeoutMillis, logFilter }

/-- The settings of a file. -/
def parse (text : String) : Except Error Settings :=
  match (Toml.parse text).bind ofTable? with
  | none => .error .malformed
  | some settings =>
    match Time.Duration.parse settings.defaultRound with
    | .ok _ => .ok settings
    | .error e => .error (.invalidRound e)

/-- The unit of rounding of a request: its own, or the default one if it names none. -/
def effectiveRound (s : Settings) (requested : String) :
    Except Time.Duration.Error Time.Duration :=
  Time.Duration.parse (if Text.isBlankText requested then s.defaultRound else requested)

end Settings

end SqlTemplate
