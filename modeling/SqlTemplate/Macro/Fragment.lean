import SqlTemplate.Macro.Predicate
import SqlTemplate.Macro.Site
import SqlTemplate.Request

/-!
# Fragments

What a macro stands for in a dialect: a text to be read as an expression, or one of its arguments.

* `Macro.render` is the fragment of an invocation.
* `Macro.roundUnit?` is the unit in which rounding is written.
-/

namespace SqlTemplate.Macro

open Sql Time

/-- What stands in the place of a macro. -/
inductive Fragment where
  | sql (text : String)
  | expr (expr : Expr)

/-- A fragment as text. -/
def Fragment.text : Fragment → String
  | .sql text => text
  | .expr e => e.toSql

/-- An argument by its place from 0. -/
def Invocation.arg (i : Invocation) (index : Nat) : Except RenderError Expr :=
  match i.args[index]? with
  | some e => .ok e
  | none => .error (.missingArgument (index + 1))

/-- Whether an expression is one term, so that no sign beside it can reach into it. -/
def isTerm : Expr → Bool
  | .ident _ | .compound _ | .literal _ | .nested _ => true
  | .bareCall _ | .queryCall _ _ | .call .. => true
  | _ => false

/-- An expression beside a sign, in parentheses unless it is one term. -/
def operandText (e : Expr) : String :=
  if isTerm e then e.toSql else "(" ++ e.toSql ++ ")"

/-- A time of the day to some precision. -/
def timeText (precision : Precision) (t : Instant) : String :=
  match precision with
  | .seconds => t.secondsText
  | .millis => t.millisText

/-- A time as a literal. -/
def timestampLiteral (dialect : Dialect) (precision : Precision) (t : Instant) : String :=
  match dialect with
  | .clickHouse => "'" ++ timeText precision t ++ "'"
  | .generic => "TIMESTAMP '" ++ timeText precision t ++ "'"

@[simp] theorem timestampLiteral_clickHouse (precision : Precision) (t : Instant) :
    timestampLiteral .clickHouse precision t = "'" ++ timeText precision t ++ "'" := rfl

@[simp] theorem timestampLiteral_generic (precision : Precision) (t : Instant) :
    timestampLiteral .generic precision t = "TIMESTAMP '" ++ timeText precision t ++ "'" := rfl

/-- A day as a literal. -/
def dateLiteral (dialect : Dialect) (t : Instant) : String :=
  match dialect with
  | .clickHouse => "'" ++ t.date.display ++ "'"
  | .generic => "DATE '" ++ t.date.display ++ "'"

/-- A time as a value of its own. -/
def timeValue (dialect : Dialect) (precision : Precision) (t : Instant) : String :=
  match dialect, precision with
  | .clickHouse, .seconds => "toDateTime('" ++ t.secondsText ++ "')"
  | .clickHouse, .millis => "toDateTime64('" ++ t.millisText ++ "', 3)"
  | .generic, _ => timestampLiteral .generic precision t

@[simp] theorem timeValue_seconds (t : Instant) :
    timeValue .clickHouse .seconds t = "toDateTime('" ++ t.secondsText ++ "')" := rfl

@[simp] theorem timeValue_millis (t : Instant) :
    timeValue .clickHouse .millis t = "toDateTime64('" ++ t.millisText ++ "', 3)" := rfl

@[simp] theorem timeValue_generic (precision : Precision) (t : Instant) :
    timeValue .generic precision t = timestampLiteral .generic precision t := rfl

/-- That a column lies between two literals. -/
def betweenText (column lower upper : String) : String :=
  column ++ " >= " ++ lower ++ " AND " ++ column ++ " <= " ++ upper

/-- The start of the interval of a given width in which a value lies, counted from 1970. -/
def dateBin (count : Nat) (unit value : String) : String :=
  "date_bin(INTERVAL '" ++ toString count ++ " " ++ unit ++ "', " ++ value ++
    ", TIMESTAMP '1970-01-01 00:00:00')"

/-- What a macro about the time range stands for. -/
def timeFilterText (dialect : Dialect) (i : Invocation) (range : Time.Range) :
    TimeFilter → Except RenderError String
  | .range precision => do
    let column ← i.arg 0
    return "(" ++ betweenText (operandText column) (timestampLiteral dialect precision range.start)
      (timestampLiteral dialect precision range.stop) ++ ")"
  | .date => do
    let column ← i.arg 0
    return "(" ++ betweenText (operandText column) (dateLiteral dialect range.start)
      (dateLiteral dialect range.stop) ++ ")"
  | .dateTime => do
    let date ← i.arg 0
    let time ← i.arg 1
    return "(" ++ betweenText (operandText date) (dateLiteral dialect range.start)
        (dateLiteral dialect range.stop) ++ " AND " ++
      betweenText (operandText time) (timestampLiteral dialect .seconds range.start)
        (timestampLiteral dialect .seconds range.stop) ++ ")"
  | .start precision => return timeValue dialect precision range.start
  | .stop precision => return timeValue dialect precision range.stop

/-- The start of the interval in which a column lies. -/
def bucketText (dialect : Dialect) (precision : Precision) (interval : Duration)
    (column : String) : String :=
  let seconds := max 1 interval.seconds
  let millis := max 1 interval.millis
  match dialect, precision with
  | .clickHouse, .seconds =>
    "toStartOfInterval(toDateTime(" ++ column ++ "), INTERVAL " ++ toString seconds ++ " SECOND)"
  | .clickHouse, .millis =>
    "toStartOfInterval(toDateTime64(" ++ column ++ ", 3), INTERVAL " ++ toString millis ++
      " MILLISECOND)"
  | .generic, .seconds => dateBin seconds "seconds" column
  | .generic, .millis => dateBin millis "milliseconds" column

/-- What a macro about the interval stands for. An interval is never shorter than one unit. -/
def intervalText (dialect : Dialect) (i : Invocation) (interval : Duration) :
    Interval → Except RenderError String
  | .seconds => return toString (max 1 interval.seconds)
  | .millis => return toString (max 1 interval.millis)
  | .bucket precision => do
    let column ← i.arg 0
    return bucketText dialect precision interval column.toSql

/-- A unit of time in the interval literals of both dialects. -/
structure RoundUnit where
  millis : Nat
  name : String
  plural : String
deriving DecidableEq, Repr, Inhabited

/-- The units of rounding, the largest first. -/
def roundUnits : List RoundUnit :=
  [⟨3600000, "HOUR", "hours"⟩, ⟨60000, "MINUTE", "minutes"⟩, ⟨1000, "SECOND", "seconds"⟩,
    ⟨1, "MILLISECOND", "milliseconds"⟩]

/-- The largest unit that divides a duration, and how often; none below one millisecond. -/
def roundUnit? (d : Duration) : Option (Nat × RoundUnit) :=
  if d.millis = 0 then none
  else (roundUnits.find? fun unit => d.millis % unit.millis == 0).map fun unit =>
    (d.millis / unit.millis, unit)

/-- A value rounded down to a multiple of a duration; none if the duration rounds nothing. -/
def roundText? (dialect : Dialect) (unit : Duration) (value : String) : Option String :=
  (roundUnit? unit).map fun (count, unit) =>
    match dialect with
    | .clickHouse =>
      "toStartOfInterval(" ++ value ++ ", INTERVAL " ++ toString count ++ " " ++ unit.name ++ ")"
    | .generic => dateBin count unit.plural value

/-- The fragment of a macro. The range is taken as it is, rounded or not. -/
def render (dialect : Dialect) (i : Invocation) (request : Request) :
    Except RenderError Fragment :=
  match i.kind with
  | .timeFilter filter => .sql <$> timeFilterText dialect i request.range filter
  | .interval interval => .sql <$> intervalText dialect i request.interval interval
  | .adHocFilter => .sql <$> filtersPredicate dialect request.filters
  | .round => do
    let value ← i.arg 0
    return match roundText? dialect request.round value.toSql with
      | some text => .sql text
      | none => .expr value
  | .ctePlaceholder => .error .notExpandable

end SqlTemplate.Macro
