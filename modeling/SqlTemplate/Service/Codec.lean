import SqlTemplate.Diagnostic
import SqlTemplate.Filter
import SqlTemplate.Json.Record
import SqlTemplate.Macro.Extraction
import SqlTemplate.Time.Range
import SqlTemplate.Time.Timestamp

/-!
# Records of the service

How filters, time ranges, locations, diagnostics and placeholders look in JSON, both ways where
both are needed.
-/

namespace SqlTemplate.Service

open Json Decoder

/-- A text that has no more precise name. -/
def text : Decoder String := string "a string"

/-- A place as JSON. -/
def placeValue (at_ : Text.Location) : Value :=
  .ofMembers [("line", .nat at_.line), ("column", .nat at_.column)]

/-- A location as JSON, null if there is none. -/
def locationValue : Option Text.Location → Value
  | none => .null
  | some at_ => placeValue at_

/-- A diagnostic as JSON. -/
def diagnosticValue (d : Diagnostic) : Value :=
  .ofMembers [("code", .string d.code.name), ("severity", .string d.severity.name),
    ("message", .string d.message), ("location", locationValue d.location),
    ("subject", .optString d.subject)]

/-- A filter as JSON; a missing list of values is left out. -/
def filterValue (f : Filter) : Value :=
  .ofMembers ([("key", .string f.key), ("operator", .string f.operator.symbol),
      ("value", .string f.value)] ++
    match f.values with
    | none => []
    | some values => [("values", .array (values.map .string))])

/-- A range as JSON. -/
def rangeValue (r : Time.Range) : Value :=
  .ofMembers [("from", .string r.start.timestamp), ("to", .string r.stop.timestamp)]

/-- A placeholder as JSON. -/
def declarationValue (d : Macro.Declaration) : Value :=
  .ofMembers [("name", .string d.name), ("macro", .string d.written),
    ("macroPos", (d.offset.map Value.nat).getD .null), ("cte", .string d.body.toSql)]

/-- A filter while it is read. -/
structure FilterDraft where
  key : Option String
  operator : Option Filter.Operator
  value : Option String
  values : Option (Option (List String))

/-- The fields of a filter. -/
def filterFields : List (RecordField FilterDraft) :=
  [.of ["key"] (·.key) (fun a s => { s with key := some a }) text false,
   .of ["operator"] (·.operator) (fun a s => { s with operator := some a })
     (oneOf (Filter.Operator.all.map Filter.Operator.symbol) Filter.Operator.ofSymbol?) false,
   .of ["value"] (·.value) (fun a s => { s with value := some a }) text true,
   .of ["values"] (·.values) (fun a s => { s with values := some a }) (optional (array text)) true]

/-- Reads a filter. -/
def filter : Decoder Filter :=
  record "AdHocFilter" filterFields ⟨none, none, none, none⟩ fun s => do
    let key ← required "key" s.key
    let operator ← required "operator" s.operator
    return ⟨key, operator, s.value.getD "", s.values.getD none⟩

/-- Reads an instant. -/
def instant : Decoder Time.Instant :=
  parsed "an RFC 3339 formatted date and time string" fun text =>
    match Time.Timestamp.parse text with
    | .ok t => .ok t
    | .error e => .error e.message

/-- A range while it is read. -/
structure RangeDraft where
  start : Option Time.Instant
  stop : Option Time.Instant

/-- The fields of a range. -/
def rangeFields : List (RecordField RangeDraft) :=
  [.of ["from"] (·.start) (fun a s => { s with start := some a }) instant false,
   .of ["to"] (·.stop) (fun a s => { s with stop := some a }) instant false]

/-- Reads a range. -/
def range : Decoder Time.Range := do
  let (start, stop) ← record "RawTimeRange" rangeFields ⟨none, none⟩ fun s => do
    let start ← required "from" s.start
    let stop ← required "to" s.stop
    return (start, stop)
  match Time.Range.of start stop with
  | .ok r => return r
  | .error e => failValue e.message

/-- A location while it is read. -/
structure LocationDraft where
  line : Option Nat
  column : Option Nat

/-- The fields of a location. -/
def locationFields : List (RecordField LocationDraft) :=
  [.of ["line"] (·.line) (fun a s => { s with line := some a }) nat false,
   .of ["column"] (·.column) (fun a s => { s with column := some a }) nat false]

/-- Reads a location. -/
def location : Decoder Text.Location :=
  record "Location" locationFields ⟨none, none⟩ fun s => do
    let line ← required "line" s.line
    let column ← required "column" s.column
    return ⟨line, column⟩

/-- A diagnostic while it is read. -/
structure DiagnosticDraft where
  code : Option Diagnostic.Code
  severity : Option Diagnostic.Severity
  message : Option String
  location : Option (Option Text.Location)
  subject : Option (Option String)

/-- The fields of a diagnostic. -/
def diagnosticFields : List (RecordField DiagnosticDraft) :=
  [.of ["code"] (·.code) (fun a s => { s with code := some a })
     (oneOf (Diagnostic.Code.all.map Diagnostic.Code.name) Diagnostic.Code.ofName?) false,
   .of ["severity"] (·.severity) (fun a s => { s with severity := some a })
     (oneOf (Diagnostic.Severity.all.map Diagnostic.Severity.name) Diagnostic.Severity.ofName?)
     false,
   .of ["message"] (·.message) (fun a s => { s with message := some a }) text false,
   .of ["location"] (·.location) (fun a s => { s with location := some a }) (optional location)
     false,
   .of ["subject"] (·.subject) (fun a s => { s with subject := some a }) (optional text) false]

/-- Reads a diagnostic. -/
def diagnostic : Decoder Diagnostic :=
  record "Diagnostic" diagnosticFields ⟨none, none, none, none, none⟩ fun s => do
    let code ← required "code" s.code
    let severity ← required "severity" s.severity
    let message ← required "message" s.message
    return ⟨code, severity, message, s.location.getD none, s.subject.getD none⟩

end SqlTemplate.Service
