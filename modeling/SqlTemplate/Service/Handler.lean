import SqlTemplate.Interpolation
import SqlTemplate.Service.Envelope
import SqlTemplate.Service.Route
import SqlTemplate.Service.Tree
import SqlTemplate.Settings

/-!
# Answering requests

A request is a path and a body. Whatever goes wrong on a route is told inside the envelope; only an
unknown path has a status of its own.

* `handle` answers a request.
-/

namespace SqlTemplate.Service

open Json Decoder

/-- The body of a request while it is read. -/
structure RequestDraft (α : Type) where
  data : Option α

/-- Reads the body of a request, given how to read its data. -/
def request {α : Type} (d : Decoder α) : Decoder α :=
  record "Request" [.of ["data", "Data"] (fun s : RequestDraft α => s.data)
      (fun a s => { s with data := some a }) d false] ⟨none⟩ fun s => required "data" s.data

/-- What is asked about a query. -/
structure QueryDraft where
  query : Option String

/-- Reads the text of a query. -/
def query : Decoder String :=
  record "AstData" [.of ["query"] (fun s : QueryDraft => s.query)
      (fun a s => { s with query := some a }) text false] ⟨none⟩ fun s => required "query" s.query

/-- A template and what it is to be expanded with, as a request gives it. -/
structure Template where
  sql : String
  round : String
  filters : List Filter
  range : Time.Range
  interval : String

/-- A template while it is read. -/
structure TemplateDraft where
  sql : Option String
  round : Option String
  filters : Option (Option (List Filter))
  range : Option Time.Range
  interval : Option String

/-- The fields of a template. -/
def templateFields : List (RecordField TemplateDraft) :=
  [.of ["rawSql"] (·.sql) (fun a s => { s with sql := some a }) text false,
   .of ["round"] (·.round) (fun a s => { s with round := some a }) text true,
   .of ["filters"] (·.filters) (fun a s => { s with filters := some a })
     (optional (array filter)) true,
   .of ["range"] (·.range) (fun a s => { s with range := some a }) range false,
   .of ["interval"] (·.interval) (fun a s => { s with interval := some a }) text true]

/-- Reads a template. -/
def template : Decoder Template :=
  record "QueryData" templateFields ⟨none, none, none, none, none⟩ fun s => do
    let sql ← required "rawSql" s.sql
    let range ← required "range" s.range
    return { sql, round := s.round.getD "", filters := (s.filters.getD none).getD [], range,
             interval := s.interval.getD "" }

/-- Why a route has no data to give. -/
inductive RouteError where
  | decode (e : DecodeError)
  | duration (e : Time.Duration.Error)
  | template (e : SqlTemplate.Error)

/-- The wording of an error. -/
def RouteError.message : RouteError → String
  | .decode e => e.display
  | .duration e => e.message
  | .template e => e.message

/-- What comes of a route. -/
abbrev RouteOutcome := Except (Sql.Failure RouteError)

/-- An outcome whose error becomes one of a route. -/
def routeError {ε α : Type} (f : ε → RouteError) : Except ε α → RouteOutcome α
  | .ok a => .ok a
  | .error e => .error (.error (f e))

/-- The outcome of work on a template as one of a route. -/
def routeOutcome {α : Type} : Outcome α → RouteOutcome α
  | .ok a => .ok a
  | .error f => .error (f.map .template)

/-- Reads the body of a request. -/
def decode {α : Type} (d : Decoder α) (body : List Text.Symbol) : RouteOutcome α :=
  routeError .decode (run (request d) body)

/-- The statements of a query. -/
def ast (settings : Settings) (body : List Text.Symbol) : RouteOutcome (List Sql.Statement) := do
  let text ← decode query body
  routeOutcome (Outcome.ofParse (Sql.parseStatements settings.dialect text))

/-- A template with its macros expanded. -/
def interpolated (settings : Settings) (polls : Polls) (body : List Text.Symbol) :
    RouteOutcome String := do
  let t ← decode template body
  let round ← routeError .duration (settings.effectiveRound t.round)
  let interval ← routeError .duration (Time.Duration.parse t.interval)
  let request : Request := { range := t.range, filters := t.filters, round, interval }
  routeOutcome (interpolate settings.dialect request polls t.sql)

/-- The first word of a text. -/
def firstWord (text : String) : String :=
  String.ofList ((text.toList.dropWhile Text.isBlank).takeWhile fun c => !Text.isBlank c)

/-- Whether a query only describes something, and so has no placeholders. -/
def isDescription (text : String) : Bool :=
  let word := Text.lowerAscii (firstWord text)
  word == "describe" || word == "desc"

/-- The placeholders of a query. -/
def placeholders (settings : Settings) (body : List Text.Symbol) :
    RouteOutcome (List Macro.Declaration) := do
  let text ← decode query body
  if isDescription text then return []
  else
    let statements ← routeOutcome (Outcome.ofParse (Sql.parseStatements settings.dialect text))
    let extraction ← routeOutcome (extractPlaceholders (some text) statements)
    return extraction.declarations

/-- The data of a route as JSON. -/
def routeData (settings : Settings) (polls : Polls) (body : List Text.Symbol) :
    Route → RouteOutcome Value
  | .ast => do return .array ((← ast settings body).map Tree.statementValue)
  | .interpolate => do return .string (← interpolated settings polls body)
  | .placeholders => do return .array ((← placeholders settings body).map declarationValue)

/-- The message where a reader gave up on a text and nothing more is known. -/
def unknownError : String := "Unknown Error"

/-- What a route says about a text that a reader gave up on. -/
def fatalMessage (route : Route) (report : String) : String :=
  match route with
  | .interpolate => quoted report
  | .ast | .placeholders => unknownError

/-- Answers a request. -/
def handle (settings : Settings) (polls : Polls) (path : String) (body : List Text.Symbol) :
    Reply :=
  match Route.ofPath? path with
  | none => .notFound path
  | some route =>
    match routeData settings polls body route with
    | .ok data => .ok (Envelope.success data).value
    | .error (.error e) => .failed e.message
    | .error (.fatal report) => .failed (fatalMessage route report)

end SqlTemplate.Service
