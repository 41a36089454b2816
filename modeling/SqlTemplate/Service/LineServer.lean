import SqlTemplate.Service.Handler

/-!
# The line server

Requests come one on each line and are answered one line each. A line that is no request is
answered too; a blank line is not.

* `answer` answers a line.
* `serve` answers the lines of a text.
-/

namespace SqlTemplate.Service

open Json Decoder

/-- A request on a line. -/
structure LineRequest where
  id : Value
  path : String
  body : Value

/-- A request on a line while it is read. -/
structure LineDraft where
  id : Option Value
  path : Option String
  body : Option Value

/-- The fields of a request. -/
def lineFields : List (RecordField LineDraft) :=
  [.of ["id"] (·.id) (fun a s => { s with id := some a }) Decoder.value true,
   .of ["path"] (·.path) (fun a s => { s with path := some a }) text false,
   .of ["body"] (·.body) (fun a s => { s with body := some a }) Decoder.value true]

/-- Reads a request. -/
def lineRequest : Decoder LineRequest :=
  record "ServeRequest" lineFields ⟨none, none, none⟩ fun s => do
    let path ← required "path" s.path
    return ⟨s.id.getD .null, path, s.body.getD .null⟩

/-- The answer to a line. -/
structure LineResponse where
  id : Value
  reply : Reply

/-- An answer as JSON. -/
def LineResponse.value (r : LineResponse) : Value :=
  .ofMembers [("id", r.id), ("status", .nat r.reply.status), ("body", r.reply.body)]

/-- The body of a request as text: a text as it is, anything else as it is written. -/
def bodyText : Value → String
  | .string text => text
  | value => value.compact

/-- The answer to a request that ran out of time. -/
def timedOut : Reply := .failed Cancelled.deadlineExceeded.message

/-- Answers a request. One that may take no time at all runs out of it. -/
def respond (settings : Settings) (r : LineRequest) : Reply :=
  if settings.timeoutMillis = 0 then timedOut
  else handle settings (Context.live.withDeadline .ahead).polls r.path
    (Text.Symbol.ofText (bodyText r.body))

/-- Answers a line; none if it is blank. -/
def answer (settings : Settings) (line : String) : Option LineResponse :=
  if Text.isBlankText line then none
  else match run lineRequest (Text.Symbol.ofText line) with
    | .ok r => some ⟨r.id, respond settings r⟩
    | .error e => some ⟨.null, ⟨400, (Envelope.failure e.display).value⟩⟩

/-- A line without the return at its end. -/
def dropReturn (line : List Char) : List Char :=
  if line.getLast? = some '\r' then line.dropLast else line

/-- The lines of a text; the last one may lack its end. -/
def linesFrom : (line : List Char) → List Char → List String
  | [], [] => []
  | line, [] => [String.ofList line.reverse]
  | line, c :: cs =>
    if c = '\n' then String.ofList (dropReturn line.reverse) :: linesFrom [] cs
    else linesFrom (c :: line) cs

/-- Answers the lines of a text, in their order. -/
def serve (settings : Settings) (input : String) : List LineResponse :=
  (linesFrom [] input.toList).filterMap (answer settings)

end SqlTemplate.Service
