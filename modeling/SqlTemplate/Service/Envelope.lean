import SqlTemplate.Json.Record

/-!
# Envelopes

Every answer of the service has the same outer form: whether there was an error, its message, and
the data. An answer with an error has no data, and one without has no message.
-/

namespace SqlTemplate.Service

open Json Decoder

/-- An answer around its data. -/
structure Envelope (α : Type) where
  error : Bool
  errorMessage : String
  data : Option α

namespace Envelope

/-- The answer of a request that went well. -/
def success {α : Type} (data : α) : Envelope α := ⟨false, "", some data⟩

/-- The answer of a request that failed. -/
def failure {α : Type} (message : String) : Envelope α := ⟨true, message, none⟩

/-- An answer as JSON. -/
def value (e : Envelope Value) : Value :=
  .ofMembers [("error", .bool e.error), ("errorMessage", .string e.errorMessage),
    ("data", e.data.getD .null)]

/-- An answer while it is read. -/
structure Draft (α : Type) where
  error : Option Bool
  errorMessage : Option String
  data : Option (Option α)

/-- The fields of an answer. -/
def fields {α : Type} (d : Decoder α) : List (RecordField (Draft α)) :=
  [.of ["error"] (·.error) (fun a s => { s with error := some a }) bool false,
   .of ["errorMessage"] (·.errorMessage) (fun a s => { s with errorMessage := some a })
     (string "a string") false,
   .of ["data"] (·.data) (fun a s => { s with data := some a }) (optional d) false]

/-- Reads an answer, given how to read its data. -/
def decoder {α : Type} (d : Decoder α) : Decoder (Envelope α) :=
  record "Response" (fields d) ⟨none, none, none⟩ fun s => do
    let error ← required "error" s.error
    let errorMessage ← required "errorMessage" s.errorMessage
    return ⟨error, errorMessage, s.data.getD none⟩

/-- The data of an answer, or its message if there was an error. -/
def outcome {α : Type} (e : Envelope α) : Except String (Option α) :=
  if e.error then .error e.errorMessage else .ok e.data

end Envelope

/-- An answer with the status of its transport. -/
structure Reply where
  status : Nat
  body : Value

namespace Reply

/-- The answer that a route gives. -/
def ok (body : Value) : Reply := ⟨200, body⟩

/-- The answer of a failure on a route. -/
def failed (message : String) : Reply := ok (Envelope.failure message).value

/-- The answer to a path that is no route. -/
def notFound (path : String) : Reply :=
  ⟨404, (Envelope.failure ("no resource route for " ++ path)).value⟩

/-- The text that an answer carries, or its message. -/
def text (r : Reply) : Except String (Option String) := do
  let envelope ← runValue (Envelope.decoder (string "a string")) r.body
  envelope.outcome

end Reply

end SqlTemplate.Service
