import SqlTemplate.Diagnostic
import SqlTemplate.Macro.Walk

/-!
# Placeholder queries

A named query whose name starts as a macro declares a placeholder, which an editor can run by
itself. Of several declarations of one name the last one counts, and each one that replaces
another is noted.

* `Macro.extract` collects the declarations of statements.
-/

namespace SqlTemplate.Macro

open Sql

/-- A placeholder that was declared. -/
structure Declaration where
  name : String
  /-- The name as written. -/
  written : String
  /-- The index of the name in the text. -/
  offset : Option Nat
  location : Option Text.Location
  body : Query

/-- The placeholders of some statements. -/
structure Extraction where
  /-- One declaration for each name, in the order of the names. -/
  declarations : List Declaration
  /-- The name of each declaration that replaced another one, in the order of the walk. -/
  duplicates : List String

namespace Extraction

/-- Nothing declared. -/
def empty : Extraction := ⟨[], []⟩

/-- The declaration of a name. -/
def get? (x : Extraction) (name : String) : Option Declaration :=
  x.declarations.find? (·.name == name)

/-- Puts a declaration into a list ordered by name, in place of one of the same name. -/
def insertDeclaration (d : Declaration) : List Declaration → List Declaration
  | [] => [d]
  | e :: rest =>
    if d.name < e.name then d :: e :: rest
    else if d.name = e.name then d :: rest
    else e :: insertDeclaration d rest

/-- Adds a declaration, and notes it if its name was declared before. -/
def add (x : Extraction) (d : Declaration) : Extraction where
  declarations := insertDeclaration d x.declarations
  duplicates := if (x.get? d.name).isSome then x.duplicates ++ [d.name] else x.duplicates

/-- The warning about a name that was declared again. -/
def duplicateWarning (x : Extraction) (name : String) : Diagnostic :=
  let kept := x.get? name
  { code := .cteDuplicateName
    severity := .warn
    message := (kept.map Declaration.written).getD name ++
      " declared more than once, using the last declaration"
    location := kept.bind Declaration.location
    subject := some name }

/-- The warnings about names that were declared again. -/
def warnings (x : Extraction) : List Diagnostic := x.duplicates.map x.duplicateWarning

end Extraction

/-- The declaration of a placeholder, with its index if the text is given. -/
def Placeholder.declaration (source : Option String) (p : Placeholder) : Declaration where
  name := p.name
  written := p.written
  offset := do
    let text ← source
    let location ← p.location
    Text.offset? text location
  location := p.location
  body := p.cte.query

/-- Adds the declarations among some sites, up to the first placeholder that cannot stand. -/
def collect (source : Option String) (x : Extraction) : List Site → Except ShapeError Extraction
  | [] => .ok x
  | .call _ _ :: rest => collect source x rest
  | .cte p :: rest => collect source (x.add (p.declaration source)) rest
  | .malformed e :: rest => if e.target = .cte then .error e else collect source x rest

/-- The placeholders of statements; their indices count in the text if it is given. -/
def extract (source : Option String) (statements : List Statement) :
    Except ShapeError Extraction :=
  collect source .empty (sites statements)

end SqlTemplate.Macro
