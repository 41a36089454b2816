import SqlTemplate.Macro.Catalog
import SqlTemplate.Sql.Lexer
import SqlTemplate.Sql.Printer

/-!
# Macro sites

Where a tree mentions a macro: a call in the place of an expression, or a named query whose name is
a placeholder. A name in quotes, a name with a qualifier, and a name that the catalog does not know
are no macro calls.

* `Macro.callOf` recognises a call.
* `Macro.placeholderOf` recognises a placeholder.
-/

namespace SqlTemplate.Macro

open Sql

/-- A macro with its arguments. -/
structure Invocation where
  name : String
  kind : Kind
  args : List Expr
  location : Option Text.Location

/-- The two places in which a macro can stand. -/
inductive Target where
  | call
  | cte
deriving DecidableEq, Repr, Inhabited

/-- A macro that cannot stand as it was written. -/
structure ShapeError where
  name : String
  message : String
  target : Target
  location : Option Text.Location
deriving DecidableEq, Repr, Inhabited

/-- The error with its name in front. -/
def ShapeError.display (e : ShapeError) : String := e.name ++ ": " ++ e.message

/-- A named query whose name is a placeholder. -/
structure Placeholder where
  /-- The name without the start that marks it as a macro. -/
  name : String
  cte : Cte
  location : Option Text.Location

/-- The name of a placeholder as written. -/
def Placeholder.written (p : Placeholder) : String := p.cte.label.name.text

/-- A macro in a tree. -/
inductive Site where
  | call (invocation : Invocation) (expr : Expr)
  | cte (placeholder : Placeholder)
  | malformed (error : ShapeError)

/-- Where a name starts. -/
def identLocation (name : Ident) : Option Text.Location := name.span.map (·.start)

/-- The expression of an argument that is nothing else. -/
def plainArg (arg : Arg) : Except String Expr :=
  match arg with
  | .expr none value => .ok value
  | _ => .error ("unsupported macro argument `" ++ arg.toSql ++ "`")

/-- The arguments of a call, or why a macro cannot have them. -/
def macroArgs (args : ArgList) : Except String (List Expr) := args.args.mapM plainArg

/-- The name and the arguments of an expression that may be a macro. -/
def candidate? : Expr → Option (Ident × Except String (List Expr))
  | .ident name => some (name, .ok [])
  | .bareCall [name] => some (name, .ok [])
  | .queryCall [name] _ => some (name, .error "a subquery is not a valid macro argument")
  | .call [name] _ args _ _ _ => some (name, macroArgs args)
  | _ => none

/-- The numbers of arguments that a macro takes, and the one that it got. -/
def arityMessage (expected : List Nat) (got : Nat) : String :=
  "expects " ++ String.intercalate " or " (expected.map toString) ++ " argument(s), got " ++
    toString got

/-- A macro of this name with these arguments. -/
def invocationOf (name : Ident) (args : Except String (List Expr)) :
    Option (Except ShapeError Invocation) :=
  let location := identLocation name
  let malformed (message : String) : ShapeError := ⟨name.text, message, .call, location⟩
  match args with
  | .error message => if isRegistered name.text then some (.error (malformed message)) else none
  | .ok args =>
    match resolve name.text args.length with
    | .found entry => some (.ok ⟨entry.name, entry.kind, args, location⟩)
    | .mismatch expected => some (.error (malformed (arityMessage expected args.length)))
    | .unknown => none

/-- The macro call that an expression is, if it is one. -/
def callOf (e : Expr) : Option (Except ShapeError Invocation) :=
  match candidate? e with
  | none => none
  | some (name, args) =>
    if name.quote.isSome || !isMacroName name.text then none else invocationOf name args

/-- Why a placeholder cannot have its name. -/
def placeholderFault? (written rest : String) : Option String :=
  if rest.isEmpty then some "placeholder CTE has no name after the macro prefix"
  else if isRegistered written then some "placeholder CTE name collides with a registered macro"
  else none

/-- The placeholder that a named query is, if it is one. -/
def placeholderOf (cte : Cte) : Option (Except ShapeError Placeholder) :=
  let label := cte.label.name
  if label.quote.isSome then none
  else match dropStart? macroStart.toList label.text.toList with
    | none => none
    | some rest =>
      let rest := String.ofList rest
      let location := identLocation label
      match placeholderFault? label.text rest with
      | some message => some (.error ⟨label.text, message, .cte, location⟩)
      | none => some (.ok ⟨rest, cte, location⟩)

end SqlTemplate.Macro
