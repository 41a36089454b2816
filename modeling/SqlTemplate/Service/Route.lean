/-!
# Routes

The three things that the service does, each at a path of its own. A leading slash can be left out
and trailing slashes do not count.
-/

namespace SqlTemplate.Service

/-- What a request asks for. -/
inductive Route where
  /-- The tree of a query. -/
  | ast
  /-- A template with its macros expanded. -/
  | interpolate
  /-- The placeholders of a query. -/
  | placeholders
deriving DecidableEq, Repr, Inhabited

namespace Route

/-- All routes. -/
def all : List Route := [.ast, .interpolate, .placeholders]

/-- The path of a route. -/
def path : Route → String
  | .ast => "/ast"
  | .interpolate => "/interpolate"
  | .placeholders => "/macroCTE"

/-- A path without the slashes at its end. -/
def trimSlashes (path : String) : List Char :=
  (path.toList.reverse.dropWhile (· == '/')).reverse

/-- The route of a path. -/
def ofPath? (path : String) : Option Route :=
  let given := trimSlashes path
  all.find? fun route =>
    let expected := route.path.toList
    given == expected || given == expected.tail

end Route

end SqlTemplate.Service
