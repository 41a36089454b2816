/-!
# Files

What can be read from a path, and a directory whose files are texts at hand.

* `Directory.read` is the text at a path.
-/

namespace SqlTemplate

/-- Why a file cannot be read. -/
inductive ReadError where
  | missing
  | notDirectory
  | isDirectory
  | nameTooLong
  | other (reason : String)
deriving DecidableEq, Repr, Inhabited

/-- The wording of an error. -/
def ReadError.message : ReadError → String
  | .missing => "No such file or directory (os error 2)"
  | .notDirectory => "Not a directory (os error 20)"
  | .isDirectory => "Is a directory (os error 21)"
  | .nameTooLong => "File name too long (os error 36)"
  | .other reason => reason

/-- A directory, by the paths of its files and their texts. -/
structure Directory where
  files : List (String × String)
deriving DecidableEq, Repr, Inhabited

namespace Directory

/-- How far a path has led: to a directory inside, to one outside, or to a file. -/
inductive Place where
  | inside (path : List String)
  | outside
  | file (text : String)
deriving DecidableEq, Repr, Inhabited

/-- The longest name in bytes. -/
def maxNameSize : Nat := 255

/-- The file or directory of a path without dots. -/
def lookup (d : Directory) (path : List String) : Except ReadError Place :=
  let written := String.intercalate "/" path
  match d.files.lookup written with
  | some text => .ok (.file text)
  | none =>
    if d.files.any fun (name, _) => (written ++ "/").isPrefixOf name then .ok (.inside path)
    else .error .missing

/-- One step along a path. An empty name or a dot stays, two dots go up. Nothing is known about
what lies outside. -/
def step (d : Directory) (place : Place) (name : String) : Except ReadError Place :=
  match place with
  | .file _ => .error .notDirectory
  | .outside =>
    if name = "" ∨ name = "." ∨ name = ".." then .ok .outside else .error .missing
  | .inside path =>
    if name = "" ∨ name = "." then .ok (.inside path)
    else if name = ".." then .ok (if path.isEmpty then .outside else .inside path.dropLast)
    else if maxNameSize < name.utf8ByteSize then .error .nameTooLong
    else d.lookup (path ++ [name])

/-- The text at a path. -/
def read (d : Directory) (path : String) : Except ReadError String := do
  let start : Place := if path.isEmpty || "/".isPrefixOf path then .outside else .inside []
  match ← (path.splitOn "/").foldlM d.step start with
  | .file text => return text
  | _ => throw .isDirectory

end Directory

end SqlTemplate
