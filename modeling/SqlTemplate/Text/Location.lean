/-!
# Locations in a text

A location is a one-based line and a one-based column, both counted in characters; a newline
starts a new line. `offset?` goes back from a location to the index of a character.
-/

namespace SqlTemplate.Text

/-- A place in a text: line and column, both from 1. -/
structure Location where
  line : Nat
  column : Nat
deriving DecidableEq, Repr, Inhabited

/-- The places of the first character and after the last one. -/
structure Span where
  start : Location
  stop : Location
deriving DecidableEq, Repr, Inhabited

namespace Location

/-- The place of the first character. -/
def first : Location := ⟨1, 1⟩

/-- The place after a character. -/
def next (at_ : Location) (c : Char) : Location :=
  if c = '\n' then ⟨at_.line + 1, 1⟩ else ⟨at_.line, at_.column + 1⟩

/-- The place after some characters. -/
def after (at_ : Location) (cs : List Char) : Location :=
  cs.foldl next at_

/-- The line and column as `line:column`. -/
def display (at_ : Location) : String :=
  toString at_.line ++ ":" ++ toString at_.column

@[simp] theorem after_nil (l : Location) : l.after [] = l := rfl

@[simp] theorem after_cons (l : Location) (c : Char) (cs : List Char) :
    l.after (c :: cs) = (l.next c).after cs := rfl

theorem after_append (l : Location) (a b : List Char) : l.after (a ++ b) = (l.after a).after b := by
  simp [after]

end Location

/-- The index of the character at a line and column, or just after the end of the line. -/
def charOffset? : List Char → (line column : Nat) → Option Nat
  | _, _, 0 => none
  | _, 1, 1 => some 0
  | [], _, _ => none
  | c :: cs, line, column + 1 =>
    if c = '\n' then
      if line ≤ 1 then none else (charOffset? cs (line - 1) (column + 1)).map (· + 1)
    else if line = 1 then (charOffset? cs 1 column).map (· + 1)
    else (charOffset? cs line (column + 1)).map (· + 1)

/-- The index of the character at a location of a text; none if the text has no such place. -/
def offset? (text : String) (at_ : Location) : Option Nat :=
  charOffset? text.toList at_.line at_.column

end SqlTemplate.Text
