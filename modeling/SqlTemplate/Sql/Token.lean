import SqlTemplate.Text.Letter
import SqlTemplate.Text.Location

/-!
# Tokens

The words, literals and signs of SQL, and how a message shows them.
-/

namespace SqlTemplate.Sql

/-- How a text literal is marked. -/
inductive StringKind where
  | single
  | double
  | national
  | hex
  | byte (quote : Char)
  | raw (quote : Char) (tripled : Bool)
  | escaped
  | unicode
  | dollar (tag : String)
deriving DecidableEq, Repr, Inhabited

/-- The smallest pieces of SQL. -/
inductive Token where
  | word (text : String) (quote : Option Char)
  | number (text : String) (long : Bool)
  | string (kind : StringKind) (text : String)
  | placeholder (text : String)
  | sign (text : String)
  | blank
deriving DecidableEq, Repr, Inhabited

namespace Token

/-- A token as written, up to the spelling of the sign for "different". -/
def display : Token → String
  | .word text none => text
  | .word text (some q) => q.toString ++ text ++ q.toString
  | .number text long => text ++ if long then "L" else ""
  | .string .single text => "'" ++ text ++ "'"
  | .string .double text => "\"" ++ text ++ "\""
  | .string .national text => "N'" ++ text ++ "'"
  | .string .hex text => "X'" ++ text ++ "'"
  | .string (.byte quote) text => "B" ++ quote.toString ++ text ++ quote.toString
  | .string (.raw quote tripled) text =>
    let quotes := String.ofList (List.replicate (if tripled then 3 else 1) quote)
    "R" ++ quotes ++ text ++ quotes
  | .string .escaped text => "E'" ++ text ++ "'"
  | .string .unicode text => "U&'" ++ text ++ "'"
  | .string (.dollar tag) text => "$" ++ tag ++ "$" ++ text ++ "$" ++ tag ++ "$"
  | .placeholder text => text
  | .sign text => text
  | .blank => " "

/-- The upper-case form of an unquoted word, by which keywords are recognised. -/
def keyword? : Token → Option String
  | .word text none => some (Text.upper text)
  | _ => none

/-- The name of a sign in a report. -/
def signName : String → String
  | "!" => "ExclamationMark"
  | "<<" => "ShiftLeft"
  | ">>" => "ShiftRight"
  | "#" => "Sharp"
  | "&&" => "Overlap"
  | "^@" => "CaretAt"
  | text => text

/-- A token in a report about what it cannot be. -/
def debugText (token : Token) : String :=
  match token with
  | .word text none =>
    "Word(Word \x7b value: \"" ++ text ++ "\", quote_style: None, keyword: " ++ Text.upper text ++
      " \x7d)"
  | .sign text => signName text
  | _ => token.display

end Token

/-- A token and where it stands. -/
structure Lexeme where
  token : Token
  span : Text.Span
deriving DecidableEq, Repr, Inhabited

end SqlTemplate.Sql
