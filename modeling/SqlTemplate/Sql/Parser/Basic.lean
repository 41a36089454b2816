import SqlTemplate.Dialect
import SqlTemplate.Sql.Ast
import SqlTemplate.Sql.Keyword
import SqlTemplate.Sql.Lexer

/-!
# Parsers

A parser takes tokens from the front of a list. It fails with a fault, which is mended by trying
something else unless it is final.
-/

namespace SqlTemplate.Sql

/-- Why tokens cannot be read. -/
inductive Fault where
  /-- Something else was expected; the place is missing at the end of the text. -/
  | rejected (message : String) (location : Option Text.Location)
  /-- The text is nested too deeply. -/
  | tooDeep
  /-- Reading cannot go on in any way. -/
  | fatal (text : String)
deriving DecidableEq, Repr, Inhabited

/-- A reader of tokens. -/
abbrev Parser := StateT (List Lexeme) (Except Fault)

namespace Parser

/-- The next token, if there is one. -/
def peek : Parser (Option Lexeme) := return (← get).head?

/-- Takes the next token, if there is one. -/
def next : Parser (Option Lexeme) := do
  match ← get with
  | [] => return none
  | l :: rest =>
    set rest
    return some l

/-- How a message shows what was found. -/
def foundText : Option Lexeme → String
  | none => "EOF"
  | some l => l.token.display

/-- Fails at a token with a message of its own. -/
def reject {α : Type} (message : String) (found : Option Lexeme) : Parser α :=
  throw (.rejected message (found.map (·.span.start)))

/-- Fails because something else was expected than what was found. -/
def expected {α : Type} (what : String) (found : Option Lexeme) : Parser α :=
  reject ("Expected: " ++ what ++ ", found: " ++ foundText found) found

/-- Fails because something else was expected than the next token. -/
def expectedNext {α : Type} (what : String) : Parser α := do
  expected what (← peek)

/-- Runs a parser; where it is rejected, nothing has been read. -/
def attempt {α : Type} (p : Parser α) : Parser (Option α) := fun input =>
  match p input with
  | .ok (a, rest) => .ok (some a, rest)
  | .error (.rejected _ _) => .ok (none, input)
  | .error e => .error e

/-- Whether a token is a sign. -/
def isSign (text : String) : Option Lexeme → Bool
  | some l => l.token == .sign text
  | none => false

/-- Whether a token is a keyword. -/
def isWord (word : String) : Option Lexeme → Bool
  | some l => l.token.keyword? == some word
  | none => false

/-- The keyword that comes next, in upper case. -/
def peekWord : Parser (Option String) := do
  return (← peek).bind (·.token.keyword?)

/-- Takes the next token if it passes a test. -/
def takeIf (test : Option Lexeme → Bool) : Parser (Option Lexeme) := do
  let l ← peek
  if test l then next else return none

/-- Takes a sign if it comes next. -/
def acceptSign (text : String) : Parser Bool := return (← takeIf (isSign text)).isSome

/-- Takes a sign, or fails. -/
def expectSign (text : String) : Parser Unit := do
  if !(← acceptSign text) then expectedNext text

/-- Takes a keyword if it comes next. -/
def acceptWord (word : String) : Parser Bool := return (← takeIf (isWord word)).isSome

/-- Takes a keyword if it is allowed here and comes next. -/
def acceptWordIf (allowed : Bool) (word : String) : Parser Bool :=
  if allowed then acceptWord word else return false

/-- Whether the keywords of a list come next. -/
def startsWithWords : List String → List Lexeme → Bool
  | [], _ => true
  | _ :: _, [] => false
  | w :: ws, l :: ls => isWord w (some l) && startsWithWords ws ls

/-- Takes all keywords of a list if they come next, else none of them. -/
def acceptWords (words : List String) : Parser Bool := do
  let input ← get
  if startsWithWords words input then
    set (input.drop words.length)
    return true
  else return false

/-- Takes all keywords of a list if they are allowed here and come next. -/
def acceptWordsIf (allowed : Bool) (words : List String) : Parser Bool :=
  if allowed then acceptWords words else return false

/-- The first of some lists of keywords that comes next, and what it stands for. -/
def acceptFirst {α : Type} : List (List String × α) → Parser (Option (List String × α))
  | [] => return none
  | (keywords, kind) :: rest => do
    if ← acceptWords keywords then return some (keywords, kind) else acceptFirst rest

/-- Takes one of some keywords if one comes next. -/
def acceptOneOf (words : List String) : Parser (Option String) := do
  match ← peekWord with
  | none => return none
  | some w =>
    if words.contains w then
      let _ ← next
      return some w
    else return none

/-- Takes a keyword, or fails. -/
def expectWord (word : String) : Parser Unit := do
  if !(← acceptWord word) then expectedNext word

/-- Takes the keywords of a list one after the other, or fails at the first that is missing. -/
def expectWords : List String → Parser Unit
  | [] => return ()
  | word :: rest => do
    expectWord word
    expectWords rest

/-- Takes one of some keywords, or fails. -/
def expectOneOf (words : List String) : Parser String := do
  match ← acceptOneOf words with
  | some word => return word
  | none => expectedNext ("one of " ++ String.intercalate " or " words)

/-- Whether one of some keywords comes next. -/
def comesOneOf (words : List String) : Parser Bool := do
  match ← peekWord with
  | none => return false
  | some w => return words.contains w

/-- Repeats a parser while a test takes something in front of it, at most `fuel` times. -/
def repeatWhile {α : Type} (test : Parser Bool) (p : Parser α) : (fuel : Nat) → Parser (List α)
  | 0 => return []
  | fuel + 1 => do
    if ← test then
      let a ← p
      let more ← repeatWhile test p fuel
      return a :: more
    else return []

/-- Whether an order is ascending, if it is said. -/
def direction : Parser (Option Bool) := do
  if ← acceptWord "ASC" then return some true
  else if ← acceptWord "DESC" then return some false
  else return none

/-- A clause behind a keyword, if the keyword comes next. -/
def optionalClause {α : Type} (word : String) (p : Parser α) : Parser (Option α) := do
  if ← acceptWord word then return some (← p) else return none

/-- The number of tokens left: no loop that takes a token at every turn has more turns. -/
def remaining : Parser Nat := return (← get).length

/-- One or more things with commas between them. -/
def commaSeparated {α : Type} (p : Parser α) : Parser (List α) := do
  let a ← p
  let more ← repeatWhile (acceptSign ",") p (← remaining)
  return a :: more

/-- Things with commas between them up to a closing sign, which stays; there may be none. -/
def commaSeparatedUntil {α : Type} (closing : String) (p : Parser α) : Parser (List α) := do
  if isSign closing (← peek) then return [] else commaSeparated p

/-- Something between parentheses. -/
def inParens {α : Type} (p : Parser α) : Parser α := do
  expectSign "("
  let a ← p
  expectSign ")"
  return a

/-- The name that a token can stand for: a word, or a text literal between single quotes. -/
def identOf? : Option Lexeme → Option Ident
  | some ⟨.word text quote, span⟩ => some ⟨text, quote, some span⟩
  | some ⟨.string .single text, _⟩ => some ⟨text, some '\'', none⟩
  | _ => none

/-- A name. -/
def ident : Parser Ident := do
  let l ← next
  match identOf? l with
  | some i => return i
  | none => expected "identifier" l

/-- A name with its qualifiers. -/
def name : Parser Name := do
  let first ← ident
  let more ← repeatWhile (acceptSign ".") ident (← remaining)
  return first :: more

/-- Names between parentheses. -/
def columnList : Parser (List Ident) := do
  if isSign "(" (← peek) then inParens (commaSeparated ident)
  else expectedNext "a list of columns in parentheses"

/-- Names between parentheses, if a parenthesis comes next. -/
def optionalColumnList : Parser (List Ident) := do
  if isSign "(" (← peek) then columnList else return []

/-- An alias: any name after `AS`, otherwise a name that is not reserved. -/
def optionalAlias (reserved : List String) : Parser (Option Ident) := do
  let afterAs ← acceptWord "AS"
  let l ← peek
  match l, identOf? l with
  | some ⟨.word text quote, _⟩, some i =>
    if afterAs || quote.isSome || !reserved.contains (Text.upper text) then
      let _ ← next
      return some i
    else return none
  | _, some i =>
    let _ ← next
    return some i
  | _, none => if afterAs then expected "an identifier after AS" l else return none

/-- A constant, where nothing but a constant can stand. -/
def value : Parser Literal := do
  let l ← next
  match l with
  | none => expected "a value" l
  | some lexeme =>
    match lexeme.token with
    | .word _ none =>
      match lexeme.token.keyword? with
      | some "TRUE" => return .bool true
      | some "FALSE" => return .bool false
      | some "NULL" => return .null
      | _ => expected "a concrete value" l
    | .word text (some '"') => return .string .double text
    | .word _ (some _) => expected "A value?" l
    | .number text long => return .number text long
    | .string kind text => return .string kind text
    | .placeholder text => return .placeholder text
    | .sign mark =>
      if mark = ":" ∨ mark = "@" then
        let after ← next
        match after with
        | some ⟨.word text _, _⟩ => return .placeholder (mark ++ text)
        | some ⟨.number text false, _⟩ => return .placeholder (mark ++ text)
        | _ => expected "placeholder" after
      else expected "a value" l
    | .blank => expected "a value" l

/-- Settings with commas between them. -/
def settingList : Parser (List (Ident × Literal)) :=
  commaSeparated do
    let key ← ident
    expectSign "="
    let v ← value
    return (key, v)

/-- Settings behind their keyword, if it comes next. -/
def settings : Parser (List (Ident × Literal)) := do
  if ← acceptWord "SETTINGS" then settingList else return []

/-- Why digits are no whole number of some width. -/
inductive NumberFault where
  | badDigit
  | tooLarge

/-- The wording of a fault in a number. -/
def NumberFault.message : NumberFault → String
  | .badDigit => "invalid digit found in string"
  | .tooLarge => "number too large to fit in target type"

/-- The width of a whole number. -/
inductive Width where
  | bits32
  | bits64

/-- The largest number of a width. -/
def Width.largest : Width → Nat
  | .bits32 => 4294967295
  | .bits64 => 18446744073709551615

/-- The name of a width. -/
def Width.name : Width → String
  | .bits32 => "u32"
  | .bits64 => "u64"

/-- The whole number of a width that digits spell behind those of `n`. Of two faults the first one
counts. -/
def wholeNumberOf (width : Width) : (n : Nat) → List Char → Except NumberFault Nat
  | n, [] => .ok n
  | n, c :: cs =>
    if !c.isDigit then .error .badDigit
    else
      let n := 10 * n + (c.toNat - '0'.toNat)
      if n ≤ width.largest then wholeNumberOf width n cs else .error .tooLarge

/-- The whole number that a number token spells; where it is none, the fault is at a token. -/
def numberOf (width : Width) (text : String) (at_ : Option Lexeme) : Parser Nat :=
  match wholeNumberOf width 0 text.toList with
  | .ok n => return n
  | .error fault =>
    reject ("Could not parse '" ++ text ++ "' as " ++ width.name ++ ": " ++ fault.message) at_

/-- A whole number. -/
def wholeNumber : Parser Nat := do
  let l ← next
  match l with
  | some ⟨.number text _, _⟩ => numberOf .bits64 text l
  | _ => expected "literal int" l

/-- A text literal between single quotes. -/
def quotedText (what : String) : Parser String := do
  let l ← next
  match l with
  | some ⟨.string .single text, _⟩ => return text
  | _ => expected what l

/-- A text where only a text can stand: a literal, or a word that is no keyword. -/
def literalText (dialect : Dialect) : Parser String := do
  let l ← next
  match l with
  | some ⟨.string .single text, _⟩ | some ⟨.string .unicode text, _⟩ => return text
  | some ⟨.string .escaped text, _⟩ =>
    match dialect with
    | .generic => return text
    | .clickHouse => expected "literal string" l
  | some ⟨.word text quote, _⟩ =>
    if (Token.word text quote).isKeyword then expected "literal string" l else return text
  | _ => expected "literal string" l

end Parser

end SqlTemplate.Sql
