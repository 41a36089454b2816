import SqlTemplate.Dialect
import SqlTemplate.Sql.Escape
import SqlTemplate.Sql.Quoted
import SqlTemplate.Sql.Token
import SqlTemplate.Text.Blank

/-!
# From characters to tokens

`scan` cuts a text into pieces: each is a token with the characters that spell it, blanks and
comments included, so the pieces put together are the text. `lexemes` places the pieces, drops the
blanks, and reads the placeholders of macros as words.
-/

namespace SqlTemplate.Sql

/-- A piece of a text: a token and its characters. -/
structure Piece where
  token : Token
  text : List Char
deriving DecidableEq, Repr

/-- Why a token cannot be read. -/
inductive LexError where
  | unterminatedString
  | unterminatedIdentifier (quote : Char)
  | unterminatedComment
  | unterminatedDollarString
  | unterminatedTag
  | unterminatedEscapes
  | codePoint (error : CodePointError)
deriving DecidableEq, Repr

namespace LexError

/-- The wording of an error. -/
def message : LexError → String
  | .unterminatedString => "Unterminated string literal"
  | .unterminatedIdentifier quote =>
    "Expected close delimiter '" ++ quote.toString ++ "' before EOF."
  | .unterminatedComment => "Unexpected EOF while in a multi-line comment"
  | .unterminatedDollarString => "Unterminated dollar-quoted string"
  | .unterminatedTag => "Unterminated dollar-quoted, expected $"
  | .unterminatedEscapes => "Unterminated encoded string literal"
  | .codePoint .unterminated => "Unterminated unicode encoded string literal"
  | .codePoint .missingDigit =>
    "Unexpected EOF while parsing hex digit in escaped unicode string."
  | .codePoint (.badDigit c) => "Invalid hex digit in escaped unicode string: " ++ c.toString
  | .codePoint (.badCodePoint n) =>
    "Invalid unicode character: " ++ String.ofList (Nat.toDigits 16 n)

end LexError

/-- What reading one token gives: the token and the rest, or an error and the rest at which it
arose. -/
abbrev ScanResult := Except (LexError × List Char) (Token × List Char)

/-- A word whose first characters have been read. -/
def scanWord (dialect : Dialect) (start : List Char) (rest : List Char) : ScanResult :=
  .ok (.word (String.ofList (start ++ rest.takeWhile dialect.isWordPart)) none,
    rest.dropWhile dialect.isWordPart)

/-- A text literal; `cs` starts at its opening quote. -/
def scanString (kind : StringKind) (quote : Char) (escapes : Bool) (cs : List Char) :
    ScanResult :=
  match readQuoted quote escapes (cs.drop 1) with
  | some (text, rest) => .ok (.string kind (String.ofList text), rest)
  | none => .error (.unterminatedString, cs)

/-- A literal without escapes, which may have three quotes on each side; `cs` starts at its opening
quote. -/
def scanRaw (quote : Char) (cs : List Char) : ScanResult :=
  match ((cs.take 3).takeWhile (· == quote)).length with
  | 1 =>
    match readQuoted quote false (cs.drop 1) with
    | some (text, rest) => .ok (.string (.raw quote false) (String.ofList text), rest)
    | none => .error (.unterminatedString, cs.drop 1)
  | 2 => .ok (.string (.raw quote false) "", cs.drop 2)
  | _ =>
    match readTripled quote 0 (cs.drop 3) with
    | some (text, rest) =>
      .ok (.string (.raw quote true) (String.ofList text.dropLast.dropLast), rest)
    | none => .error (.unterminatedString, cs.drop 3)

/-- A literal with backslash escapes; `cs` starts at its mark, which an opening quote follows. -/
def scanEscaped (cs : List Char) : ScanResult :=
  match readEscaped cs.length (cs.drop 2) with
  | some (text, rest) => .ok (.string .escaped (String.ofList text), rest)
  | none => .error (.unterminatedEscapes, cs)

/-- A literal with code points; `cs` stands behind its opening quote. -/
def scanUnicode (cs : List Char) : ScanResult :=
  match readUnicode (cs.length + 1) cs with
  | .ok (text, rest) => .ok (.string .unicode (String.ofList text), rest)
  | .error (e, rest) => .error (.codePoint e, rest)

/-- A quoted word; `cs` starts at its opening quote. -/
def scanQuotedWord (quote : Char) (cs : List Char) : ScanResult :=
  match readQuoted quote false (cs.drop 1) with
  | some (text, rest) => .ok (.word (String.ofList text) (some quote), rest)
  | none => .error (.unterminatedIdentifier quote, cs)

/-- The exponent of a number, if there is one. -/
def scanExponent (cs : List Char) : List Char × List Char :=
  match cs with
  | e :: rest =>
    if e == 'e' || e == 'E' then
      let (sign, digits) := match rest with
        | s :: more => if s == '+' || s == '-' then ([s], more) else ([], rest)
        | [] => ([], [])
      let exponent := digits.takeWhile Char.isDigit
      if exponent.isEmpty then ([], cs)
      else (e :: sign ++ exponent, digits.dropWhile Char.isDigit)
    else ([], cs)
  | [] => ([], [])

/-- A number, a hexadecimal literal, or a point. -/
def scanNumber (cs : List Char) : ScanResult :=
  let whole := cs.takeWhile Char.isDigit
  match whole, cs.dropWhile Char.isDigit with
  | ['0'], 'x' :: rest =>
    .ok (.string .hex (String.ofList (rest.takeWhile isHexDigit)), rest.dropWhile isHexDigit)
  | _, afterWhole =>
    let (point, afterPoint) := match afterWhole with
      | '.' :: rest => (['.'], rest)
      | _ => ([], afterWhole)
    let fraction := afterPoint.takeWhile Char.isDigit
    let afterFraction := afterPoint.dropWhile Char.isDigit
    if whole.isEmpty && fraction.isEmpty then .ok (.sign ".", afterFraction)
    else
      let (exponent, rest) := scanExponent afterFraction
      let text := String.ofList (whole ++ point ++ fraction ++ exponent)
      match rest with
      | 'L' :: more => .ok (.number text true, more)
      | _ => .ok (.number text false, rest)

/-- The rest of a comment, behind its opening; comments nest. A character that closes one comment
may also open or close another. -/
def skipComment : (depth : Nat) → (previous : Char) → List Char → ScanResult
  | _, _, [] => .error (.unterminatedComment, [])
  | depth, previous, c :: cs =>
    if previous == '/' && c == '*' then skipComment (depth + 1) c cs
    else if previous == '*' && c == '/' then
      if depth ≤ 1 then .ok (.blank, cs) else skipComment (depth - 1) c cs
    else skipComment depth c cs

/-- The text of a dollar string without a tag, up to the next two dollar signs. `pending` tells
whether the character before is a dollar sign. -/
def readDollarString : (pending : Bool) → List Char → Option (List Char × List Char)
  | _, [] => none
  | pending, c :: cs =>
    if pending then
      if c = '$' then some ([], cs)
      else (readDollarString false cs).map fun (text, rest) => ('$' :: c :: text, rest)
    else if c = '$' then readDollarString true cs
    else (readDollarString false cs).map fun (text, rest) => (c :: text, rest)

/-- Where the search for the closing tag of a dollar string stands: in the text, or behind a dollar
sign and the first characters of the tag. -/
inductive TagSearch where
  | text
  | tag (seen : List Char) (expected : List Char)

/-- The text of a dollar string up to its closing tag. A character that spoils a tag belongs to
the text, and the search goes on behind it. -/
def readTagged (tag : List Char) : TagSearch → List Char → Option (List Char × List Char)
  | _, [] => none
  | .text, c :: cs =>
    if c = '$' then readTagged tag (.tag ['$'] tag) cs
    else (readTagged tag .text cs).map fun (text, rest) => (c :: text, rest)
  | .tag seen (e :: expected), c :: cs =>
    if c = e then readTagged tag (.tag (seen ++ [c]) expected) cs
    else (readTagged tag .text cs).map fun (text, rest) => (seen ++ c :: text, rest)
  | .tag seen [], c :: cs =>
    if c = '$' then some ([], cs)
    else (readTagged tag .text cs).map fun (text, rest) => (seen ++ c :: text, rest)

/-- A placeholder or a dollar string; `cs` stands behind the first dollar sign. -/
def scanDollar (cs : List Char) : ScanResult :=
  match cs with
  | '$' :: rest =>
    match readDollarString false rest with
    | some (text, after) => .ok (.string (.dollar "") (String.ofList text), after)
    | none => .error (.unterminatedDollarString, [])
  | _ =>
    let isPart := fun c => Text.isLetterOrDigit c || c == '_'
    let name := cs.takeWhile isPart
    match cs.dropWhile isPart with
    | '$' :: rest =>
      match readTagged name .text rest with
      | some (text, after) =>
        .ok (.string (.dollar (String.ofList name)) (String.ofList text), after)
      | none => .error (.unterminatedTag, [])
    | rest => .ok (.placeholder (String.ofList ('$' :: name)), rest)

/-- The signs of more than one character, longer ones before their beginnings. The second part is
the spelling that is kept. -/
def longSigns : List (String × String) :=
  [("->>", "->>"), ("->", "->"), ("||/", "||/"), ("||", "||"), ("|/", "|/"), ("=>", "=>"),
    ("==", "=="), ("!=", "<>"), ("!!", "!!"), ("!~~*", "!~~*"), ("!~~", "!~~"), ("!~*", "!~*"),
    ("!~", "!~"), ("<=>", "<=>"), ("<=", "<="), ("<>", "<>"), ("<<", "<<"), ("<@", "<@"),
    (">=", ">="), (">>", ">>"), ("::", "::"), (":=", ":="), ("&&", "&&"), ("^@", "^@"),
    ("~~*", "~~*"), ("~~", "~~"), ("~*", "~*"), ("#>>", "#>>"), ("#>", "#>"), ("#-", "#-"),
    ("@>", "@>"), ("@?", "@?"), ("@@", "@@")]

/-- What follows a beginning of a text. -/
def dropStart? : List Char → List Char → Option (List Char)
  | [], cs => some cs
  | _ :: _, [] => none
  | p :: ps, c :: cs => if p = c then dropStart? ps cs else none

/-- The first of the signs that the text starts with. -/
def firstSign? : List (String × String) → List Char → Option (Token × List Char)
  | [], _ => none
  | (written, kept) :: more, cs =>
    match dropStart? written.toList cs with
    | some rest => some (.sign kept, rest)
    | none => firstSign? more cs

/-- A sign: one of the long ones, or a single character. -/
def scanSign (c : Char) (cs : List Char) : ScanResult :=
  match firstSign? longSigns (c :: cs) with
  | some result => .ok result
  | none => .ok (.sign c.toString, cs)

/-- A word of the generic dialect that starts with `#` or `@`, or a sign. Any character but a blank
can follow the mark. -/
def scanMarked (c : Char) (cs : List Char) : ScanResult :=
  match firstSign? longSigns (c :: cs) with
  | some (.sign "@@", d :: rest) =>
    if d = ' ' then .ok (.sign "@@", d :: rest) else scanWord .generic ['@', '@', d] rest
  | some result => .ok result
  | none =>
    match cs with
    | d :: rest => if d = ' ' then .ok (.sign c.toString, cs) else scanWord .generic [c, d] rest
    | [] => .ok (.sign c.toString, [])

/-- The literal that a letter in front of a quote marks, if there is one; `cs` stands behind the
letter. -/
def scanMarkedString? (dialect : Dialect) (c : Char) (cs : List Char) : Option ScanResult :=
  let generic := dialect = .generic
  match c.toLower, cs with
  | 'n', '\'' :: _ => some (scanString .national '\'' true cs)
  | 'x', '\'' :: _ => some (scanString .hex '\'' true cs)
  | 'e', '\'' :: _ => some (scanEscaped (c :: cs))
  | 'b', q :: _ =>
    if generic ∧ (q = '\'' ∨ q = '"') then some (scanString (.byte q) q false cs) else none
  | 'r', q :: _ => if generic ∧ (q = '\'' ∨ q = '"') then some (scanRaw q cs) else none
  | 'u', '&' :: '\'' :: rest => if generic then some (scanUnicode rest) else none
  | _, _ => none

/-- Reads one token from a text that starts with `c`. -/
def scanToken (dialect : Dialect) (c : Char) (cs : List Char) : ScanResult :=
  match scanMarkedString? dialect c cs with
  | some result => result
  | none =>
    match c, cs with
    | '\r', '\n' :: rest => .ok (.blank, rest)
    | '\'', _ => scanString .single '\'' dialect.hasBackslashEscapes (c :: cs)
    | '"', _ => scanQuotedWord '"' (c :: cs)
    | '`', _ => scanQuotedWord '`' (c :: cs)
    | '.', _ => scanNumber (c :: cs)
    | '-', '-' :: rest => .ok (.blank, (rest.dropWhile (· != '\n')).drop 1)
    | '/', '*' :: rest => skipComment 1 ' ' rest
    | '$', _ => scanDollar cs
    | '?', _ =>
      .ok (.placeholder (String.ofList ('?' :: cs.takeWhile Text.isNumber)),
        cs.dropWhile Text.isNumber)
    | _, _ =>
      if c.isDigit then scanNumber (c :: cs)
      else if dialect = .generic ∧ (c = '#' ∨ c = '@') then scanMarked c cs
      else if dialect = .generic ∧ c = '/' ∧ cs.head? = some '/' then
        .ok (.sign "//", cs.drop 1)
      else if dialect.isWordStart c then scanWord dialect [c] cs
      else if Text.isBlank c then .ok (.blank, cs)
      else scanSign c cs

/-- Cuts a text into pieces, with at most `fuel` of them. -/
def scanAll (dialect : Dialect) : (fuel : Nat) → List Char →
    Except (LexError × List Char) (List Piece)
  | _, [] => .ok []
  | 0, _ :: _ => .ok []
  | fuel + 1, c :: cs => do
    let (token, rest) ← scanToken dialect c cs
    let pieces ← scanAll dialect fuel rest
    return ⟨token, (c :: cs).take (cs.length + 1 - rest.length)⟩ :: pieces

/-- Cuts a text into pieces. Every piece has at least one character, so there are no more pieces
than characters. -/
def scan (dialect : Dialect) (cs : List Char) : Except (LexError × List Char) (List Piece) :=
  scanAll dialect cs.length cs

/-- The start of the names of macros. -/
def macroStart : String := "$__"

/-- Whether a name starts like the names of macros. -/
def isMacroName (name : String) : Bool :=
  (dropStart? macroStart.toList name.toList).isSome

/-- A placeholder that is named like a macro is a word. -/
def Token.promote : Token → Token
  | .placeholder text => if isMacroName text then .word text none else .placeholder text
  | token => token

/-- Places the pieces that follow one another from a location. -/
def place : Text.Location → List Piece → List Lexeme
  | _, [] => []
  | start, piece :: pieces =>
    ⟨piece.token.promote, ⟨start, start.after piece.text⟩⟩ :: place (start.after piece.text) pieces

/-- The tokens of a text with their places, without blanks and comments. The place of an error is
that of the character at which reading stopped. -/
def lexemes (dialect : Dialect) (text : String) :
    Except (LexError × Text.Location) (List Lexeme) :=
  let cs := text.toList
  match scan dialect cs with
  | .ok pieces => .ok ((place .first pieces).filter (·.token != .blank))
  | .error (e, rest) => .error (e, Text.Location.first.after (cs.take (cs.length - rest.length)))

end SqlTemplate.Sql
