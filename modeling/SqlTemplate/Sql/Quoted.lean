/-!
# Quoted text

Text between quotes is held as it was written, doubled quotes and backslashes included.

* `readQuoted` finds the closing quote, `readTripled` the three of them that close.
* `writeQuoted` writes held text between quotes again.
* `doubleQuotes` writes any text so that its quotes do not close it.
-/

namespace SqlTemplate.Sql

/-- Reads up to the closing quote: the text before it as written, and what follows it. A doubled
quote does not close; where `escapes` holds, a backslash takes the next character along. -/
def readQuoted (quote : Char) (escapes : Bool) : List Char → Option (List Char × List Char)
  | [] => none
  | [c] => if c = quote then some ([], []) else none
  | c :: d :: rest =>
    if c = quote then
      if d = quote then
        (readQuoted quote escapes rest).map fun (text, after) => (c :: d :: text, after)
      else some ([], d :: rest)
    else if escapes && c == '\\' then
      (readQuoted quote escapes rest).map fun (text, after) => (c :: d :: text, after)
    else (readQuoted quote escapes (d :: rest)).map fun (text, after) => (c :: text, after)

/-- Reads up to three closing quotes in a row, of which `run` have just been read: the text before
them with its last two quotes still on it, and what follows them. -/
def readTripled (quote : Char) : (run : Nat) → List Char → Option (List Char × List Char)
  | _, [] => none
  | run, c :: cs =>
    if c = quote then
      if run = 2 then some ([], cs)
      else (readTripled quote (run + 1) cs).map fun (text, after) => (c :: text, after)
    else (readTripled quote 0 cs).map fun (text, after) => (c :: text, after)

/-- Writes held text between quotes: a quote is written twice, be it held once or twice, except
after a backslash, where it is written as held. -/
def quotedBody (quote : Char) : (previous : Char) → List Char → List Char
  | _, [] => []
  | previous, c :: cs =>
    if c = quote then
      if previous = '\\' then c :: quotedBody quote previous cs
      else match cs with
        | d :: rest =>
          if d = quote then c :: c :: quotedBody quote c rest
          else c :: c :: quotedBody quote c (d :: rest)
        | [] => [c, c]
    else c :: quotedBody quote c cs

/-- Held text with its quotes around it. -/
def writeQuoted (quote : Char) (text : String) : String :=
  String.ofList (quote :: quotedBody quote '\x00' text.toList ++ [quote])

/-- Writes each quote of a text twice. -/
def doubleQuotes (quote : Char) (cs : List Char) : List Char :=
  cs.flatMap fun c => if c = quote then [c, c] else [c]

end SqlTemplate.Sql
