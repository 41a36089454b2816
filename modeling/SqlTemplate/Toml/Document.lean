import SqlTemplate.Toml.Item
import SqlTemplate.Toml.Number

/-!
# Reading TOML documents

* `parse` reads a document; it says nothing about why a text is none.
-/

namespace SqlTemplate.Toml

/-- A reader of the front of a text. -/
abbrev Reader := StateT (List Char) Option

namespace Reader

/-- Takes the next character. -/
def take : Reader Char := do
  match ← get with
  | [] => failure
  | c :: rest =>
    set rest
    return c

/-- Takes one given character. -/
def char (c : Char) : Reader Unit := do
  if (← take) = c then return else failure

/-- Takes the longest run of characters of a class. -/
def longest (p : Char → Bool) : Reader (List Char) := do
  let cs ← get
  set (cs.dropWhile p)
  return cs.takeWhile p

/-- Takes some characters if they come next. -/
def next (cs : List Char) : Reader Bool := do
  let rest ← get
  if rest.take cs.length = cs then
    set (rest.drop cs.length)
    return true
  else return false

/-- Skips blanks. -/
def blanks : Reader Unit := do
  let _ ← longest fun c => c == ' ' || c == '\t'

/-- A character that may stand in a comment. -/
def isText (c : Char) : Bool := c == '\t' || (0x20 ≤ c.toNat && c.toNat ≠ 0x7F)

/-- Skips a comment, if one comes. -/
def comment : Reader Unit := do
  if ← next ['#'] then
    let _ ← longest isText

/-- Takes the end of a line, if it comes. -/
def newline : Reader Bool := do
  if ← next ['\n'] then return true else next ['\r', '\n']

/-- Skips blanks, comments and ends of lines, at most `fuel` of these. -/
def gaps : (fuel : Nat) → Reader Unit
  | 0 => return
  | fuel + 1 => do
    blanks
    comment
    if ← newline then gaps fuel

/-- The number of characters left. -/
def left : Reader Nat := return (← get).length

/-- The character of some hexadecimal digits. -/
def codePoint (width : Nat) : Reader Char := do
  let cs ← get
  let digits := cs.take width
  let n := numberOf 16 digits
  if digits.length = width ∧ digits.all isHexDigit ∧ n.isValidChar then
    set (cs.drop width)
    return Char.ofNat n
  else failure

/-- A character behind a backslash. -/
def escape : Reader Char := do
  match ← take with
  | 'b' => return '\x08'
  | 't' => return '\t'
  | 'n' => return '\n'
  | 'f' => return '\x0c'
  | 'r' => return '\r'
  | '"' => return '"'
  | '\\' => return '\\'
  | 'u' => codePoint 4
  | 'U' => codePoint 8
  | _ => failure

/-- The rest of a text on one line. -/
def lineBody (quote : Char) : (fuel : Nat) → Reader (List Char)
  | 0 => failure
  | fuel + 1 => do
    let c ← take
    if c = quote then return []
    else if c = '\\' ∧ quote = '"' then
      let e ← escape
      return e :: (← lineBody quote fuel)
    else if isText c then return c :: (← lineBody quote fuel)
    else failure

/-- The rest of a text over several lines. Up to two quotes may stand before the closing three. -/
def linesBody (quote : Char) : (fuel : Nat) → Reader (List Char)
  | 0 => failure
  | fuel + 1 => do
    let quotes ← longest (· == quote)
    if 6 ≤ quotes.length then failure
    else if 3 ≤ quotes.length then return quotes.drop 3
    else if ← newline then return quotes ++ '\n' :: (← linesBody quote fuel)
    else
      let c ← take
      if c = '\\' ∧ quote = '"' then
        let behind ← get
        blanks
        if ← newline then
          gapLines (← left)
          return quotes ++ (← linesBody quote fuel)
        else
          set behind
          let e ← escape
          return quotes ++ e :: (← linesBody quote fuel)
      else if isText c then return quotes ++ c :: (← linesBody quote fuel)
      else failure
where
  /-- Skips blanks and ends of lines. -/
  gapLines : (fuel : Nat) → Reader Unit
    | 0 => return
    | fuel + 1 => do
      blanks
      if ← newline then gapLines fuel

/-- The rest of a text behind its first quote; `several` allows three quotes. -/
def stringBody (quote : Char) (several : Bool) : Reader String := do
  let tripled ← if several then next [quote, quote] else pure false
  if tripled then
    let _ ← newline
    return String.ofList (← linesBody quote ((← left) + 1))
  else return String.ofList (← lineBody quote ((← left) + 1))

/-- A name of a key: bare, or between quotes. -/
def simpleKey : Reader String := do
  if ← next ['"'] then stringBody '"' false
  else if ← next ['\''] then stringBody '\'' false
  else
    let cs ← longest fun c => c.isAlphanum || c == '_' || c == '-'
    if cs.isEmpty then failure else return String.ofList cs

/-- The names behind the first one of a dotted key. -/
def moreKeys : (fuel : Nat) → Reader (List String)
  | 0 => return []
  | fuel + 1 => do
    blanks
    if ← next ['.'] then
      blanks
      let name ← simpleKey
      return name :: (← moreKeys fuel)
    else return []

/-- How deep keys and brackets can be nested. -/
def maxDepth : Nat := 79

/-- A dotted key: the path, and the last name. -/
def key : Reader (List String × String) := do
  let first ← simpleKey
  let names := first :: (← moreKeys (← left))
  if maxDepth < names.length then failure
  else return (names.dropLast, names.getLast?.getD first)

/-- A character of a number or a moment. -/
def isWordPart (c : Char) : Bool :=
  c.isAlphanum || c == '_' || c == '+' || c == '-' || c == '.' || c == ':'

/-- A word: a truth value, a number or a moment. A blank may divide a date from its time. -/
def word : Reader Item := do
  let cs ← longest isWordPart
  let cs ← do
    match date? cs, ← get with
    | some [], ' ' :: c :: _ =>
      if c.isDigit then
        let _ ← take
        let time ← longest isWordPart
        pure (cs ++ ' ' :: time)
      else pure cs
    | _, _ => pure cs
  match integer? cs with
  | some n => return .integer n
  | none =>
    if cs = ['t', 'r', 'u', 'e'] then return .bool true
    else if cs = ['f', 'a', 'l', 's', 'e'] then return .bool false
    else if isFloat cs then return .float
    else if isMoment cs then return .moment
    else failure

/-- A key, its sign and its item. -/
def keyItem (item : Reader Item) : Reader (List String × String × Item) := do
  let (path, name) ← key
  blanks
  char '='
  blanks
  return (path, name, ← item)

/-- The items of an array behind its bracket. -/
def arrayItems (item : Reader Item) : (fuel : Nat) → Reader (List Item)
  | 0 => failure
  | fuel + 1 => do
    gaps (← left)
    if ← next [']'] then return []
    else
      let first ← item
      gaps (← left)
      if ← next [','] then return first :: (← arrayItems item fuel)
      else
        char ']'
        return [first]

/-- The keys of a table behind its brace; the first one has been found missing or not. -/
def tableKeys (item : Reader Item) : (fuel : Nat) → Reader (List (List String × String × Item))
  | 0 => failure
  | fuel + 1 => do
    blanks
    let first ← keyItem item
    blanks
    if ← next [','] then return first :: (← tableKeys item fuel)
    else
      char '}'
      return [first]

/-- A text, a number or a moment. -/
def plainItem : Reader Item := do
  match (← get).head? with
  | some '"' =>
    let _ ← take
    return .string (← stringBody '"' true)
  | some '\'' =>
    let _ ← take
    return .string (← stringBody '\'' true)
  | _ => word

/-- An item whose brackets are nested at most `depth` deep. -/
def itemWithin : (depth : Nat) → Reader Item
  | 0 => do
    if (← get).head? = some '[' ∨ (← get).head? = some '\x7b' then failure else plainItem
  | depth + 1 => do
    if ← next ['['] then return .array (← arrayItems (itemWithin depth) ((← left) + 1))
    else if ← next ['\x7b'] then
      blanks
      if ← next ['\x7d'] then return .table .braces []
      else
        let keys ← tableKeys (itemWithin depth) ((← left) + 1)
        match Table.assignAll keys [] with
        | some members => return .table .braces members
        | none => failure
    else plainItem

/-- An item. -/
def item : Reader Item := itemWithin maxDepth

end Reader

/-- What a line of a document says. -/
inductive Line where
  | nothing
  | key (path : List String) (name : String) (item : Item)
  | header (path : List String) (name : String)
  | arrayHeader (path : List String) (name : String)

namespace Reader

/-- A line without its end. -/
def line : Reader Line := do
  blanks
  let cs ← get
  let said ← do
    match cs with
    | [] | '#' :: _ | '\n' :: _ | '\r' :: _ => pure Line.nothing
    | '[' :: '[' :: rest =>
      set rest
      blanks
      let (path, name) ← key
      blanks
      char ']'
      char ']'
      pure (.arrayHeader path name)
    | '[' :: rest =>
      set rest
      blanks
      let (path, name) ← key
      blanks
      char ']'
      pure (.header path name)
    | _ =>
      let (path, name, item) ← keyItem item
      pure (.key path name item)
  blanks
  comment
  return said

/-- The lines of a document. -/
def lines : (fuel : Nat) → Reader (List Line)
  | 0 => failure
  | fuel + 1 => do
    let said ← line
    if ← newline then return said :: (← lines fuel)
    else if (← get).isEmpty then return [said]
    else failure

end Reader

/-- A header and the keys up to the next one. The first section of a document has no header. -/
structure Section where
  header : Line
  keys : List (List String × String × Item)

/-- The sections of some lines, the keys before the first header apart. -/
def sections : List Line → List (List String × String × Item) × List Section
  | [] => ([], [])
  | line :: rest =>
    let (keys, later) := sections rest
    match line with
    | .nothing => (keys, later)
    | .key path name item => ((path, name, item) :: keys, later)
    | .header _ _ | .arrayHeader _ _ => ([], ⟨line, keys⟩ :: later)

/-- Adds a section to a document. -/
def Section.add (s : Section) (t : Table) : Option Table :=
  match s.header with
  | .header path name => t.within path (Table.declare name s.keys)
  | .arrayHeader path name => t.within path (Table.append name s.keys)
  | .nothing | .key _ _ _ => some t

/-- The table of a document. -/
def parse (text : String) : Option Table := do
  let cs := match text.toList with
    | '\uFEFF' :: rest => rest
    | cs => cs
  let (lines, _) ← (Reader.lines (cs.length + 1)).run cs
  let (keys, later) := sections lines
  let root ← Table.assignAll keys []
  later.foldlM (fun t (s : Section) => s.add t) root

end SqlTemplate.Toml
