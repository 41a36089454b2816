import SqlTemplate.Sql.Parser.Type

/-!
# Operators and their levels

An operator takes its right side only as far as operators of a higher level go.
-/

namespace SqlTemplate.Sql

namespace Parser

/-- The level of comparisons, `IN` and `BETWEEN`. -/
def comparisonLevel : Nat := 20

/-- The level of `LIKE` and the other comparisons with a pattern. -/
def likeLevel : Nat := 19

/-- The level of `NOT`. -/
def notLevel : Nat := 15

/-- The level of addition. -/
def addLevel : Nat := 30

/-- The level of multiplication and of signs before a number. -/
def multiplyLevel : Nat := 40

/-- The level of a time zone behind a time. -/
def zoneLevel : Nat := 41

/-- The level of an operator that is written as a sign, 0 for other signs. -/
def signLevel (text : String) : Nat :=
  match text with
  | "::" | "[" | "!" | "&&" | "^@" => 50
  | "*" | "/" | "%" | "||" | "//" => 40
  | "+" | "-" => 30
  | "&" => 23
  | "^" | "#" | "<<" | ">>" => 22
  | "|" => 21
  | "=" | "==" | "<>" | "<" | "<=" | ">" | ">=" | "<=>" => 20
  | "~" | "~*" | "!~" | "!~*" | "~~" | "~~*" | "!~~" | "!~~*" => 20
  | "->" | "->>" | "#>" | "#>>" | "@>" | "<@" | "#-" | "@?" | "@@" => 16
  | _ => 0

/-- The level of an operator that is written as a word, 0 for other words. -/
def wordLevel (word : String) : Nat :=
  match word with
  | "DIV" => multiplyLevel
  | "XOR" => 24
  | "IN" | "BETWEEN" | "OPERATOR" => comparisonLevel
  | "LIKE" | "ILIKE" | "SIMILAR" | "RLIKE" | "REGEXP" => likeLevel
  | "IS" => 17
  | "AND" => 10
  | "OR" => 5
  | _ => 0

/-- The level of `NOT` in front of a word. -/
def negatedLevel (word : String) : Nat :=
  match word with
  | "IN" | "BETWEEN" => comparisonLevel
  | "LIKE" | "ILIKE" | "SIMILAR" | "RLIKE" | "REGEXP" => likeLevel
  | _ => 0

/-- The level of the operator that comes next. `NOT` has the level of the word behind it, and `AT`
is an operator only in front of a time zone. -/
def infixLevel : List Lexeme → Nat
  | [] => 0
  | l :: rest =>
    match l.token with
    | .sign text => signLevel text
    | .word _ none =>
      match l.token.keyword? with
      | some "NOT" => negatedLevel ((rest.head?.bind (·.token.keyword?)).getD "")
      | some "AT" => if startsWithWords ["TIME", "ZONE"] rest then zoneLevel else 0
      | some word => wordLevel word
      | none => 0
    | _ => 0

/-- The operators that are signs in every dialect. -/
def signOps : List (String × BinaryOp) :=
  [("+", .plus), ("-", .minus), ("*", .multiply), ("/", .divide), ("%", .modulo),
    ("||", .concat), ("=", .eq), ("==", .eq), ("<>", .notEq), ("<", .lt), ("<=", .ltEq),
    (">", .gt), (">=", .gtEq), ("<=>", .spaceship), ("&", .bitAnd), ("|", .bitOr),
    ("^", .bitXor), ("~", .matches), ("~*", .matchesAnyCase), ("!~", .differs),
    ("!~*", .differsAnyCase), ("~~", .resembles), ("~~*", .resemblesAnyCase), ("!~~", .unlike),
    ("!~~*", .unlikeAnyCase), ("->", .arrow), ("->>", .longArrow), ("#>", .hashArrow),
    ("#>>", .hashLongArrow), ("@>", .atArrow), ("<@", .arrowAt), ("#-", .hashMinus),
    ("@?", .atQuestion), ("@@", .atAt)]

/-- The operators that are signs of the generic dialect only. -/
def genericSignOps : List (String × BinaryOp) :=
  [("//", .wholeDivide), ("<<", .shiftLeft), (">>", .shiftRight), ("^@", .startsWith),
    ("&&", .overlaps)]

/-- The parts of the name of an operator, with points between them: any tokens will do. -/
def operatorName : (fuel : Nat) → Parser (List String)
  | 0 => return []
  | fuel + 1 => do
    let part := foundText (← next)
    if ← acceptSign "." then return part :: (← operatorName fuel) else return [part]

/-- The operator between two operands that a token stands for; the token has been taken. -/
def binaryOp? (dialect : Dialect) (token : Token) : Parser (Option BinaryOp) := do
  match token with
  | .sign text =>
    match signOps.lookup text, dialect with
    | some op, _ => return some op
    | none, .generic => return genericSignOps.lookup text
    | none, .clickHouse => return none
  | _ =>
    match token.keyword?, dialect with
    | some "AND", _ => return some .and
    | some "OR", _ => return some .or
    | some "XOR", _ => return some .xor
    | some "OPERATOR", .generic =>
      expectSign "("
      let parts ← operatorName ((← remaining) + 1)
      expectSign ")"
      return some (.named parts)
    | _, _ => return none

/-- Whether an operator compares. -/
def isComparison : BinaryOp → Bool
  | .eq | .notEq | .lt | .ltEq | .gt | .gtEq => true
  | _ => false

/-- Whether a query comes next. -/
def comesQuery : Parser Bool := comesOneOf ["SELECT", "WITH"]

end Parser

end SqlTemplate.Sql
