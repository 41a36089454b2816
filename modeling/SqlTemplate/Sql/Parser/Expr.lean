import SqlTemplate.Sql.Parser.Form

/-!
# Reading expressions

An expression is an operand and the operators behind it. A word may be an operand of its own or
start a special form; a special form that cannot be read gives way to the plain word.
-/

namespace SqlTemplate.Sql.Parser

/-- An operand, and whether a collation may stand behind it. -/
structure Operand where
  expr : Expr
  collatable : Bool

/-- The names behind the points of a qualified name. -/
def pointedNames : (fuel : Nat) → Parser Name
  | 0 => return []
  | fuel + 1 => do
    if ← acceptSign "." then
      let l ← next
      match l, identOf? l with
      | _, some i => return i :: (← pointedNames fuel)
      | some ⟨.sign "*", _⟩, none => expected "an identifier after '.'" l
      | _, none => expected "an identifier or a '*' after '.'" l
    else return []

/-- Whether a text literal can stand behind the name of its character set. -/
def isIntroducible : Option Lexeme → Bool
  | some ⟨.string kind _, _⟩ => kind == .single || kind == .hex
  | _ => false

/-- What a word without a special meaning starts: a call, a qualified name, a text literal in a
character set, or a name. -/
def plainWord (g : Grammar) (operand : Parser Expr) (first : Ident) : Parser Expr := do
  let l ← peek
  if isSign "(" l || isSign "." l then
    let parts := first :: (← pointedNames (← remaining))
    if ← acceptSign "(" then call g operand false parts else return .compound parts
  else if first.text.toList.head? = some '_' && isIntroducible l then
    let v ← value
    return .phrase <| Wording.phrase ⟨first.text ++ " " ++ v.toSql,
      form "IntroducedString" [("introducer", .text first.text), ("value", .literal v)]⟩
  else return .ident first

/-- An expression that starts with a word, which has been taken. A special form that cannot be
read gives way to a plain word, unless its keyword is reserved. -/
def wordExpr (g : Grammar) (operand : Parser Expr) (start : Lexeme) (first : Ident) :
    Parser Operand := fun input =>
  let plain := plainWord g operand first
  let form := start.token.keyword?.bind fun word =>
    (specialForm g operand word first (some start) input.head?).map (word, ·)
  match form with
  | none => (return ⟨← plain, true⟩ : Parser Operand) input
  | some (word, form) =>
    match form input with
    | .ok (e, rest) => .ok (⟨e, true⟩, rest)
    | .error (.fatal text) => .error (.fatal text)
    | .error fault =>
      if reservedForIdent.contains word then .error fault
      else match plain input with
        | .ok (e, rest) => .ok (⟨e, false⟩, rest)
        | .error (.fatal text) => .error (.fatal text)
        | .error _ => .error fault

/-- What stands behind an opening parenthesis, with its closing one: a query, an expression or a
tuple. -/
def parenExpr (g : Grammar) : Parser Expr := do
  let e ← do
    if ← comesQuery then pure (.subquery (← g.query))
    else match ← commaSeparated (g.expr 0) with
      | [e] => pure (.nested e)
      | items => pure (.tuple items)
  expectSign ")"
  if ← acceptSign "." then
    let l ← next
    match l with
    | some ⟨.word text quote, span⟩ =>
      let key : Ident := ⟨text, quote, some span⟩
      return phraseExpr do
        let e ← Draft.expr e
        return ⟨e.written ++ words ("." ++ key.toSql),
          form "CompositeAccess" [("expr", e.shape), ("key", .ident key)]⟩
    | _ => reject ("Expected identifier, found: " ++ foundText l) l
  else return e

/-- A text literal marked with a type, or an interval. -/
def typedLiteral (g : Grammar) (operand : Parser Expr) : Parser Expr := do
  let type ← dataType g
  if isIntervalType type then interval g operand
  else if isCustomType type then reject "" none
  else return .typedString type (← literalText g.dialect)

/-- Whether a text literal can stand as an expression of a dialect. -/
def isLiteralKind (dialect : Dialect) (kind : StringKind) : Bool :=
  kind != .escaped || dialect == .generic

/-- An expression without operators behind it that is no typed literal. -/
def plainOperand (g : Grammar) (operand : Parser Expr) : Parser Operand := do
  let input ← get
  let l ← next
  match l with
  | none => expected "an expression" l
  | some lexeme =>
    match lexeme.token with
    | .word text quote => wordExpr g operand lexeme ⟨text, quote, some lexeme.span⟩
    | .number text long => return ⟨.literal (.number text long), true⟩
    | .string kind text =>
      if isLiteralKind g.dialect kind then return ⟨.literal (.string kind text), true⟩
      else expected "an expression" l
    | .placeholder text => return ⟨.literal (.placeholder text), true⟩
    | .sign "[" =>
      let items ← commaSeparatedUntil "]" (g.expr 0)
      expectSign "]"
      return ⟨.array items false, true⟩
    | .sign "-" => return ⟨.unary .minus (← g.expr multiplyLevel), true⟩
    | .sign "+" => return ⟨.unary .plus (← g.expr multiplyLevel), true⟩
    | .sign "(" => return ⟨← parenExpr g, true⟩
    | .sign "\x7b" =>
      set input
      return ⟨← braceExpr g operand, true⟩
    | .sign text =>
      if text = ":" ∨ text = "@" then
        set input
        return ⟨.literal (← value), true⟩
      else expected "an expression" l
    | .blank => expected "an expression" l

/-- A collation behind an operand, if there is one. -/
def collated (e : Expr) : Parser Expr := do
  match ← optionalClause "COLLATE" name with
  | none => return e
  | some collation =>
    return phraseExpr do
      let e ← Draft.expr e
      return ⟨e.written ++ words (" COLLATE " ++ collation.toSql),
        form "Collate" [("expr", e.shape), ("collation", collation.shape)]⟩

/-- An expression without operators behind it, with at most `fuel` intervals inside one another. -/
def operandAt (g : Grammar) : (fuel : Nat) → Parser Expr
  | 0 => expectedNext "an expression"
  | fuel + 1 => do
    match ← attempt (typedLiteral g (operandAt g fuel)) with
    | some e => return e
    | none =>
      let found ← plainOperand g (operandAt g fuel)
      if found.collatable then collated found.expr else return found.expr

/-- The right side of a comparison with a set. -/
def amongExpr (g : Grammar) (level : Nat) : Parser Expr := do
  let input ← get
  expectSign "("
  if ← comesQuery then
    set input
    g.expr level
  else
    let right ← g.expr level
    expectSign ")"
    return right

/-- What stands behind `IS`. -/
def isExpr (g : Grammar) (left : Expr) : Parser Expr := do
  if ← acceptWord "NULL" then return .is left .null
  else if ← acceptWords ["NOT", "NULL"] then return .is left .notNull
  else if ← acceptWord "TRUE" then return .is left .true
  else if ← acceptWords ["NOT", "TRUE"] then return .is left .notTrue
  else if ← acceptWord "FALSE" then return .is left .false
  else if ← acceptWords ["NOT", "FALSE"] then return .is left .notFalse
  else if ← acceptWord "UNKNOWN" then return .is left .unknown
  else if ← acceptWords ["NOT", "UNKNOWN"] then return .is left .notUnknown
  else if ← acceptWords ["DISTINCT", "FROM"] then
    return .isDistinct left (← g.expr 0) false
  else if ← acceptWords ["NOT", "DISTINCT", "FROM"] then
    return .isDistinct left (← g.expr 0) true
  else expectedNext "[NOT] NULL or TRUE|FALSE or [NOT] DISTINCT FROM after IS"

/-- What stands behind `AT`. -/
def atZoneExpr (g : Grammar) (left : Expr) (level : Nat) : Parser Expr := do
  expectWords ["TIME", "ZONE"]
  let zone ← g.expr level
  return phraseExpr do
    let left ← Draft.expr left
    let zone ← Draft.expr zone
    return ⟨left.written ++ words " AT TIME ZONE " ++ zone.written,
      form "AtTimeZone" [("timestamp", left.shape), ("time_zone", zone.shape)]⟩

/-- What stands behind `IN`. -/
def inExpr (g : Grammar) (left : Expr) (negated : Bool) : Parser Expr := do
  if ← acceptWord "UNNEST" then
    let items ← inParens (g.expr 0)
    return phraseExpr do
      let left ← Draft.expr left
      let items ← Draft.expr items
      return ⟨left.written ++ words (wordIf negated " NOT" ++ " IN UNNEST(") ++ items.written ++
          words ")",
        form "InUnnest" [("expr", left.shape), ("array_expr", items.shape),
          ("negated", .flag negated)]⟩
  else
    expectSign "("
    let e ← do
      if ← comesQuery then pure (.inQuery left (← g.query) negated)
      else pure (.inList left (← commaSeparated (g.expr 0)) negated)
    expectSign ")"
    return e

/-- What stands behind `BETWEEN`. -/
def betweenExpr (g : Grammar) (left : Expr) (negated : Bool) : Parser Expr := do
  let low ← g.expr comparisonLevel
  expectWord "AND"
  let high ← g.expr comparisonLevel
  return .between left low high negated

/-- The character that takes another one along in a pattern, if it is said. -/
def escapeClause (g : Grammar) : Parser (Option String) :=
  optionalClause "ESCAPE" (literalText g.dialect)

/-- What stands behind `LIKE`. -/
def likeExpr (g : Grammar) (kind : LikeKind) (left : Expr) (negated : Bool) : Parser Expr := do
  let any ← acceptWord "ANY"
  let pattern ← g.expr likeLevel
  return .like kind left pattern negated any (← escapeClause g)

/-- A test behind its operand that may be negated. -/
def testExpr (g : Grammar) (left : Expr) : Parser Expr := do
  let negated ← acceptWord "NOT"
  let regexp ← acceptWord "REGEXP"
  let rlike ← acceptWord "RLIKE"
  if regexp || rlike then
    let pattern ← g.expr likeLevel
    return .like (if regexp then .regexp else .rlike) left pattern negated false none
  else if ← acceptWord "IN" then inExpr g left negated
  else if ← acceptWord "BETWEEN" then betweenExpr g left negated
  else if ← acceptWord "LIKE" then likeExpr g .like left negated
  else if ← acceptWord "ILIKE" then likeExpr g .ilike left negated
  else if ← acceptWords ["SIMILAR", "TO"] then
    let pattern ← g.expr likeLevel
    return .like .similar left pattern negated false (← escapeClause g)
  else expectedNext "IN or BETWEEN after NOT"

/-- A slice of a list. -/
def sliceExpr (left : Expr) (lower upper stride : Option Expr) : Expr := phraseExpr do
  let left ← Draft.expr left
  let lower ← Draft.optExpr lower
  let upper ← Draft.optExpr upper
  let stride ← Draft.optExpr stride
  return ⟨left.written ++ words "[" ++ behind "" lower ++ words ":" ++ behind "" upper ++
      behind ":" stride ++ words "]",
    form "Subscript" [("expr", left.shape),
      ("subscript", form "Slice" [("lower_bound", optShape lower),
        ("upper_bound", optShape upper), ("stride", optShape stride)])]⟩

/-- What stands behind an opening bracket: an index, or the bounds of a slice. -/
def subscriptExpr (g : Grammar) (left : Expr) : Parser Expr := do
  let lower ← do
    if ← acceptSign ":" then pure none else pure (some (← g.expr 0))
  if ← acceptSign "]" then
    match lower with
    | some index => return .subscript left index
    | none => return sliceExpr left none none none
  else
    if lower.isSome then expectSign ":"
    if ← acceptSign "]" then return sliceExpr left lower none none
    else
      let upper ← g.expr 0
      if ← acceptSign "]" then return sliceExpr left lower (some upper) none
      else
        expectSign ":"
        if ← acceptSign "]" then return sliceExpr left lower (some upper) none
        else
          let stride ← g.expr 0
          expectSign "]"
          return sliceExpr left lower (some upper) (some stride)

/-- The keys behind an opening bracket and those that follow in brackets of their own. -/
def elementExpr (g : Grammar) (left : Expr) : Parser Expr := do
  let key := do
    let key ← g.expr 0
    expectSign "]"
    return key
  let first ← key
  let more ← repeatWhile (acceptSign "[") key (← remaining)
  return .element left (first :: more)

/-- The words that start a test behind its operand. -/
def testWords : List String :=
  ["NOT", "IN", "BETWEEN", "LIKE", "ILIKE", "SIMILAR", "REGEXP", "RLIKE"]

/-- Which members of a set a word is about. -/
def amongOf : String → Among
  | "ANY" => .any
  | "ALL" => .all
  | _ => .some

/-- Takes the operator that comes next, which has a level, and what stands behind it. -/
def infixExpr (g : Grammar) (left : Expr) (level : Nat) : Parser Expr := do
  let input ← get
  let l ← next
  match l with
  | none => expected "an expression" l
  | some lexeme =>
    match ← binaryOp? g.dialect lexeme.token with
    | some op =>
      match ← acceptOneOf ["ANY", "ALL", "SOME"] with
      | some word =>
        let right ← amongExpr g level
        if isComparison op then return .compare left op (amongOf word) right
        else
          reject ("Expected one of [=, >, <, =>, =<, !=] as comparison operator, found: " ++
            op.toSql) l
      | none => return .binary left op (← g.expr level)
    | none =>
      match lexeme.token, g.dialect, lexeme.token.keyword? with
      | .sign "::", _, _ => return .cast .doubleColon left (← dataType g)
      | .sign "[", .generic, _ => subscriptExpr g left
      | .sign "[", .clickHouse, _ => elementExpr g left
      | _, _, some "IS" => isExpr g left
      | _, _, some "AT" => atZoneExpr g left level
      | _, _, some word =>
        if testWords.contains word then
          set input
          testExpr g left
        else reject ("No infix parser for token " ++ lexeme.token.debugText) l
      | _, _, none => reject ("No infix parser for token " ++ lexeme.token.debugText) l

/-- Takes operators above a level and what stands behind them, at most `fuel` of them. -/
def infixLoop (g : Grammar) (level : Nat) : (fuel : Nat) → Expr → Parser Expr
  | 0, left => return left
  | fuel + 1, left => do
    let nextLevel := infixLevel (← get)
    if nextLevel ≤ level then return left
    else
      let e ← infixExpr g left nextLevel
      infixLoop g level fuel e

/-- An expression whose operators are all above a level. -/
def exprAbove (g : Grammar) (level : Nat) : Parser Expr := do
  let left ← operandAt g ((← remaining) + 1)
  infixLoop g level (← remaining) left

end SqlTemplate.Sql.Parser
