import SqlTemplate.Sql.Parser.Call

/-!
# Reading special forms

Expressions that a keyword or a brace starts and that are written neither as a call nor with
operators.
-/

namespace SqlTemplate.Sql.Parser

/-- A phrase as an expression. -/
def phraseExpr (draft : Draft Slot) : Expr := .phrase draft.phrase

/-- The branches of a case. -/
def caseBranches (g : Grammar) : (fuel : Nat) → Parser (List Expr × List Expr)
  | 0 => return ([], [])
  | fuel + 1 => do
    let condition ← g.expr 0
    expectWord "THEN"
    let result ← g.expr 0
    if ← acceptWord "WHEN" then
      let (conditions, results) ← caseBranches g fuel
      return (condition :: conditions, result :: results)
    else return ([condition], [result])

/-- A case behind its keyword. -/
def caseExpr (g : Grammar) : Parser Expr := do
  let operand ← do
    if ← acceptWord "WHEN" then pure none
    else
      let e ← g.expr 0
      expectWord "WHEN"
      pure (some e)
  let (conditions, results) ← caseBranches g ((← remaining) + 1)
  let otherwise ← optionalClause "ELSE" (g.expr 0)
  expectWord "END"
  return .case operand conditions results otherwise

/-- The words and the kind of a conversion. -/
def castWords : CastStyle → String × String
  | .cast => ("CAST", "Cast")
  | .tryCast => ("TRY_CAST", "TryCast")
  | .safeCast => ("SAFE_CAST", "SafeCast")
  | .doubleColon => ("CAST", "DoubleColon")

/-- The format of a conversion, if it is said. -/
def castFormat : Parser (Option Wording) := do
  match ← optionalClause "FORMAT" value with
  | none => return none
  | some v =>
    if ← acceptWords ["AT", "TIME", "ZONE"] then
      let zone ← value
      return some ⟨v.toSql ++ " AT TIME ZONE " ++ zone.toSql,
        .node "ValueAtTimeZone" (.list [.literal v, .literal zone])⟩
    else return some ⟨v.toSql, .node "Value" (.literal v)⟩

/-- A conversion behind its keyword. -/
def castExpr (g : Grammar) (style : CastStyle) : Parser Expr := do
  expectSign "("
  let operand ← g.expr 0
  expectWord "AS"
  let type ← dataType g
  let format ← castFormat
  expectSign ")"
  match format with
  | none => return .cast style operand type
  | some format =>
    let (word, kind) := castWords style
    return phraseExpr do
      let operand ← Draft.expr operand
      let type ← Draft.phrasePart type
      return ⟨words (word ++ "(") ++ operand.written ++ words " AS " ++ type.written ++
          words (" FORMAT " ++ format.text ++ ")"),
        form "Cast" [("kind", .text kind), ("expr", operand.shape), ("data_type", type.shape),
          ("format", format.shape)]⟩

/-- A conversion to a type or to a character set, behind its keyword. -/
def convertExpr (g : Grammar) (tolerant : Bool) : Parser Expr := do
  expectSign "("
  let operand ← g.expr 0
  let (type, charset) ← do
    if ← acceptWord "USING" then pure (none, some (← name))
    else
      expectSign ","
      let type ← dataType g
      let charset ← do
        if ← acceptWords ["CHARACTER", "SET"] then pure (some (← name)) else pure none
      pure (some type, charset)
  expectSign ")"
  return phraseExpr do
    let operand ← Draft.expr operand
    let type ← Draft.optPart (type.map .phrase)
    let charsetLead := if type.isSome then " CHARACTER SET " else " USING "
    return ⟨words (wordIf tolerant "TRY_" ++ "CONVERT(") ++ operand.written ++ behind ", " type ++
        behind charsetLead (charset.map Name.slot) ++ words ")",
      form "Convert" [("is_try", .flag tolerant), ("expr", operand.shape),
        ("data_type", optShape type),
        ("charset", nameShape charset), ("target_before_value", .flag false),
        ("styles", .list [])]⟩

/-- A field of a time, behind its keyword. -/
def extractExpr (g : Grammar) : Parser Expr := do
  expectSign "("
  let field ← timeField g.dialect
  let fault : Fault := .rejected "Expected 'FROM' or ','" none
  let (lead, kind) ← do
    if ← acceptWord "FROM" then pure (" FROM ", "From")
    else if ← acceptSign "," then
      match g.dialect with
      | .generic => pure (", ", "Comma")
      | .clickHouse => throw fault
    else throw fault
  let operand ← g.expr 0
  expectSign ")"
  return phraseExpr do
    let operand ← Draft.expr operand
    return ⟨words ("EXTRACT(" ++ field.text ++ lead) ++ operand.written ++ words ")",
      form "Extract" [("field", field.shape), ("syntax", .text kind), ("expr", operand.shape)]⟩

/-- A rounding up or down, behind its keyword: to a whole number, to a unit of time, or to some
places. -/
def roundExpr (g : Grammar) (word kind : String) : Parser Expr := do
  expectSign "("
  let operand ← g.expr 0
  let target : Wording ← do
    if ← acceptWord "TO" then
      let field ← timeField g.dialect
      pure ⟨" TO " ++ field.text, .node "DateTimeField" field.shape⟩
    else if ← acceptSign "," then
      match ← value with
      | .number text long =>
        let scale : Literal := .number text long
        pure ⟨", " ++ scale.toSql, .node "Scale" (.literal scale)⟩
      | _ => throw (.rejected "Scale field can only be of number type" none)
    else pure ⟨"", .node "DateTimeField" (.text "NoDateTime")⟩
  expectSign ")"
  return phraseExpr do
    let operand ← Draft.expr operand
    return ⟨words (word ++ "(") ++ operand.written ++ words (target.text ++ ")"),
      form kind [("expr", operand.shape), ("field", target.shape)]⟩

/-- The place of a text in another, behind its keyword; without `IN` it is a plain call. -/
def positionExpr (g : Grammar) (operand : Parser Expr) (first : Ident) : Parser Expr := do
  let found ← attempt do
    expectSign "("
    let sought ← g.expr comparisonLevel
    expectWord "IN"
    let text ← g.expr 0
    expectSign ")"
    return phraseExpr do
      let sought ← Draft.expr sought
      let text ← Draft.expr text
      return ⟨words "POSITION(" ++ sought.written ++ words " IN " ++ text.written ++ words ")",
        form "Position" [("expr", sought.shape), ("in", text.shape)]⟩
  match found with
  | some e => return e
  | none =>
    expectSign "("
    call g operand false [first]

/-- A piece of a text, behind its keyword. -/
def substringExpr (g : Grammar) : Parser Expr := do
  expectSign "("
  let text ← g.expr 0
  let special ← acceptSign ","
  let start ← do
    if special then pure (some (← g.expr 0)) else optionalClause "FROM" (g.expr 0)
  let length ← do
    if ← acceptWord "FOR" then pure (some (← g.expr 0))
    else if ← acceptSign "," then pure (some (← g.expr 0))
    else pure none
  expectSign ")"
  return phraseExpr do
    let text ← Draft.expr text
    let start ← Draft.optExpr start
    let length ← Draft.optExpr length
    return ⟨words "SUBSTRING(" ++ text.written ++
        behind (if special then ", " else " FROM ") start ++
        behind (if special then ", " else " FOR ") length ++ words ")",
      form "Substring" [("expr", text.shape), ("substring_from", optShape start),
        ("substring_for", optShape length), ("special", .flag special)]⟩

/-- A text with a piece of it replaced, behind its keyword. -/
def overlayExpr (g : Grammar) : Parser Expr := do
  expectSign "("
  let text ← g.expr 0
  expectWord "PLACING"
  let what ← g.expr 0
  expectWord "FROM"
  let start ← g.expr 0
  let length ← optionalClause "FOR" (g.expr 0)
  expectSign ")"
  return phraseExpr do
    let text ← Draft.expr text
    let what ← Draft.expr what
    let start ← Draft.expr start
    let length ← Draft.optExpr length
    return ⟨words "OVERLAY(" ++ text.written ++ words " PLACING " ++ what.written ++
        words " FROM " ++ start.written ++ behind " FOR " length ++ words ")",
      form "Overlay" [("expr", text.shape), ("overlay_what", what.shape),
        ("overlay_from", start.shape), ("overlay_for", optShape length)]⟩

/-- The sides from which a text is trimmed: word and kind. -/
def trimSides : List (String × String) :=
  [("BOTH", "Both"), ("LEADING", "Leading"), ("TRAILING", "Trailing")]

/-- A trimmed text as a phrase. -/
def trimmed (side : Option String) (text : Expr) (what : Option Expr)
    (characters : Option (List Expr)) : Expr := phraseExpr do
  let text ← Draft.expr text
  let what ← Draft.optExpr what
  let characters ← match characters with
    | none => pure none
    | some es => some <$> Draft.exprs es
  return ⟨words "TRIM(" ++ words ((side.map (· ++ " ")).getD "") ++
      (match what with
        | none => []
        | some what => what.written ++ words " FROM ") ++
      text.written ++ commasBehind ", " (characters.getD []) ++ words ")",
    form "Trim" [("expr", text.shape),
      ("trim_where", textShape (side.bind fun s => trimSides.lookup s)),
      ("trim_what", optShape what),
      ("trim_characters", (characters.map listShape).getD .null)]⟩

/-- A trimmed text, behind its keyword. -/
def trimExpr (g : Grammar) : Parser Expr := do
  expectSign "("
  let side ← acceptOneOf (trimSides.map Prod.fst)
  let e ← g.expr 0
  if ← acceptWord "FROM" then
    let text ← g.expr 0
    expectSign ")"
    return trimmed side text (some e) none
  else
    let comma ← acceptSign ","
    if comma && g.dialect = .generic then
      let characters ← commaSeparated (g.expr 0)
      expectSign ")"
      return trimmed none e none (some characters)
    else
      expectSign ")"
      return trimmed side e none none

/-- The ways to search texts: keywords and kind. -/
def searchModes : List (List String × String) :=
  [(["IN", "NATURAL", "LANGUAGE", "MODE", "WITH", "QUERY", "EXPANSION"],
      "InNaturalLanguageModeWithQueryExpansion"),
    (["IN", "NATURAL", "LANGUAGE", "MODE"], "InNaturalLanguageMode"),
    (["IN", "BOOLEAN", "MODE"], "InBooleanMode"),
    (["WITH", "QUERY", "EXPANSION"], "WithQueryExpansion")]

/-- A search in columns, behind its keyword. -/
def matchExpr : Parser Expr := do
  let columns ← columnList
  expectWord "AGAINST"
  expectSign "("
  let sought ← value
  let mode ← acceptFirst searchModes
  expectSign ")"
  return .phrase <| Wording.phrase
    ⟨"MATCH (" ++ identsText columns ++ ") AGAINST (" ++ sought.toSql ++
        withLead " " (mode.map fun (keywords, _) => String.intercalate " " keywords) ++ ")",
      form "MatchAgainst" [("columns", .list (columns.map .ident)),
        ("match_value", .literal sought), ("opt_search_modifier", textShape (mode.map Prod.snd))]⟩

/-- A member of a structure, with a name or without. -/
def structMember (g : Grammar) (typed : Bool) : Parser (Expr × Option Ident) := do
  let e ← g.expr 0
  let l ← peek
  if ← acceptWord "AS" then
    if typed then reject "Typed syntax does not allow AS" l else return (e, some (← ident))
  else return (e, none)

/-- A structure behind its keyword, at which it starts. -/
def structExpr (g : Grammar) (start : Option Lexeme) : Parser Expr := do
  let (defs, closed) ← structType start (dataTypeAt g ((← remaining) + 1))
  if closed then reject "unmatched > in STRUCT literal" (← peek)
  let members ← inParens (commaSeparated (structMember g (!defs.isEmpty)))
  return phraseExpr do
    let members ← members.mapM fun (e, label) => do
      let e ← Draft.expr e
      return match label with
        | none => e
        | some label => ⟨e.written ++ words (" AS " ++ label.toSql),
            form "Named" [("expr", e.shape), ("name", .ident label)]⟩
    let defs ← drafts defs
    return ⟨words "STRUCT" ++ commasWithin "<" ">" defs ++ words "(" ++ commas members ++
        words ")",
      form "Struct" [("values", listShape members), ("fields", listShape defs)]⟩

/-- Something between braces. -/
def inBraces {α : Type} (p : Parser α) : Parser α := do
  expectSign "\x7b"
  let a ← p
  expectSign "\x7d"
  return a

/-- A map behind its keyword; it may be empty. -/
def mapExpr (g : Grammar) : Parser Expr := do
  let entries ← inBraces <| commaSeparatedUntil "\x7d" do
    let key ← g.expr 0
    expectSign ":"
    return (key, ← g.expr 0)
  return phraseExpr do
    let entries : List Slot ← entries.mapM fun (key, v) => do
      let key ← Draft.expr key
      let v ← Draft.expr v
      return ⟨key.written ++ words ": " ++ v.written,
        fields [("key", key.shape), ("value", v.shape)]⟩
    return ⟨words "MAP \x7b" ++ commas entries ++ words "\x7d",
      form "Map" [("entries", listShape entries)]⟩

/-- A dictionary, which has at least one member. -/
def dictionaryExpr (g : Grammar) : Parser Expr := do
  let members ← inBraces <| commaSeparated do
    let key ← ident
    expectSign ":"
    return (key, ← g.expr 0)
  return phraseExpr do
    let members : List Slot ← members.mapM fun (key, v) => do
      let v ← Draft.expr v
      return ⟨words (key.toSql ++ ": ") ++ v.written,
        fields [("key", .ident key), ("value", v.shape)]⟩
    return ⟨words "\x7b" ++ commas members ++ words "\x7d",
      .node "Dictionary" (listShape members)⟩

/-- What an opening brace starts: a call, or a dictionary in the generic dialect. -/
def braceExpr (g : Grammar) (operand : Parser Expr) : Parser Expr := do
  let l ← peek
  let input ← get
  expectSign "\x7b"
  let function ← attempt do
    expectWord "FN"
    let function ← name
    expectSign "("
    call g operand true function
  match function, g.dialect with
  | some e, _ =>
    expectSign "\x7d"
    return e
  | none, .generic =>
    set input
    dictionaryExpr g
  | none, .clickHouse => expected "an expression" l

/-- The part of a row that came before, behind its keyword. -/
def priorExpr (g : Grammar) : Parser Expr := do
  let e ← g.expr addLevel
  return .phrase (exprClause "PRIOR " "Prior" e)

/-- A test for rows behind its keyword. -/
def existsExpr (g : Grammar) (negated : Bool) : Parser Expr :=
  return .exists (← inParens g.query) negated

/-- The special form that a keyword starts, if it starts one. The keyword has been taken. -/
def specialForm (g : Grammar) (operand : Parser Expr) (word : String) (first : Ident)
    (start following : Option Lexeme) : Option (Parser Expr) :=
  match word with
  | "TRUE" => some (return .literal (.bool true))
  | "FALSE" => some (return .literal (.bool false))
  | "NULL" => some (return .literal .null)
  | "CURRENT_CATALOG" | "CURRENT_USER" | "SESSION_USER" | "USER" =>
    match g.dialect with
    | .clickHouse => none
    | .generic => some (return .bareCall [first])
  | "CURRENT_TIMESTAMP" | "CURRENT_TIME" | "CURRENT_DATE" | "LOCALTIME" | "LOCALTIMESTAMP" =>
    some do
      if ← acceptSign "(" then return plainCall [first] (← argList g)
      else return .bareCall [first]
  | "CASE" => some (caseExpr g)
  | "CONVERT" => some (convertExpr g false)
  | "TRY_CONVERT" =>
    match g.dialect with
    | .clickHouse => none
    | .generic => some (convertExpr g true)
  | "CAST" => some (castExpr g .cast)
  | "TRY_CAST" => some (castExpr g .tryCast)
  | "SAFE_CAST" => some (castExpr g .safeCast)
  | "EXISTS" => some (existsExpr g false)
  | "EXTRACT" => some (extractExpr g)
  | "CEIL" => some (roundExpr g "CEIL" "Ceil")
  | "FLOOR" => some (roundExpr g "FLOOR" "Floor")
  | "POSITION" => if isSign "(" following then some (positionExpr g operand first) else none
  | "SUBSTRING" => some (substringExpr g)
  | "OVERLAY" => some (overlayExpr g)
  | "TRIM" => some (trimExpr g)
  | "INTERVAL" => some (interval g operand)
  | "ARRAY" =>
    if isSign "[" following then some do
      expectSign "["
      let items ← commaSeparatedUntil "]" (g.expr 0)
      expectSign "]"
      return .array items true
    else if g.dialect = .generic ∧ isSign "(" following then some do
      return .queryCall [first] (← inParens g.query)
    else none
  | "NOT" => some do
    if ← acceptWord "EXISTS" then existsExpr g true
    else return .unary .not (← g.expr notLevel)
  | "MATCH" =>
    match g.dialect with
    | .clickHouse => none
    | .generic => some matchExpr
  | "STRUCT" =>
    match g.dialect with
    | .clickHouse => none
    | .generic => some (structExpr g start)
  | "PRIOR" => if g.connecting then some (priorExpr g) else none
  | "MAP" =>
    if g.dialect = .generic ∧ isSign "\x7b" following then some (mapExpr g) else none
  | _ => none

end SqlTemplate.Sql.Parser
