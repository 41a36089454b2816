import SqlTemplate.Proofs.Operators
import SqlTemplate.Proofs.Words

/-!
# Reading predicates

The predicate of a filter is a comparison, a test, a choice from a list or a match of a column with text literals. Its
tokens are read as one operand, whatever conjunction or parenthesis comes behind them (`Reads.exprAbove`); conjunctions
of predicates are read from the left, unless the word `ANY`, `ALL` or `SOME` comes behind the `AND`
(`conjunction_reads`, `conjunction_refused`).
-/

namespace SqlTemplate.Sql.Parser

/-- The grammar one level deeper reads what is inside an expression. -/
theorem grammar_expr (dialect : Dialect) (depth : Nat) :
    (grammar dialect (depth + 1)).expr = exprAbove (grammar dialect depth) := rfl

theorem grammar_dialect (dialect : Dialect) (depth : Nat) : (grammar dialect depth).dialect = dialect := by
  cases depth <;> rfl

theorem grammar_connecting (dialect : Dialect) (depth : Nat) : (grammar dialect depth).connecting = false := by
  cases depth <;> rfl

/-- What can come behind a predicate or behind one of its literals. -/
inductive Stops : List Lexeme → Prop
  | nil : Stops []
  | and (sp : Text.Span) (rest : List Lexeme) : Stops (⟨.word "AND" none, sp⟩ :: rest)
  | closing (sp : Text.Span) (rest : List Lexeme) : Stops (⟨.sign ")", sp⟩ :: rest)
  | comma (sp : Text.Span) (rest : List Lexeme) : Stops (⟨.sign ",", sp⟩ :: rest)

variable {dialect : Dialect} {depth level : Nat} {ts rest : List Lexeme}

/-- The loop over the operators behind a predicate ends where the level is that of `AND` or above. -/
theorem infixLoop_stops {g : Grammar} (h : Stops rest) (hl : 10 ≤ level) (fuel : Nat) (e : Expr) :
    infixLoop g level fuel e rest = .ok (e, rest) := by
  refine infixLoop_stop ?_ fuel e
  cases h with
  | and sp rest => exact hl
  | _ => exact Nat.zero_le _

/-- A text literal is an operand of its own. -/
theorem operandAt_string {g : Grammar} (h : Stops rest) (fuel : Nat) (raw : String) (sp : Text.Span) :
    operandAt g (fuel + 1) (⟨.string .single raw, sp⟩ :: rest) = .ok (.literal (.string .single raw), rest) := by
  cases h <;> rfl

theorem exprAbove_string {g : Grammar} (h : Stops rest) (hl : 10 ≤ level) (raw : String) (sp : Text.Span) :
    exprAbove g level (⟨.string .single raw, sp⟩ :: rest) = .ok (.literal (.string .single raw), rest) := by
  unfold exprAbove
  rw [run_bind_ok (a := rest.length + 1) (r := ⟨.string .single raw, sp⟩ :: rest) rfl,
    run_bind_ok (operandAt_string h _ raw sp), run_bind_ok (a := rest.length) (r := rest) rfl]
  exact infixLoop_stops h hl _ _

/-! ## Columns -/

/-- The tokens of a column and the expression that they are read as. -/
inductive Column (dialect : Dialect) : List Lexeme → Expr → Prop
  | bare (text : String) (sp : Text.Span) (hw : keywordOf text none ∈ bareWords dialect) :
      Column dialect [⟨.word text none, sp⟩] (.bareCall [⟨text, none, some sp⟩])
  | plain (text : String) (quote : Option Char) (sp : Text.Span) (ps : List (Text.Span × String × Text.Span))
      (hw : keywordOf text quote ∉ Macro.expressionKeywords)
      (hr : keywordOf text quote ∉ reservedForColumnAlias)
      (hb : keywordOf text quote ∉ bareWords dialect) (hs : keywordOf text quote ∉ stubbornWords dialect) :
      Column dialect (⟨.word text quote, sp⟩ :: pointed ps) (columnExpr ⟨text, quote, some sp⟩ (pointedIdents ps))

variable {ks : List Lexeme} {c : Expr}

/-- A bare word is no keyword of expressions. -/
theorem not_mem_expressionKeywords_of_bare {word : String} (h : word ∈ bareWords dialect) :
    word ∉ Macro.expressionKeywords := by
  have hall : ∀ d, ∀ w ∈ bareWords d, w ∉ Macro.expressionKeywords := by
    intro d
    cases d <;> decide
  exact hall dialect word h

/-- A column is read as an operand. -/
theorem Column.operandAt (hc : Column dialect ks c) (h : Ends ts) (fuel : Nat) :
    operandAt (grammar dialect depth) (fuel + 1) (ks ++ ts) = .ok (c, ts) := by
  have hd := grammar_dialect dialect depth
  have hg := grammar_connecting dialect depth
  cases hc with
  | bare text sp hw =>
    have hstub : ∀ d, ∀ w ∈ bareWords d, w ∉ stubbornWords d := by
      intro d
      cases d <;> decide
    rcases operandAt_column (not_mem_expressionKeywords_of_bare hw) hg fuel sp h [] with
      ⟨-, hok⟩ | ⟨hs, -⟩ | ⟨hb, -, -⟩
    · exact hok
    · exact absurd (hd ▸ hs) (hstub dialect _ hw)
    · exact absurd hw (hd ▸ hb)
  | plain text quote sp ps hw hr hb hs =>
    rcases operandAt_column hw hg fuel sp h ps with ⟨hb', -⟩ | ⟨hs', -⟩ | ⟨-, -, hok⟩
    · exact absurd (hd ▸ hb') hb
    · exact absurd (hd ▸ hs') hs
    · exact hok

/-- A column, and the operators behind it. -/
theorem Column.exprAbove (hc : Column dialect ks c) (h : Ends ts) :
    exprAbove (grammar dialect depth) level (ks ++ ts) =
      infixLoop (grammar dialect depth) level ts.length c ts := by
  unfold Parser.exprAbove
  rw [run_bind_ok (a := (ks ++ ts).length) (r := ks ++ ts) rfl, run_bind_ok (hc.operandAt h _)]
  rfl

/-! ## Comparisons, tests and lists -/

/-- The signs that compare a column with a text. -/
def comparisons : List (String × BinaryOp) :=
  [("=", .eq), ("<>", .notEq), ("<", .lt), (">", .gt), ("<=", .ltEq), (">=", .gtEq)]

variable {sign : String} {op : BinaryOp}

theorem mem_comparisons (h : (sign, op) ∈ comparisons) :
    sign = "=" ∧ op = .eq ∨ sign = "<>" ∧ op = .notEq ∨ sign = "<" ∧ op = .lt ∨ sign = ">" ∧ op = .gt ∨
      sign = "<=" ∧ op = .ltEq ∨ sign = ">=" ∧ op = .gtEq := by
  simpa [comparisons] using h

theorem ends_comparison (h : (sign, op) ∈ comparisons) (sp sp' : Text.Span) (raw : String) :
    Ends (⟨.sign sign, sp⟩ :: ⟨.string .single raw, sp'⟩ :: rest) := by
  rcases mem_comparisons h with ⟨rfl, -⟩ | ⟨rfl, -⟩ | ⟨rfl, -⟩ | ⟨rfl, -⟩ | ⟨rfl, -⟩ | ⟨rfl, -⟩
  · exact ⟨.eq .., rfl⟩
  · exact ⟨.notEq .., rfl⟩
  · exact ⟨.lt .., rfl⟩
  · exact ⟨.gt .., rfl⟩
  · exact ⟨.ltEq .., rfl⟩
  · exact ⟨.gtEq .., rfl⟩

theorem infixExpr_comparison (dialect : Dialect) (depth : Nat) (h : (sign, op) ∈ comparisons) (hs : Stops rest)
    (sp sp' : Text.Span) (raw : String) :
    infixLevel (⟨.sign sign, sp⟩ :: ⟨.string .single raw, sp'⟩ :: rest) = 20 ∧
    infixExpr (grammar dialect (depth + 1)) c 20 (⟨.sign sign, sp⟩ :: ⟨.string .single raw, sp'⟩ :: rest) =
      .ok (.binary c op (.literal (.string .single raw)), rest) := by
  have hright := exprAbove_string (g := grammar dialect depth) hs (show 10 ≤ 20 by omega) raw sp'
  have hread : infixExpr (grammar dialect (depth + 1)) c 20
        (⟨.sign sign, sp⟩ :: ⟨.string .single raw, sp'⟩ :: rest) =
      (do return .binary c op (← exprAbove (grammar dialect depth) 20) : Parser Expr)
        (⟨.string .single raw, sp'⟩ :: rest) := by
    rcases mem_comparisons h with ⟨rfl, rfl⟩ | ⟨rfl, rfl⟩ | ⟨rfl, rfl⟩ | ⟨rfl, rfl⟩ | ⟨rfl, rfl⟩ | ⟨rfl, rfl⟩ <;> rfl
  refine ⟨?_, ?_⟩
  · rcases mem_comparisons h with ⟨rfl, -⟩ | ⟨rfl, -⟩ | ⟨rfl, -⟩ | ⟨rfl, -⟩ | ⟨rfl, -⟩ | ⟨rfl, -⟩ <;> rfl
  · rw [hread, run_bind_ok hright]
    rfl

theorem infixExpr_in (g : Grammar) (c : Expr) (level : Nat) (sp : Text.Span) (rest : List Lexeme) :
    infixExpr g c level (⟨.word "IN" none, sp⟩ :: rest) = inExpr g c false rest := by
  obtain ⟨dialect, connecting, expr, relating, query, statement⟩ := g
  cases dialect <;> rfl

theorem infixExpr_notIn (g : Grammar) (c : Expr) (level : Nat) (nsp sp : Text.Span) (rest : List Lexeme) :
    infixExpr g c level (⟨.word "NOT" none, nsp⟩ :: ⟨.word "IN" none, sp⟩ :: rest) = inExpr g c true rest := by
  obtain ⟨dialect, connecting, expr, relating, query, statement⟩ := g
  cases dialect <;> rfl

/-- The tokens of text literals with commas in front. -/
def moreTexts (items : List (Text.Span × String × Text.Span)) : List Lexeme :=
  items.flatMap fun (comma, raw, span) => [⟨.sign ",", comma⟩, ⟨.string .single raw, span⟩]

theorem moreTexts_cons (p : Text.Span × String × Text.Span) (ps : List (Text.Span × String × Text.Span))
    (ts : List Lexeme) :
    moreTexts (p :: ps) ++ ts = ⟨.sign ",", p.1⟩ :: ⟨.string .single p.2.1, p.2.2⟩ :: (moreTexts ps ++ ts) := by
  simp [moreTexts]

/-- The literals of tokens with commas in front. -/
def textExprs (items : List (Text.Span × String × Text.Span)) : List Expr :=
  items.map fun (_, raw, _) => .literal (.string .single raw)

/-- A literal of a list, which a comma or the closing parenthesis follows. -/
theorem exprAbove_listed {g : Grammar} (raw : String) (sp closing : Text.Span)
    (items : List (Text.Span × String × Text.Span)) (rest : List Lexeme) :
    exprAbove g 0 (⟨.string .single raw, sp⟩ :: (moreTexts items ++ ⟨.sign ")", closing⟩ :: rest)) =
      .ok (.literal (.string .single raw), moreTexts items ++ ⟨.sign ")", closing⟩ :: rest) := by
  cases items with
  | nil => rfl
  | cons p ps =>
    rw [moreTexts_cons]
    rfl

theorem repeatWhile_texts {g : Grammar} (closing : Text.Span) (rest : List Lexeme) :
    ∀ (items : List (Text.Span × String × Text.Span)) (fuel : Nat), items.length < fuel →
      repeatWhile (acceptSign ",") (exprAbove g 0) fuel (moreTexts items ++ ⟨.sign ")", closing⟩ :: rest) =
        .ok (textExprs items, ⟨.sign ")", closing⟩ :: rest)
  | _, 0, hl => by omega
  | [], fuel + 1, _ => rfl
  | p :: ps, fuel + 1, hl => by
    rw [moreTexts_cons, repeatWhile,
      run_bind_ok (a := true) (r := ⟨.string .single p.2.1, p.2.2⟩ ::
        (moreTexts ps ++ ⟨.sign ")", closing⟩ :: rest)) rfl]
    show (exprAbove g 0 >>= _) _ = _
    rw [run_bind_ok (exprAbove_listed p.2.1 p.2.2 closing ps rest),
      run_bind_ok (repeatWhile_texts closing rest ps fuel (by simp at hl; omega))]
    rfl

theorem length_moreTexts (items : List (Text.Span × String × Text.Span)) (ts : List Lexeme) :
    (moreTexts items ++ ts).length = 2 * items.length + ts.length := by
  induction items with
  | nil => simp [moreTexts]
  | cons p ps ih =>
    rw [moreTexts_cons, List.length_cons, List.length_cons, ih, List.length_cons]
    omega

/-- What stands behind `IN`: the texts of a list. -/
theorem inExpr_texts (negated : Bool) (opening closing : Text.Span) (item : Text.Span × String × Text.Span)
    (items : List (Text.Span × String × Text.Span)) (rest : List Lexeme) :
    inExpr (grammar dialect (depth + 1)) c negated
        (⟨.sign "(", opening⟩ :: ⟨.string .single item.2.1, item.2.2⟩ :: (moreTexts items ++ ⟨.sign ")", closing⟩ :: rest)) =
      .ok (.inList c (textExprs (item :: items)) negated, rest) := by
  have hl : items.length < (moreTexts items ++ ⟨.sign ")", closing⟩ :: rest).length := by
    rw [length_moreTexts, List.length_cons]
    omega
  have hitems : commaSeparated ((grammar dialect (depth + 1)).expr 0)
        (⟨.string .single item.2.1, item.2.2⟩ :: (moreTexts items ++ ⟨.sign ")", closing⟩ :: rest)) =
      .ok (textExprs (item :: items), ⟨.sign ")", closing⟩ :: rest) := by
    rw [grammar_expr]
    unfold commaSeparated
    rw [run_bind_ok (exprAbove_listed item.2.1 item.2.2 closing items rest),
      run_bind_ok (a := (moreTexts items ++ ⟨.sign ")", closing⟩ :: rest).length)
        (r := moreTexts items ++ ⟨.sign ")", closing⟩ :: rest) rfl,
      run_bind_ok (repeatWhile_texts closing rest items _ hl)]
    rfl
  unfold inExpr
  rw [run_bind_ok (a := false) (r := ⟨.sign "(", opening⟩ :: ⟨.string .single item.2.1, item.2.2⟩ ::
    (moreTexts items ++ ⟨.sign ")", closing⟩ :: rest)) rfl]
  show (expectSign "(" >>= _) _ = _
  rw [run_bind_ok (a := ()) (r := ⟨.string .single item.2.1, item.2.2⟩ ::
    (moreTexts items ++ ⟨.sign ")", closing⟩ :: rest)) rfl]
  rw [run_bind_ok (a := false) (r := ⟨.string .single item.2.1, item.2.2⟩ ::
    (moreTexts items ++ ⟨.sign ")", closing⟩ :: rest)) rfl]
  show (commaSeparated _ >>= _) _ = _
  rw [run_bind_ok hitems]
  rfl

/-! ## Matches -/

theorem Column.words (hc : Column dialect ks c) :
    ∃ text quote sp ps, ks = ⟨.word text quote, sp⟩ :: pointed ps := by
  cases hc with
  | bare text sp _ => exact ⟨text, none, sp, [], rfl⟩
  | plain text quote sp ps => exact ⟨text, quote, sp, ps, rfl⟩

theorem ends_comma (sp : Text.Span) (rest : List Lexeme) : Ends (⟨.sign ",", sp⟩ :: rest) := ⟨.comma sp rest, rfl⟩

/-- Names between points end in no star where no star stands. -/
theorem qualifiedStar_pointed (h : Ends ts) : ∀ (ps : List (Text.Span × String × Text.Span)) (fuel : Nat) (parts : Name),
    ∃ rest, qualifiedStar fuel parts (pointed ps ++ ts) = .ok (none, rest)
  | _, 0, _ => ⟨_, rfl⟩
  | [], fuel + 1, parts => by
    refine ⟨ts, ?_⟩
    show qualifiedStar (fuel + 1) parts ts = _
    rw [qualifiedStar, run_bind_ok (acceptSign_point h)]
    rfl
  | p :: ps, fuel + 1, parts => by
    obtain ⟨rest, hrest⟩ := qualifiedStar_pointed h ps fuel (parts ++ [⟨p.2.1, none, some p.2.2⟩])
    refine ⟨rest, ?_⟩
    rw [pointed_cons, qualifiedStar,
      run_bind_ok (a := true) (r := ⟨.word p.2.1 none, p.2.2⟩ :: (pointed ps ++ ts)) rfl]
    exact hrest

/-- An item that starts with a name and a point. -/
theorem item_point (g : Grammar) (text : String) (quote : Option Char) (sp sp' : Text.Span) (rest : List Lexeme) :
    item g (⟨.word text quote, sp⟩ :: ⟨.sign ".", sp'⟩ :: rest) =
      (do
        match ← qualifiedStar (rest.length + 2) [⟨text, quote, some sp⟩] with
        | some (qualifier, star) => return .wildcard qualifier star
        | none =>
          set (⟨.word text quote, sp⟩ :: ⟨.sign ".", sp'⟩ :: rest)
          return .expr (← g.expr 0) : Parser Item) (⟨.sign ".", sp'⟩ :: rest) := rfl

theorem pointed_sign (ps : List (Text.Span × String × Text.Span)) (sign : String) (sp : Text.Span)
    (rest : List Lexeme) :
    ∃ sign' sp' rest', pointed ps ++ ⟨.sign sign, sp⟩ :: rest = ⟨.sign sign', sp'⟩ :: rest' := by
  cases ps with
  | nil => exact ⟨sign, sp, rest, rfl⟩
  | cons p ps => exact ⟨".", p.1, _, pointed_cons p ps _⟩

/-- A qualified name in front of a comma is no wildcard. -/
theorem item_word (g : Grammar) (text : String) (quote : Option Char) (sp comma : Text.Span)
    (ps : List (Text.Span × String × Text.Span)) (rest : List Lexeme) :
    item g (⟨.word text quote, sp⟩ :: (pointed ps ++ ⟨.sign ",", comma⟩ :: rest)) =
      (do return .expr (← g.expr 0) : Parser Item)
        (⟨.word text quote, sp⟩ :: (pointed ps ++ ⟨.sign ",", comma⟩ :: rest)) := by
  cases ps with
  | nil => rfl
  | cons p ps =>
    obtain ⟨left, hstar⟩ := qualifiedStar_pointed (ends_comma comma rest) (p :: ps)
      ((⟨.word p.2.1 none, p.2.2⟩ :: (pointed ps ++ ⟨.sign ",", comma⟩ :: rest)).length + 2) [⟨text, quote, some sp⟩]
    rw [pointed_cons] at hstar ⊢
    rw [item_point, run_bind_ok hstar]
    rfl

/-- A qualified name in front of a comma is an argument without a name. -/
theorem arg_word (g : Grammar) (text : String) (quote : Option Char) (sp comma : Text.Span)
    (ps : List (Text.Span × String × Text.Span)) (rest : List Lexeme) :
    arg g (⟨.word text quote, sp⟩ :: (pointed ps ++ ⟨.sign ",", comma⟩ :: rest)) =
      (do return .expr none (← g.expr 0) : Parser Arg)
        (⟨.word text quote, sp⟩ :: (pointed ps ++ ⟨.sign ",", comma⟩ :: rest)) := by
  have hstyle : Refused (namedStyle g.dialect) (pointed ps ++ ⟨.sign ",", comma⟩ :: rest) := by
    cases ps with
    | nil => cases g.dialect <;> exact ⟨_, _, rfl⟩
    | cons p ps =>
      rw [pointed_cons]
      cases g.dialect <;> exact ⟨_, _, rfl⟩
  have hnamed : Refused (do
      let label ← ident
      let style ← namedStyle g.dialect
      let i ← item g
      return (some (label, style), i) : Parser (Option (Ident × NamedStyle) × Item))
      (⟨.word text quote, sp⟩ :: (pointed ps ++ ⟨.sign ",", comma⟩ :: rest)) :=
    .bind_ok (a := ⟨text, quote, some sp⟩) (r := pointed ps ++ ⟨.sign ",", comma⟩ :: rest) rfl (hstyle.bind _)
  unfold arg
  rw [run_bind_ok (attempt_refused hnamed)]
  show (item g >>= _) _ = _
  rw [run_bind, item_word, run_bind, run_bind]
  cases g.expr 0 _ <;> rfl

/-- A column in front of a comma is an argument without a name. -/
theorem arg_column (hc : Column dialect ks c) (comma : Text.Span) (rest : List Lexeme) :
    arg (grammar dialect (depth + 1)) (ks ++ ⟨.sign ",", comma⟩ :: rest) =
      .ok (.expr none c, ⟨.sign ",", comma⟩ :: rest) := by
  have hexpr : (grammar dialect (depth + 1)).expr 0 (ks ++ ⟨.sign ",", comma⟩ :: rest) =
      .ok (c, ⟨.sign ",", comma⟩ :: rest) := by
    rw [grammar_expr, hc.exprAbove (ends_comma comma rest)]
    rfl
  obtain ⟨text, quote, sp, ps, rfl⟩ := hc.words
  rw [List.cons_append] at hexpr ⊢
  rw [arg_word, run_bind_ok hexpr]
  rfl

/-- A text literal in front of the closing parenthesis is an argument without a name. -/
theorem arg_text (raw : String) (sp closing : Text.Span) (rest : List Lexeme) :
    arg (grammar dialect (depth + 1)) (⟨.string .single raw, sp⟩ :: ⟨.sign ")", closing⟩ :: rest) =
      .ok (.expr none (.literal (.string .single raw)), ⟨.sign ")", closing⟩ :: rest) := by
  cases dialect <;> rfl

/-- The words that say in front of arguments whether repeated values count. -/
def repeatWords : List String := ["ALL", "DISTINCT"]

theorem acceptWords_none {words : List String} (h : startsWithWords words ts = false) :
    acceptWords words ts = .ok (false, ts) := by
  unfold acceptWords
  rw [run_bind_ok (a := ts) (r := ts) rfl, h]
  rfl

/-- What stands behind a word and a sign are no words about nulls. -/
theorem jsonNullClause_none (l : Lexeme) (sign : String) (sp : Text.Span) (rest : List Lexeme) :
    jsonNullClause (l :: ⟨.sign sign, sp⟩ :: rest) = .ok ([], l :: ⟨.sign sign, sp⟩ :: rest) := by
  have hsecond (w w' w'' : String) : startsWithWords [w, w', w''] (l :: ⟨.sign sign, sp⟩ :: rest) = false := by
    simp [startsWithWords, isWord, Token.keyword?]
  unfold jsonNullClause
  rw [run_bind_ok (acceptWords_none (hsecond ..))]
  show (acceptWords _ >>= _) _ = _
  rw [run_bind_ok (acceptWords_none (hsecond ..))]
  rfl

theorem repeats_none {l : Lexeme} (h : ∀ word ∈ repeatWords, l.token.keyword? ≠ some word) :
    repeats (l :: rest) = .ok (none, l :: rest) := by
  have hword (word : String) (hw : word ∈ repeatWords) : acceptWord word (l :: rest) = .ok (false, l :: rest) := by
    rw [acceptWord_cons, if_neg]
    simpa using h word hw
  unfold repeats
  rw [run_bind_ok (a := some l) (r := l :: rest) rfl, run_bind_ok (hword "ALL" (by decide)),
    run_bind_ok (hword "DISTINCT" (by decide))]
  rfl

/-- The arguments of a match. -/
def matchArgs (c : Expr) (raw : String) : ArgList :=
  { repeats := none, args := [.expr none c, .expr none (.literal (.string .single raw))], clauses := [] }

theorem argList_match (hc : Column dialect ks c)
    (hw : ∀ l ∈ ks.head?, ∀ word ∈ repeatWords, l.token.keyword? ≠ some word)
    (comma sp closing : Text.Span) (raw : String) (rest : List Lexeme) :
    argList (grammar dialect (depth + 1))
        (ks ++ ⟨.sign ",", comma⟩ :: ⟨.string .single raw, sp⟩ :: ⟨.sign ")", closing⟩ :: rest) =
      .ok (matchArgs c raw, rest) := by
  have hargs : commaSeparated (arg (grammar dialect (depth + 1)))
        (ks ++ ⟨.sign ",", comma⟩ :: ⟨.string .single raw, sp⟩ :: ⟨.sign ")", closing⟩ :: rest) =
      .ok ((matchArgs c raw).args, ⟨.sign ")", closing⟩ :: rest) := by
    unfold commaSeparated
    rw [run_bind_ok (arg_column hc comma _)]
    rw [run_bind_ok (a := rest.length + 3)
      (r := ⟨.sign ",", comma⟩ :: ⟨.string .single raw, sp⟩ :: ⟨.sign ")", closing⟩ :: rest) rfl]
    rw [run_bind_ok (a := [Arg.expr none (.literal (.string .single raw))]) (r := ⟨.sign ")", closing⟩ :: rest)]
    · rfl
    · rw [repeatWhile, run_bind_ok (a := true) (r := ⟨.string .single raw, sp⟩ :: ⟨.sign ")", closing⟩ :: rest) rfl]
      show (arg _ >>= _) _ = _
      rw [run_bind_ok (arg_text raw sp closing rest)]
      rfl
  obtain ⟨text, quote, spc, ps, rfl⟩ := hc.words
  obtain ⟨sign', sp', rest', hrest⟩ := pointed_sign ps "," comma
    (⟨.string .single raw, sp⟩ :: ⟨.sign ")", closing⟩ :: rest)
  rw [List.cons_append, hrest] at hargs ⊢
  unfold argList
  rw [run_bind_ok (jsonNullClause_none ..)]
  rw [run_bind_ok (a := false) (r := ⟨.word text quote, spc⟩ :: ⟨.sign sign', sp'⟩ :: rest') rfl]
  show (repeats >>= _) _ = _
  rw [run_bind_ok (repeats_none (hw _ rfl)), run_bind_ok hargs]
  cases dialect <;> rfl

/-- The call that matches a column with a pattern. -/
def matchCall (function : Ident) (c : Expr) (raw : String) : Expr :=
  .call [function] none (matchArgs c raw) ⟨false, none⟩ none none

theorem call_match {p : Parser Expr} (hc : Column dialect ks c)
    (hw : ∀ l ∈ ks.head?, ∀ word ∈ repeatWords, l.token.keyword? ≠ some word) (hs : Stops rest)
    (function : Ident) (comma sp closing : Text.Span) (raw : String) :
    call (grammar dialect (depth + 1)) p false [function]
        (ks ++ ⟨.sign ",", comma⟩ :: ⟨.string .single raw, sp⟩ :: ⟨.sign ")", closing⟩ :: rest) =
      .ok (matchCall function c raw, rest) := by
  unfold call
  rw [run_bind_ok (argList_match hc hw comma sp closing raw rest)]
  cases hs <;> rfl

/-- The name of the matching function, with its arguments, is no type that a text literal can follow. -/
theorem typedLiteral_match {operand : Parser Expr} (hs : Stops rest) (text : String) (quote : Option Char)
    (spc : Text.Span) (ps : List (Text.Span × String × Text.Span)) (fsp opening comma sp closing : Text.Span)
    (raw : String) :
    Refused (typedLiteral (grammar dialect (depth + 1)) operand)
      (⟨.word (Macro.matchFunction dialect) none, fsp⟩ :: ⟨.sign "(", opening⟩ :: ⟨.word text quote, spc⟩ ::
        (pointed ps ++ ⟨.sign ",", comma⟩ :: ⟨.string .single raw, sp⟩ :: ⟨.sign ")", closing⟩ :: rest)) := by
  cases ps with
  | nil => cases dialect <;> cases hs <;> exact ⟨_, _, rfl⟩
  | cons p ps =>
    rw [pointed_cons]
    cases dialect <;> exact ⟨_, _, rfl⟩

/-- A match is read as an operand. -/
theorem operandAt_match (hc : Column dialect ks c)
    (hw : ∀ l ∈ ks.head?, ∀ word ∈ repeatWords, l.token.keyword? ≠ some word) (hs : Stops rest) (fuel : Nat)
    (fsp opening comma sp closing : Text.Span) (raw : String) :
    operandAt (grammar dialect (depth + 1)) (fuel + 1)
        (⟨.word (Macro.matchFunction dialect) none, fsp⟩ :: ⟨.sign "(", opening⟩ ::
          (ks ++ ⟨.sign ",", comma⟩ :: ⟨.string .single raw, sp⟩ :: ⟨.sign ")", closing⟩ :: rest)) =
      .ok (matchCall ⟨Macro.matchFunction dialect, none, some fsp⟩ c raw, rest) := by
  have hplain : plainWord (grammar dialect (depth + 1)) (operandAt (grammar dialect (depth + 1)) fuel)
        ⟨Macro.matchFunction dialect, none, some fsp⟩
        (⟨.sign "(", opening⟩ :: (ks ++ ⟨.sign ",", comma⟩ :: ⟨.string .single raw, sp⟩ :: ⟨.sign ")", closing⟩ :: rest)) =
      .ok (matchCall ⟨Macro.matchFunction dialect, none, some fsp⟩ c raw, rest) := by
    rw [← call_match (p := operandAt (grammar dialect (depth + 1)) fuel) hc hw hs _ comma sp closing raw]
    rfl
  obtain ⟨b, hword⟩ := wordExpr_plain (l := ⟨.word (Macro.matchFunction dialect) none, fsp⟩) hplain
    (fun word hk => .inl (by
      cases dialect <;> (cases hk; rfl)))
  refine operandAt_word_ok ?_ hword (by cases hs <;> rfl)
  obtain ⟨text, quote, spc, ps, rfl⟩ := hc.words
  exact typedLiteral_match hs text quote spc ps fsp opening comma sp closing raw

theorem exprAbove_match (depth level : Nat) (hc : Column dialect ks c)
    (hw : ∀ l ∈ ks.head?, ∀ word ∈ repeatWords, l.token.keyword? ≠ some word) (hs : Stops rest)
    (fsp opening comma sp closing : Text.Span) (raw : String) :
    exprAbove (grammar dialect (depth + 1)) level
        (⟨.word (Macro.matchFunction dialect) none, fsp⟩ :: ⟨.sign "(", opening⟩ ::
          (ks ++ ⟨.sign ",", comma⟩ :: ⟨.string .single raw, sp⟩ :: ⟨.sign ")", closing⟩ :: rest)) =
      infixLoop (grammar dialect (depth + 1)) level rest.length
        (matchCall ⟨Macro.matchFunction dialect, none, some fsp⟩ c raw) rest := by
  unfold exprAbove
  rw [run_bind_ok (a := List.length _) (r := _) rfl, run_bind_ok (operandAt_match hc hw hs _ ..)]
  rfl

/-- A negated match is read as an operand. -/
theorem operandAt_notMatch (hc : Column dialect ks c)
    (hw : ∀ l ∈ ks.head?, ∀ word ∈ repeatWords, l.token.keyword? ≠ some word) (hs : Stops rest) (fuel : Nat)
    (nsp fsp opening comma sp closing : Text.Span) (raw : String) :
    operandAt (grammar dialect (depth + 2)) (fuel + 1)
        (⟨.word "NOT" none, nsp⟩ :: ⟨.word (Macro.matchFunction dialect) none, fsp⟩ :: ⟨.sign "(", opening⟩ ::
          (ks ++ ⟨.sign ",", comma⟩ :: ⟨.string .single raw, sp⟩ :: ⟨.sign ")", closing⟩ :: rest)) =
      .ok (.unary .not (matchCall ⟨Macro.matchFunction dialect, none, some fsp⟩ c raw), rest) := by
  have hinner := exprAbove_match depth notLevel hc hw hs fsp opening comma sp closing raw
  rw [infixLoop_stops hs (by decide)] at hinner
  refine operandAt_word_ok (b := true) ?_ (wordExpr_special (w := "NOT") (p := do
    if ← acceptWord "EXISTS" then existsExpr (grammar dialect (depth + 2)) true
    else return .unary .not (← (grammar dialect (depth + 2)).expr notLevel)) rfl rfl ?_) ?_
  · cases dialect <;> exact ⟨_, _, rfl⟩
  · rw [run_bind_ok (a := false) (r := ⟨.word (Macro.matchFunction dialect) none, fsp⟩ :: ⟨.sign "(", opening⟩ ::
      (ks ++ ⟨.sign ",", comma⟩ :: ⟨.string .single raw, sp⟩ :: ⟨.sign ")", closing⟩ :: rest))
      (by cases dialect <;> rfl)]
    show (exprAbove (grammar dialect (depth + 1)) notLevel >>= _) _ = _
    rw [run_bind_ok hinner]
    rfl
  · cases hs <;> rfl

/-! ## Predicates -/

/-- The tokens of a predicate and the expression that they are read as. -/
inductive Reads (dialect : Dialect) : List Lexeme → Expr → Prop
  | comparison {ks : List Lexeme} {c : Expr} {sign : String} {op : BinaryOp} (hc : Column dialect ks c)
      (h : (sign, op) ∈ comparisons) (sp sp' : Text.Span) (raw : String) :
      Reads dialect (ks ++ [⟨.sign sign, sp⟩, ⟨.string .single raw, sp'⟩])
        (.binary c op (.literal (.string .single raw)))
  | isNull {ks : List Lexeme} {c : Expr} (hc : Column dialect ks c) (sp sp' : Text.Span) :
      Reads dialect (ks ++ [⟨.word "IS" none, sp⟩, ⟨.word "NULL" none, sp'⟩]) (.is c .null)
  | isNotNull {ks : List Lexeme} {c : Expr} (hc : Column dialect ks c) (sp sp' sp'' : Text.Span) :
      Reads dialect (ks ++ [⟨.word "IS" none, sp⟩, ⟨.word "NOT" none, sp'⟩, ⟨.word "NULL" none, sp''⟩]) (.is c .notNull)
  | isIn {ks : List Lexeme} {c : Expr} (hc : Column dialect ks c) (sp opening closing : Text.Span)
      (item : Text.Span × String × Text.Span) (items : List (Text.Span × String × Text.Span)) :
      Reads dialect (ks ++ ⟨.word "IN" none, sp⟩ :: ⟨.sign "(", opening⟩ :: ⟨.string .single item.2.1, item.2.2⟩ ::
        (moreTexts items ++ [⟨.sign ")", closing⟩])) (.inList c (textExprs (item :: items)) false)
  | isNotIn {ks : List Lexeme} {c : Expr} (hc : Column dialect ks c) (nsp sp opening closing : Text.Span)
      (item : Text.Span × String × Text.Span) (items : List (Text.Span × String × Text.Span)) :
      Reads dialect (ks ++ ⟨.word "NOT" none, nsp⟩ :: ⟨.word "IN" none, sp⟩ :: ⟨.sign "(", opening⟩ ::
        ⟨.string .single item.2.1, item.2.2⟩ :: (moreTexts items ++ [⟨.sign ")", closing⟩]))
        (.inList c (textExprs (item :: items)) true)
  | isMatch {ks : List Lexeme} {c : Expr} (hc : Column dialect ks c)
      (hw : ∀ l ∈ ks.head?, ∀ word ∈ repeatWords, l.token.keyword? ≠ some word)
      (fsp opening comma sp closing : Text.Span) (raw : String) :
      Reads dialect (⟨.word (Macro.matchFunction dialect) none, fsp⟩ :: ⟨.sign "(", opening⟩ ::
        (ks ++ [⟨.sign ",", comma⟩, ⟨.string .single raw, sp⟩, ⟨.sign ")", closing⟩]))
        (matchCall ⟨Macro.matchFunction dialect, none, some fsp⟩ c raw)
  | isNoMatch {ks : List Lexeme} {c : Expr} (hc : Column dialect ks c)
      (hw : ∀ l ∈ ks.head?, ∀ word ∈ repeatWords, l.token.keyword? ≠ some word)
      (nsp fsp opening comma sp closing : Text.Span) (raw : String) :
      Reads dialect (⟨.word "NOT" none, nsp⟩ :: ⟨.word (Macro.matchFunction dialect) none, fsp⟩ ::
        ⟨.sign "(", opening⟩ :: (ks ++ [⟨.sign ",", comma⟩, ⟨.string .single raw, sp⟩, ⟨.sign ")", closing⟩]))
        (.unary .not (matchCall ⟨Macro.matchFunction dialect, none, some fsp⟩ c raw))

variable {ls : List Lexeme} {e : Expr}

/-- A predicate is read as one operand of a conjunction. -/
theorem Reads.exprAbove (depth level : Nat) (h : Reads dialect ls e) (hs : Stops rest) (hl : level ≤ notLevel) :
    ∃ fuel, rest.length ≤ fuel ∧ exprAbove (grammar dialect (depth + 2)) level (ls ++ rest) =
      infixLoop (grammar dialect (depth + 2)) level fuel e rest := by
  cases h with
  | comparison hc hop sp sp' raw =>
    obtain ⟨hlevel, hread⟩ := infixExpr_comparison dialect (depth + 1) hop hs sp sp' raw
    refine ⟨rest.length + 1, by omega, ?_⟩
    rw [List.append_assoc]
    show Parser.exprAbove _ _ (_ ++ ⟨.sign _, sp⟩ :: ⟨.string .single raw, sp'⟩ :: rest) = _
    rw [hc.exprAbove (ends_comparison hop sp sp' raw)]
    exact infixLoop_step hlevel (Nat.lt_of_le_of_lt hl (by decide)) hread
  | isNull hc sp sp' =>
    refine ⟨rest.length + 1, by omega, ?_⟩
    rw [List.append_assoc]
    show Parser.exprAbove _ _ (_ ++ ⟨.word "IS" none, sp⟩ :: ⟨.word "NULL" none, sp'⟩ :: rest) = _
    rw [hc.exprAbove ⟨.is .., rfl⟩]
    have hread (g : Grammar) (c : Expr) : infixExpr g c 17
        ([⟨.word "IS" none, sp⟩, ⟨.word "NULL" none, sp'⟩] ++ rest) = .ok (.is c .null, rest) := infixExpr_is rfl
    exact infixLoop_step rfl (Nat.lt_of_le_of_lt hl (show 15 < 17 by decide)) (hread _ _)
  | isNotNull hc sp sp' sp'' =>
    refine ⟨rest.length + 2, by omega, ?_⟩
    rw [List.append_assoc]
    show Parser.exprAbove _ _
      (_ ++ ⟨.word "IS" none, sp⟩ :: ⟨.word "NOT" none, sp'⟩ :: ⟨.word "NULL" none, sp''⟩ :: rest) = _
    rw [hc.exprAbove ⟨.is .., rfl⟩]
    have hread (g : Grammar) (c : Expr) : infixExpr g c 17
        ([⟨.word "IS" none, sp⟩, ⟨.word "NOT" none, sp'⟩, ⟨.word "NULL" none, sp''⟩] ++ rest) =
        .ok (.is c .notNull, rest) := infixExpr_is rfl
    exact infixLoop_step rfl (Nat.lt_of_le_of_lt hl (show 15 < 17 by decide)) (hread _ _)
  | isIn hc sp opening closing item items =>
    refine ⟨(⟨.sign "(", opening⟩ :: ⟨.string .single item.2.1, item.2.2⟩ ::
      (moreTexts items ++ ⟨.sign ")", closing⟩ :: rest)).length, ?_, ?_⟩
    · simp only [List.length_cons, length_moreTexts]
      omega
    · rw [List.append_assoc, List.cons_append, List.cons_append, List.cons_append, List.append_assoc]
      show Parser.exprAbove _ _ (_ ++ ⟨.word "IN" none, sp⟩ :: ⟨.sign "(", opening⟩ ::
        ⟨.string .single item.2.1, item.2.2⟩ :: (moreTexts items ++ ⟨.sign ")", closing⟩ :: rest)) = _
      rw [hc.exprAbove ⟨.inWord .., rfl⟩]
      refine infixLoop_step rfl (Nat.lt_of_le_of_lt hl (show 15 < 20 by decide)) ?_
      rw [infixExpr_in, inExpr_texts]
  | isNotIn hc nsp sp opening closing item items =>
    refine ⟨(⟨.word "IN" none, sp⟩ :: ⟨.sign "(", opening⟩ :: ⟨.string .single item.2.1, item.2.2⟩ ::
      (moreTexts items ++ ⟨.sign ")", closing⟩ :: rest)).length, ?_, ?_⟩
    · simp only [List.length_cons, length_moreTexts]
      omega
    · rw [List.append_assoc, List.cons_append, List.cons_append, List.cons_append, List.cons_append, List.append_assoc]
      show Parser.exprAbove _ _ (_ ++ ⟨.word "NOT" none, nsp⟩ :: ⟨.word "IN" none, sp⟩ :: ⟨.sign "(", opening⟩ ::
        ⟨.string .single item.2.1, item.2.2⟩ :: (moreTexts items ++ ⟨.sign ")", closing⟩ :: rest)) = _
      rw [hc.exprAbove ⟨.not .., rfl⟩]
      refine infixLoop_step rfl (Nat.lt_of_le_of_lt hl (show 15 < 20 by decide)) ?_
      rw [infixExpr_notIn, inExpr_texts]
  | isMatch hc hw fsp opening comma sp closing raw =>
    refine ⟨rest.length, Nat.le_refl _, ?_⟩
    rw [← exprAbove_match _ _ hc hw hs fsp opening comma sp closing raw]
    simp
  | isNoMatch hc hw nsp fsp opening comma sp closing raw =>
    refine ⟨rest.length, Nat.le_refl _, ?_⟩
    unfold Parser.exprAbove
    rw [run_bind_ok (a := List.length _) (r := _) rfl]
    simp only [List.cons_append, List.append_assoc, List.nil_append]
    rw [run_bind_ok (operandAt_notMatch hc hw hs _ ..)]
    rfl

/-- A predicate starts with a word that starts no query. -/
theorem Reads.head (h : Reads dialect ls e) :
    ∃ text quote sp ls', ls = ⟨.word text quote, sp⟩ :: ls' ∧ keywordOf text quote ∉ ["SELECT", "WITH"] := by
  have hcolumn : ∀ {ks : List Lexeme} {c : Expr} (_ : Column dialect ks c) (ts : List Lexeme),
      ∃ text quote sp ls', ks ++ ts = ⟨.word text quote, sp⟩ :: ls' ∧ keywordOf text quote ∉ ["SELECT", "WITH"] := by
    intro ks c hc ts
    cases hc with
    | bare text sp hw =>
      have hall : ∀ d, ∀ w ∈ bareWords d, w ∉ ["SELECT", "WITH"] := by
        intro d
        cases d <;> decide
      exact ⟨text, none, sp, _, rfl, hall dialect _ hw⟩
    | plain text quote sp ps hw hr hb hs =>
      refine ⟨text, quote, sp, _, rfl, fun hm => hr ?_⟩
      have hall : ∀ w ∈ ["SELECT", "WITH"], w ∈ reservedForColumnAlias := by decide
      exact hall _ hm
  cases h with
  | comparison hc | isNull hc | isNotNull hc | isIn hc | isNotIn hc => exact hcolumn hc _
  | isMatch => exact ⟨_, none, _, _, rfl, by cases dialect <;> decide +kernel⟩
  | isNoMatch => exact ⟨"NOT", none, _, _, rfl, by decide +kernel⟩

/-- Predicates with `AND` in front. -/
def furtherConjuncts (more : List (Text.Span × List Lexeme × Expr)) : List Lexeme :=
  more.flatMap fun (sp, ls, _) => ⟨.word "AND" none, sp⟩ :: ls

theorem furtherConjuncts_cons (p : Text.Span × List Lexeme × Expr) (ps : List (Text.Span × List Lexeme × Expr))
    (ts : List Lexeme) :
    furtherConjuncts (p :: ps) ++ ts = ⟨.word "AND" none, p.1⟩ :: (p.2.1 ++ (furtherConjuncts ps ++ ts)) := by
  simp [furtherConjuncts]

/-- The conjunction of an expression and further ones, from the left. -/
def conjunction (first : Expr) (more : List Expr) : Expr := more.foldl (fun left e => .binary left .and e) first

theorem stops_furtherConjuncts (more : List (Text.Span × List Lexeme × Expr)) (hs : Stops rest) :
    Stops (furtherConjuncts more ++ rest) := by
  cases more with
  | nil => simpa [furtherConjuncts] using hs
  | cons p ps =>
    rw [furtherConjuncts_cons]
    exact .and _ _

/-- The right side of `AND`, if its first word asks for no set. -/
theorem infixExpr_and_eq {g : Grammar} {l : Lexeme} {left : Expr}
    (hl : ∀ word ∈ amongWords, l.token.keyword? ≠ some word) (sp : Text.Span) :
    infixExpr g left 10 (⟨.word "AND" none, sp⟩ :: l :: ts) =
      (do return .binary left .and (← g.expr 10) : Parser Expr) (l :: ts) :=
  infixExpr_op .and (by cases g.dialect <;> rfl) hl sp

theorem infixExpr_and {g : Grammar} {l : Lexeme} {left : Expr} (hl : ∀ word ∈ amongWords, l.token.keyword? ≠ some word)
    (sp : Text.Span) (he : g.expr 10 (l :: ts) = .ok (e, rest)) :
    infixExpr g left 10 (⟨.word "AND" none, sp⟩ :: l :: ts) = .ok (.binary left .and e, rest) := by
  rw [infixExpr_and_eq hl, run_bind_ok he]
  rfl

/-- Conjunctions are read from the left. -/
theorem infixLoop_conjuncts (depth : Nat) (hs : Stops rest) (hr : infixLevel rest = 0) :
    ∀ (more : List (Text.Span × List Lexeme × Expr)) (fuel : Nat) (left : Expr), more.length ≤ fuel →
      (∀ p ∈ more, Reads dialect p.2.1 p.2.2) →
      (∀ p ∈ more, ∀ l ∈ p.2.1.head?, ∀ word ∈ amongWords, l.token.keyword? ≠ some word) →
      infixLoop (grammar dialect (depth + 3)) 0 fuel left (furtherConjuncts more ++ rest) =
        .ok (conjunction left (more.map fun p => p.2.2), rest)
  | [], fuel, left, _, _, _ => infixLoop_stop (Nat.le_of_eq hr) fuel left
  | p :: ps, fuel, left, hf, hreads, hwords => by
    have hp := hreads p List.mem_cons_self
    obtain ⟨n, -, hread⟩ := hp.exprAbove depth 10 (stops_furtherConjuncts ps hs) (by decide)
    rw [infixLoop_stops (stops_furtherConjuncts ps hs) (Nat.le_refl _)] at hread
    obtain ⟨text, quote, sp, ls', hls, -⟩ := hp.head
    cases fuel with
    | zero => simp at hf
    | succ fuel =>
      have hand : infixExpr (grammar dialect (depth + 3)) left 10
          (⟨.word "AND" none, p.1⟩ :: (p.2.1 ++ (furtherConjuncts ps ++ rest))) =
          .ok (.binary left .and p.2.2, furtherConjuncts ps ++ rest) := by
        have hhead := hwords p List.mem_cons_self
        rw [hls] at hhead hread ⊢
        exact infixExpr_and (hhead _ rfl) p.1 hread
      rw [furtherConjuncts_cons, infixLoop_step (n := 10) rfl (by decide) hand]
      exact infixLoop_conjuncts depth hs hr ps fuel _ (by simp at hf; omega)
        (fun q hq => hreads q (List.mem_cons_of_mem _ hq)) (fun q hq => hwords q (List.mem_cons_of_mem _ hq))

/-- A predicate that starts with a word asking for a set has no parenthesis behind that word. -/
theorem Reads.noOpening (h : Reads dialect ls e) {l : Lexeme} (hl : l ∈ ls.head?) {word : String}
    (hw : word ∈ amongWords) (hk : l.token.keyword? = some word) :
    ∃ l' ls', ls = l :: l' :: ls' ∧ isSign "(" (some l') = false := by
  have hcolumn : ∀ {ks : List Lexeme} {c : Expr} (_ : Column dialect ks c) {ts : List Lexeme}, l ∈ (ks ++ ts).head? →
      Follows ts → ∃ l' ls', ks ++ ts = l :: l' :: ls' ∧ isSign "(" (some l') = false := by
    intro ks c hc ts hl hf
    obtain ⟨text, quote, sp, ps, rfl⟩ := hc.words
    obtain rfl : l = ⟨.word text quote, sp⟩ := by simpa using hl.symm
    cases ps with
    | nil => cases hf <;> exact ⟨_, _, rfl, rfl⟩
    | cons p ps => exact ⟨_, _, congrArg (List.cons _) (pointed_cons p ps ts), rfl⟩
  cases h with
  | comparison hc hop sp sp' raw => exact hcolumn hc hl (ends_comparison hop sp sp' raw).follows
  | isNull hc | isNotNull hc => exact hcolumn hc hl (.is ..)
  | isIn hc => exact hcolumn hc hl (.inWord ..)
  | isNotIn hc => exact hcolumn hc hl (.not ..)
  | isMatch =>
    obtain rfl := Option.some.inj hl
    have hne : Text.upper (Macro.matchFunction dialect) ∉ amongWords := by cases dialect <;> decide +kernel
    exact absurd (Option.some.inj hk ▸ hw) hne
  | isNoMatch =>
    obtain rfl := Option.some.inj hl
    have hne : Text.upper "NOT" ∉ amongWords := by decide +kernel
    exact absurd (Option.some.inj hk ▸ hw) hne

/-- Behind an `AND`, a word that asks for a set needs a parenthesis. -/
theorem infixExpr_and_refused {g : Grammar} {l l' : Lexeme} {left : Expr} {word : String} (hw : word ∈ amongWords)
    (hk : l.token.keyword? = some word) (hl : isSign "(" (some l') = false) (sp : Text.Span) (level : Nat)
    (rest : List Lexeme) : Refused (infixExpr g left level) (⟨.word "AND" none, sp⟩ :: l :: l' :: rest) := by
  have hsome : acceptOneOf ["ANY", "ALL", "SOME"] (l :: l' :: rest) = .ok (some word, l' :: rest) := by
    unfold acceptOneOf
    rw [run_bind_ok (a := l.token.keyword?) (r := l :: l' :: rest) rfl, hk]
    dsimp only
    rw [if_pos (by simpa [amongWords] using hw)]
    rfl
  have hop : binaryOp? g.dialect (.word "AND" none) (l :: l' :: rest) = .ok (some .and, l :: l' :: rest) := by
    cases g.dialect <;> rfl
  unfold infixExpr
  refine .bind_ok (a := ⟨.word "AND" none, sp⟩ :: l :: l' :: rest)
    (r := ⟨.word "AND" none, sp⟩ :: l :: l' :: rest) rfl ?_
  refine .bind_ok (a := some ⟨.word "AND" none, sp⟩) (r := l :: l' :: rest) rfl ?_
  refine .bind_ok hop (.bind_ok hsome (.bind ?_ _))
  exact .bind_ok (a := l' :: rest) (r := l' :: rest) rfl (.bind (expectSign_refused hl) _)

/-- A conjunction in which a later predicate asks for a set is not read. -/
theorem infixLoop_conjuncts_refused (depth : Nat) (hs : Stops rest) :
    ∀ (more : List (Text.Span × List Lexeme × Expr)) (fuel : Nat) (left : Expr), more.length ≤ fuel →
      (∀ p ∈ more, Reads dialect p.2.1 p.2.2) →
      (∃ p ∈ more, ∃ l ∈ p.2.1.head?, ∃ word ∈ amongWords, l.token.keyword? = some word) →
      Refused (infixLoop (grammar dialect (depth + 3)) 0 fuel left) (furtherConjuncts more ++ rest)
  | [], _, _, _, _, hbad => by simp at hbad
  | p :: ps, 0, _, hf, _, _ => by simp at hf
  | p :: ps, fuel + 1, left, hf, hreads, hbad => by
    have hp := hreads p List.mem_cons_self
    by_cases hhead : ∃ l ∈ p.2.1.head?, ∃ word ∈ amongWords, l.token.keyword? = some word
    · obtain ⟨l, hl, word, hw, hk⟩ := hhead
      obtain ⟨l', ls', hls, hopen⟩ := hp.noOpening hl hw hk
      rw [furtherConjuncts_cons, hls]
      refine .bind_ok (a := _) (r := _) rfl ?_
      exact (infixExpr_and_refused hw hk hopen _ _ _).bind _
    · obtain ⟨n, -, hread⟩ := hp.exprAbove depth 10 (stops_furtherConjuncts ps hs) (by decide)
      rw [infixLoop_stops (stops_furtherConjuncts ps hs) (Nat.le_refl _)] at hread
      obtain ⟨text, quote, sp, ls', hls, -⟩ := hp.head
      have hand : infixExpr (grammar dialect (depth + 3)) left 10
          (⟨.word "AND" none, p.1⟩ :: (p.2.1 ++ (furtherConjuncts ps ++ rest))) =
          .ok (.binary left .and p.2.2, furtherConjuncts ps ++ rest) := by
        rw [hls] at hhead hread ⊢
        refine infixExpr_and (fun word hw hk => hhead ⟨_, rfl, word, hw, hk⟩) p.1 hread
      unfold Refused
      rw [furtherConjuncts_cons, infixLoop_step (n := 10) rfl (by decide) hand]
      refine infixLoop_conjuncts_refused depth hs ps fuel _ (by simp at hf; omega)
        (fun q hq => hreads q (List.mem_cons_of_mem _ hq)) ?_
      obtain ⟨q, hq, hbad⟩ := hbad
      rcases List.mem_cons.1 hq with rfl | hq
      · exact absurd hbad hhead
      · exact ⟨q, hq, hbad⟩

/-! ## Whole texts -/

/-- A predicate alone is read as its expression. -/
theorem Reads.alone (depth : Nat) (h : Reads dialect ls e) : (grammar dialect (depth + 3)).expr 0 ls = .ok (e, []) := by
  obtain ⟨fuel, -, hread⟩ := h.exprAbove depth 0 .nil (by decide)
  rw [List.append_nil] at hread
  rw [grammar_expr, hread]
  cases fuel <;> rfl

theorem length_furtherConjuncts (more : List (Text.Span × List Lexeme × Expr)) (ts : List Lexeme) :
    more.length ≤ (furtherConjuncts more ++ ts).length := by
  induction more with
  | nil => simp
  | cons p ps ih =>
    rw [furtherConjuncts_cons, List.length_cons, List.length_cons, List.length_append]
    omega

theorem comesQuery_word {text : String} {quote : Option Char} (h : keywordOf text quote ∉ ["SELECT", "WITH"])
    (sp : Text.Span) (ts : List Lexeme) :
    comesQuery (⟨.word text quote, sp⟩ :: ts) = .ok (false, ⟨.word text quote, sp⟩ :: ts) := by
  cases quote with
  | some q => rfl
  | none =>
    show (pure (["SELECT", "WITH"].contains (Text.upper text)) : Parser Bool) _ = _
    have hfalse : ["SELECT", "WITH"].contains (Text.upper text) = false := by
      simpa [keywordOf, Token.keyword?] using h
    rw [hfalse]
    rfl

/-- An operand that starts with a parenthesis. -/
theorem operandAt_opening (g : Grammar) (fuel : Nat) (opening : Text.Span) (ts : List Lexeme) :
    operandAt g (fuel + 1) (⟨.sign "(", opening⟩ :: ts) =
      (do collated (← parenExpr g) : Parser Expr) ts := by
  rw [operandAt, run_bind_ok (attempt_refused (p := typedLiteral g (operandAt g fuel)) ⟨_, _, rfl⟩)]
  have hplain : plainOperand g (operandAt g fuel) (⟨.sign "(", opening⟩ :: ts) =
      (do return ⟨← parenExpr g, true⟩ : Parser Operand) ts := rfl
  show (plainOperand g (operandAt g fuel) >>= _) _ = _
  rw [run_bind, hplain, run_bind, run_bind]
  cases parenExpr g ts <;> rfl

theorem parenExpr_one {g : Grammar} {closing : Text.Span} (hq : comesQuery ts = .ok (false, ts))
    (he : commaSeparated (g.expr 0) ts = .ok ([e], [⟨.sign ")", closing⟩])) :
    parenExpr g ts = .ok (.nested e, []) := by
  unfold parenExpr
  rw [run_bind_ok hq]
  show (commaSeparated _ >>= _) _ = _
  rw [run_bind_ok he]
  rfl

theorem parenExpr_refused {g : Grammar} (hq : comesQuery ts = .ok (false, ts))
    (he : Refused (commaSeparated (g.expr 0)) ts) : Refused (parenExpr g) ts := by
  unfold parenExpr
  exact .bind_ok hq (he.bind _)

variable {more : List (Text.Span × List Lexeme × Expr)}

/-- A conjunction of predicates between parentheses is read as one expression. -/
theorem conjunction_reads (depth : Nat) (h : Reads dialect ls e) (hmore : ∀ p ∈ more, Reads dialect p.2.1 p.2.2)
    (hwords : ∀ p ∈ more, ∀ l ∈ p.2.1.head?, ∀ word ∈ amongWords, l.token.keyword? ≠ some word)
    (opening closing : Text.Span) :
    (grammar dialect (depth + 5)).expr 0
        (⟨.sign "(", opening⟩ :: (ls ++ (furtherConjuncts more ++ [⟨.sign ")", closing⟩]))) =
      .ok (.nested (conjunction e (more.map fun p => p.2.2)), []) := by
  have hs : Stops [⟨.sign ")", closing⟩] := .closing ..
  obtain ⟨text, quote, sp, ls', hls, hq⟩ := h.head
  obtain ⟨fuel, hfuel, hread⟩ := h.exprAbove (depth + 1) 0 (stops_furtherConjuncts more hs) (by decide)
  have hlen := length_furtherConjuncts more [⟨.sign ")", closing⟩]
  rw [infixLoop_conjuncts depth hs rfl more fuel e (by omega) hmore hwords] at hread
  have hitems : commaSeparated ((grammar dialect (depth + 4)).expr 0)
      (ls ++ (furtherConjuncts more ++ [⟨.sign ")", closing⟩])) =
      .ok ([conjunction e (more.map fun p => p.2.2)], [⟨.sign ")", closing⟩]) := by
    unfold commaSeparated
    rw [grammar_expr, run_bind_ok hread]
    rfl
  rw [grammar_expr]
  unfold exprAbove
  rw [run_bind_ok (a := List.length _) (r := _) rfl, run_bind, operandAt_opening, run_bind,
    parenExpr_one (by rw [hls]; exact comesQuery_word hq _ _) hitems]
  rfl

/-- It is not read if a later predicate starts with a word that asks for a set. -/
theorem conjunction_refused (depth : Nat) (h : Reads dialect ls e) (hmore : ∀ p ∈ more, Reads dialect p.2.1 p.2.2)
    (hwords : ∃ p ∈ more, ∃ l ∈ p.2.1.head?, ∃ word ∈ amongWords, l.token.keyword? = some word)
    (opening closing : Text.Span) :
    Refused ((grammar dialect (depth + 5)).expr 0)
      (⟨.sign "(", opening⟩ :: (ls ++ (furtherConjuncts more ++ [⟨.sign ")", closing⟩]))) := by
  have hs : Stops [⟨.sign ")", closing⟩] := .closing ..
  obtain ⟨text, quote, sp, ls', hls, hq⟩ := h.head
  obtain ⟨fuel, hfuel, hread⟩ := h.exprAbove (depth + 1) 0 (stops_furtherConjuncts more hs) (by decide)
  have hlen := length_furtherConjuncts more [⟨.sign ")", closing⟩]
  have hloop := infixLoop_conjuncts_refused depth hs more fuel e (by omega) hmore hwords
  have hitems : Refused (commaSeparated ((grammar dialect (depth + 4)).expr 0))
      (ls ++ (furtherConjuncts more ++ [⟨.sign ")", closing⟩])) := by
    refine .bind ?_ _
    rw [grammar_expr]
    unfold Refused
    rw [hread]
    exact hloop
  have hparens := parenExpr_refused (by rw [hls]; exact comesQuery_word hq _ _) hitems
  rw [grammar_expr]
  refine .bind_ok (a := List.length _) (r := _) rfl (.bind ?_ _)
  unfold Refused
  rw [operandAt_opening]
  exact hparens.bind _

/-! ## What a predicate that is read says about its column -/

section Inversion

variable {text : String} {quote : Option Char} {sp : Text.Span} {ps : List (Text.Span × String × Text.Span)}

/-- A name that is read as an operand, with no point left behind it, is a column. -/
theorem column_of_operandAt (hw : keywordOf text quote ∉ Macro.expressionKeywords)
    (hr : keywordOf text quote ∉ reservedForColumnAlias) (h : Ends ts) {fuel : Nat}
    (hok : operandAt (grammar dialect depth) (fuel + 1) (⟨.word text quote, sp⟩ :: (pointed ps ++ ts)) = .ok (c, rest))
    (hrest : isSign "." rest.head? = false) : Column dialect (⟨.word text quote, sp⟩ :: pointed ps) c := by
  have hd := grammar_dialect dialect depth
  rcases operandAt_column hw (grammar_connecting dialect depth) fuel sp h ps with ⟨hb, he⟩ | ⟨-, he⟩ | ⟨hb, hs, he⟩
  · rw [he] at hok
    cases hok
    cases ps with
    | cons p ps => simp [pointed_cons, isSign] at hrest
    | nil =>
      cases quote with
      | none => exact .bare text sp (hd ▸ hb)
      | some q =>
        have hempty : "" ∉ bareWords dialect := by cases dialect <;> decide
        exact absurd (hd ▸ hb) hempty
  · exact absurd hok he.ne_ok
  · rw [he] at hok
    cases hok
    exact .plain text quote sp ps hw hr (hd ▸ hb) (hd ▸ hs)

/-- No operator starts with a point. -/
theorem infixLevel_point (h : isSign "." ts.head? = true) : infixLevel ts = 0 := by
  cases ts with
  | nil => cases h
  | cons l rest =>
    obtain ⟨token, span⟩ := l
    have ht : token = .sign "." := by simpa [isSign] using h
    subst ht
    rfl

/-- A name that starts an expression, with no point left behind it, is a column. -/
theorem column_of_exprAbove (hw : keywordOf text quote ∉ Macro.expressionKeywords)
    (hr : keywordOf text quote ∉ reservedForColumnAlias) (h : Ends ts)
    (hok : exprAbove (grammar dialect depth) level (⟨.word text quote, sp⟩ :: (pointed ps ++ ts)) = .ok (e, rest))
    (hrest : isSign "." rest.head? = false) : ∃ c, Column dialect (⟨.word text quote, sp⟩ :: pointed ps) c := by
  obtain ⟨n, mid, hn, hok⟩ := bind_eq_ok hok
  cases hn
  obtain ⟨c, mid, hc, hok⟩ := bind_eq_ok hok
  obtain ⟨m, mid', hm, hok⟩ := bind_eq_ok hok
  cases hm
  refine ⟨c, column_of_operandAt hw hr h hc ?_⟩
  cases hpoint : isSign "." mid.head? with
  | false => rfl
  | true =>
    rw [infixLoop_stop (by rw [infixLevel_point hpoint]; exact Nat.zero_le _)] at hok
    cases hok
    rw [hpoint] at hrest
    cases hrest

/-- Behind `ALL` or `DISTINCT` the arguments cannot start with a sign. -/
theorem repeats_refused {l : Lexeme} {word : String} (hword : word ∈ repeatWords)
    (hk : l.token.keyword? = some word) {ps : List (Text.Span × String × Text.Span)} {comma sp : Text.Span} {raw : String}
    {rest : List Lexeme} {quantifier : Option Repeats} {mid : List Lexeme}
    (hq : repeats (l :: (pointed ps ++ ⟨.sign ",", comma⟩ :: ⟨.string .single raw, sp⟩ :: rest)) = .ok (quantifier, mid)) :
    Refused (commaSeparated (arg (grammar dialect (depth + 1)))) mid := by
  have hmid : mid = pointed ps ++ ⟨.sign ",", comma⟩ :: ⟨.string .single raw, sp⟩ :: rest := by
    obtain ⟨sign', sp', rest', hrest⟩ := pointed_sign ps "," comma (⟨.string .single raw, sp⟩ :: rest)
    rw [hrest] at hq ⊢
    have hall : acceptWord "ALL" (l :: ⟨.sign sign', sp'⟩ :: rest') =
        if l.token.keyword? == some "ALL" then .ok (true, ⟨.sign sign', sp'⟩ :: rest')
        else .ok (false, l :: ⟨.sign sign', sp'⟩ :: rest') := acceptWord_cons ..
    have hdistinct : acceptWord "DISTINCT" (l :: ⟨.sign sign', sp'⟩ :: rest') =
        if l.token.keyword? == some "DISTINCT" then .ok (true, ⟨.sign sign', sp'⟩ :: rest')
        else .ok (false, l :: ⟨.sign sign', sp'⟩ :: rest') := acceptWord_cons ..
    unfold repeats at hq
    rw [run_bind_ok (a := some l) (r := l :: ⟨.sign sign', sp'⟩ :: rest') rfl] at hq
    simp only [repeatWords, List.mem_cons, List.not_mem_nil, or_false] at hword
    rcases hword with rfl | rfl
    · rw [run_bind_ok (hall.trans (if_pos (by simp [hk])))] at hq
      cases hq
      rfl
    · rw [run_bind_ok (hall.trans (if_neg (by simp [hk]))), run_bind_ok (hdistinct.trans (if_pos (by simp [hk])))] at hq
      cases hq
      rfl
  subst hmid
  refine .bind ?_ _
  cases ps with
  | nil => exact ⟨_, _, rfl⟩
  | cons p ps =>
    rw [pointed_cons]
    exact ⟨_, _, rfl⟩

/-- Arguments of a match that are read start with a column, and with no word about repeated values. -/
theorem column_of_argList (hw : keywordOf text quote ∉ Macro.expressionKeywords)
    (hr : keywordOf text quote ∉ reservedForColumnAlias) {comma tsp : Text.Span} {raw : String} {a : ArgList}
    {after : List Lexeme}
    (hok : argList (grammar dialect (depth + 1))
      (⟨.word text quote, sp⟩ :: (pointed ps ++ ⟨.sign ",", comma⟩ :: ⟨.string .single raw, tsp⟩ :: rest)) = .ok (a, after)) :
    (∃ c, Column dialect (⟨.word text quote, sp⟩ :: pointed ps) c) ∧
      ∀ word ∈ repeatWords, (Token.word text quote).keyword? ≠ some word := by
  have hsign := pointed_sign ps "," comma (⟨.string .single raw, tsp⟩ :: rest)
  obtain ⟨sign', sp', rest', hrest⟩ := hsign
  have hjson := jsonNullClause_none ⟨.word text quote, sp⟩ sign' sp' rest'
  rw [← hrest] at hjson
  unfold argList at hok
  rw [run_bind_ok hjson, run_bind_ok (a := false) (r := ⟨.word text quote, sp⟩ ::
    (pointed ps ++ ⟨.sign ",", comma⟩ :: ⟨.string .single raw, tsp⟩ :: rest)) rfl] at hok
  obtain ⟨quantifier, mid, hq, hok⟩ := bind_eq_ok (p := repeats) hok
  obtain ⟨args, mid', hargs, hok⟩ := bind_eq_ok (p := commaSeparated (arg (grammar dialect (depth + 1)))) hok
  have hwords : ∀ word ∈ repeatWords, (Token.word text quote).keyword? ≠ some word :=
    fun word hword hk => (repeats_refused hword hk hq).ne_ok hargs
  rw [repeats_none hwords] at hq
  cases hq
  refine ⟨?_, hwords⟩
  obtain ⟨first, mid, hfirst, hargs⟩ := bind_eq_ok hargs
  rw [arg_word] at hfirst
  obtain ⟨c, mid', hc, hfirst⟩ := bind_eq_ok hfirst
  cases hfirst
  refine column_of_exprAbove hw hr (ends_comma comma _) hc ?_
  -- a point left behind the column would be neither a comma nor the closing parenthesis
  cases hpoint : isSign "." mid.head? with
  | false => rfl
  | true =>
    exfalso
    cases mid with
    | nil => cases hpoint
    | cons l rest =>
      obtain ⟨token, span⟩ := l
      have ht : token = .sign "." := by simpa [isSign] using hpoint
      subst ht
      cases hargs
      cases dialect <;> cases hok

/-- The name of the matching function in front of a parenthesis starts a call. -/
theorem wordExpr_match (operand : Parser Expr) (fsp opening : Text.Span) (ts : List Lexeme) :
    wordExpr (grammar dialect (depth + 1)) operand ⟨.word (Macro.matchFunction dialect) none, fsp⟩
        ⟨Macro.matchFunction dialect, none, some fsp⟩ (⟨.sign "(", opening⟩ :: ts) =
      (do return ⟨← call (grammar dialect (depth + 1)) operand false [⟨Macro.matchFunction dialect, none, some fsp⟩], true⟩ :
        Parser Operand) ts := by
  have hplain : plainWord (grammar dialect (depth + 1)) operand ⟨Macro.matchFunction dialect, none, some fsp⟩
      (⟨.sign "(", opening⟩ :: ts) =
      call (grammar dialect (depth + 1)) operand false [⟨Macro.matchFunction dialect, none, some fsp⟩] ts := rfl
  have hword : wordExpr (grammar dialect (depth + 1)) operand ⟨.word (Macro.matchFunction dialect) none, fsp⟩
      ⟨Macro.matchFunction dialect, none, some fsp⟩ (⟨.sign "(", opening⟩ :: ts) =
      (do return ⟨← plainWord (grammar dialect (depth + 1)) operand ⟨Macro.matchFunction dialect, none, some fsp⟩, true⟩ :
        Parser Operand) (⟨.sign "(", opening⟩ :: ts) := by
    cases dialect <;> rfl
  rw [hword, run_bind, hplain, run_bind]

/-- A negation whose operand is not read is a plain name, or not read either. -/
theorem wordExpr_not (operand : Parser Expr) (nsp fsp opening : Text.Span) (ts : List Lexeme) {fault : Fault}
    (h : exprAbove (grammar dialect (depth + 1)) notLevel
      (⟨.word (Macro.matchFunction dialect) none, fsp⟩ :: ⟨.sign "(", opening⟩ :: ts) = .error fault)
    {found : Operand} {rest : List Lexeme}
    (hok : wordExpr (grammar dialect (depth + 2)) operand ⟨.word "NOT" none, nsp⟩ ⟨"NOT", none, some nsp⟩
      (⟨.word (Macro.matchFunction dialect) none, fsp⟩ :: ⟨.sign "(", opening⟩ :: ts) = .ok (found, rest)) :
    found = ⟨.ident ⟨"NOT", none, some nsp⟩, false⟩ ∧
      rest = ⟨.word (Macro.matchFunction dialect) none, fsp⟩ :: ⟨.sign "(", opening⟩ :: ts := by
  have hform : specialForm (grammar dialect (depth + 2)) operand "NOT" ⟨"NOT", none, some nsp⟩
      (some ⟨.word "NOT" none, nsp⟩) (some ⟨.word (Macro.matchFunction dialect) none, fsp⟩) = some (do
        if ← acceptWord "EXISTS" then existsExpr (grammar dialect (depth + 2)) true
        else return .unary .not (← (grammar dialect (depth + 2)).expr notLevel)) := rfl
  have hrun : (do
        if ← acceptWord "EXISTS" then existsExpr (grammar dialect (depth + 2)) true
        else return .unary .not (← (grammar dialect (depth + 2)).expr notLevel) : Parser Expr)
      (⟨.word (Macro.matchFunction dialect) none, fsp⟩ :: ⟨.sign "(", opening⟩ :: ts) = .error fault := by
    rw [run_bind_ok (a := false) (r := ⟨.word (Macro.matchFunction dialect) none, fsp⟩ :: ⟨.sign "(", opening⟩ :: ts)
      (by cases dialect <;> rfl)]
    exact run_bind_error h _
  have hplain : plainWord (grammar dialect (depth + 2)) operand ⟨"NOT", none, some nsp⟩
      (⟨.word (Macro.matchFunction dialect) none, fsp⟩ :: ⟨.sign "(", opening⟩ :: ts) =
      .ok (.ident ⟨"NOT", none, some nsp⟩,
        ⟨.word (Macro.matchFunction dialect) none, fsp⟩ :: ⟨.sign "(", opening⟩ :: ts) := by
    unfold plainWord
    rw [run_bind_ok (a := some ⟨.word (Macro.matchFunction dialect) none, fsp⟩)
      (r := ⟨.word (Macro.matchFunction dialect) none, fsp⟩ :: ⟨.sign "(", opening⟩ :: ts) rfl,
      if_neg (by simp [isSign]), if_neg (by simp [isIntroducible])]
    rfl
  have hkey : (Token.word "NOT" none).keyword? = some "NOT" := rfl
  simp only [wordExpr, hkey, Option.bind, List.head?_cons, hform, Option.map, hrun, hplain] at hok
  cases fault with
  | fatal text => cases hok
  | rejected m l =>
    cases hok
    exact ⟨rfl, rfl⟩
  | tooDeep =>
    cases hok
    exact ⟨rfl, rfl⟩

/-- A match that is read has a column. -/
theorem column_of_match (hw : keywordOf text quote ∉ Macro.expressionKeywords)
    (hr : keywordOf text quote ∉ reservedForColumnAlias) (hs : Stops rest) {fsp opening comma tsp closing : Text.Span}
    {raw : String} {r : Expr × List Lexeme}
    (hok : exprAbove (grammar dialect (depth + 1)) level
      (⟨.word (Macro.matchFunction dialect) none, fsp⟩ :: ⟨.sign "(", opening⟩ :: ⟨.word text quote, sp⟩ ::
        (pointed ps ++ ⟨.sign ",", comma⟩ :: ⟨.string .single raw, tsp⟩ :: ⟨.sign ")", closing⟩ :: rest)) = .ok r) :
    (∃ c, Column dialect (⟨.word text quote, sp⟩ :: pointed ps) c) ∧
      ∀ word ∈ repeatWords, (Token.word text quote).keyword? ≠ some word := by
  obtain ⟨n, mid, hn, hok⟩ := bind_eq_ok (r := r.2) (b := r.1) hok
  cases hn
  obtain ⟨e, mid, he, -⟩ := bind_eq_ok hok
  rw [operandAt_word (typedLiteral_match hs text quote sp ps fsp opening comma tsp closing raw)] at he
  obtain ⟨found, mid, hfound, -⟩ := bind_eq_ok he
  rw [wordExpr_match] at hfound
  obtain ⟨e, mid, hcall, -⟩ := bind_eq_ok hfound
  obtain ⟨a, mid, hargs, -⟩ := bind_eq_ok hcall
  exact column_of_argList hw hr hargs

/-- What is left behind a word that was read as a name although more belongs to it. -/
def Stuck (dialect : Dialect) (ts : List Lexeme) : Prop :=
  ∃ l ts', ts = l :: ts' ∧ (l.token = .sign "." ∨ l.token = .word (Macro.matchFunction dialect) none)

theorem Stuck.infixLevel_eq {ts : List Lexeme} (h : Stuck dialect ts) : infixLevel ts = 0 := by
  obtain ⟨⟨token, sp⟩, ts', rfl, rfl | rfl⟩ := h
  · rfl
  · cases dialect <;> rfl

/-- A negated match that is read has a column, unless its first word is read as a name. -/
theorem column_of_notMatch (hw : keywordOf text quote ∉ Macro.expressionKeywords)
    (hr : keywordOf text quote ∉ reservedForColumnAlias) (hs : Stops rest)
    {nsp fsp opening comma tsp closing : Text.Span} {raw : String} {r : List Lexeme}
    (hok : exprAbove (grammar dialect (depth + 2)) level
      (⟨.word "NOT" none, nsp⟩ :: ⟨.word (Macro.matchFunction dialect) none, fsp⟩ :: ⟨.sign "(", opening⟩ ::
        ⟨.word text quote, sp⟩ ::
          (pointed ps ++ ⟨.sign ",", comma⟩ :: ⟨.string .single raw, tsp⟩ :: ⟨.sign ")", closing⟩ :: rest)) =
      .ok (e, r)) :
    ((∃ c, Column dialect (⟨.word text quote, sp⟩ :: pointed ps) c) ∧
      ∀ word ∈ repeatWords, (Token.word text quote).keyword? ≠ some word) ∨ Stuck dialect r := by
  generalize hinput : (⟨.sign "(", opening⟩ :: ⟨.word text quote, sp⟩ :: (pointed ps ++ ⟨.sign ",", comma⟩ ::
    ⟨.string .single raw, tsp⟩ :: ⟨.sign ")", closing⟩ :: rest) : List Lexeme) = input at hok
  obtain ⟨n, mid, hn, hok⟩ := bind_eq_ok hok
  cases hn
  obtain ⟨e', mid, he, hok⟩ := bind_eq_ok hok
  have ht (operand : Parser Expr) : Refused (typedLiteral (grammar dialect (depth + 2)) operand)
      (⟨.word "NOT" none, nsp⟩ :: ⟨.word (Macro.matchFunction dialect) none, fsp⟩ :: input) := by
    cases dialect <;> exact ⟨_, _, rfl⟩
  rw [operandAt_word (ht _)] at he
  obtain ⟨found, mid', hfound, he⟩ := bind_eq_ok he
  cases hinner : exprAbove (grammar dialect (depth + 1)) notLevel
      (⟨.word (Macro.matchFunction dialect) none, fsp⟩ :: input) with
  | ok r =>
    rw [← hinput] at hinner
    exact .inl (column_of_match hw hr hs hinner)
  | error fault =>
    -- the word is then a plain name, and the match stays behind it
    rw [← hinput] at hfound hinner
    obtain ⟨rfl, rfl⟩ := wordExpr_not _ nsp fsp opening _ hinner hfound
    cases he
    obtain ⟨m, mid', hm, hok⟩ := bind_eq_ok hok
    cases hm
    rw [infixLoop_stop (by cases dialect <;> exact Nat.zero_le _)] at hok
    cases hok
    exact .inr ⟨_, _, rfl, .inr rfl⟩

end Inversion

end SqlTemplate.Sql.Parser
