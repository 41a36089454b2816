import SqlTemplate.Proofs.Constants
import SqlTemplate.Proofs.OperatorTrees

/-!
# Columns between bounds

A macro about the time range compares columns with constants. The comparisons stand behind one another with `AND`
between them, and parentheses around all of them. They are read as the conjunction of the comparisons, unless a column
that stands behind `AND` starts with a word that asks for a set.

* `IsBound`: the constants; `isBound_timestamp` and `isBound_date`.
* `ReadsColumn`: tokens that are read as an operand in front of a comparison.
* `Conjunct`: tokens that are read as an operand of `AND`; `conjunct_comparison`.
* `conjuncts_read`, `conjuncts_fail`: conjuncts between parentheses.
-/

namespace SqlTemplate

open Sql Macro Time SqlTemplate.Sql.Parser Service.Tree

variable {dialect : Dialect} {depth : Nat}

/-! ## Bounds -/

/-- What the tokens start with is no word that asks for a set. -/
def AsksNoSet (tokens : List Token) : Prop := ∃ t ts, tokens = t :: ts ∧ ∀ word ∈ amongWords, t.keyword? ≠ some word

/-- A text that is read as a constant on the right side of a comparison. -/
structure IsBound (dialect : Dialect) (text : String) (tokens : List Token) (e : Expr) : Prop where
  opens : AsksNoSet tokens
  spells : ∀ {cs ts}, endsOperand cs = true → Spells dialect cs ts → Spells dialect (text.toList ++ cs) (tokens ++ ts)
  reads : ∀ {ls rest} (depth : Nat), ls.map Lexeme.token = tokens → Stops rest →
    (grammar dialect (depth + 1)).expr comparisonLevel (ls ++ rest) = .ok (e, rest)

/-- The type of days. -/
def dateType : DataType := Wording.phrase ⟨"DATE", .text "Date"⟩

/-- The type of moments. -/
def timestampType : DataType := Wording.phrase ⟨"TIMESTAMP", .node "Timestamp" (.list [.null, .text "None"])⟩

/-- A clock text marked with a type in the generic dialect, as it is in the other one. -/
def clockExpr (dialect : Dialect) (type : DataType) (text : String) : Expr :=
  match dialect with
  | .clickHouse => textExpr .clickHouse text
  | .generic => .typedString type (heldLiteral .generic text)

/-- The tokens of a clock text. -/
def clockTokens (dialect : Dialect) (word text : String) : List Token :=
  match dialect with
  | .clickHouse => [PredicateForm.textToken .clickHouse text]
  | .generic => [.word word none, PredicateForm.textToken .generic text]

theorem exprAbove_typed {g : Grammar} {word text : String} {type : DataType} (hg : g.dialect = .generic)
    (hword : (word, type) ∈ [("DATE", dateType), ("TIMESTAMP", timestampType)]) (sp sp' : Text.Span) {level : Nat}
    {rest : List Lexeme} (hlevel : 10 ≤ level) (hrest : Stops rest) :
    exprAbove g level (⟨.word word none, sp⟩ :: ⟨.string .single text, sp'⟩ :: rest) =
      .ok (.typedString type text, rest) := by
  obtain ⟨dialect, connecting, expr, relating, query, statement⟩ := g
  obtain rfl : dialect = .generic := hg
  have hoperand (fuel : Nat) : operandAt ⟨.generic, connecting, expr, relating, query, statement⟩ (fuel + 1)
      (⟨.word word none, sp⟩ :: ⟨.string .single text, sp'⟩ :: rest) = .ok (.typedString type text, rest) := by
    simp only [List.mem_cons, Prod.mk.injEq, List.not_mem_nil, or_false] at hword
    rcases hword with ⟨rfl, rfl⟩ | ⟨rfl, rfl⟩ <;> rfl
  unfold exprAbove
  rw [run_bind_ok (a := rest.length + 2) (r := _ :: _ :: rest) rfl, run_bind_ok (hoperand _),
    run_bind_ok (a := rest.length) (r := rest) rfl]
  exact infixLoop_stops hrest hlevel _ _

/-- A time with its type is a bound. -/
theorem isBound_clock (dialect : Dialect) {word : String} {type : DataType}
    (hword : (word, type) ∈ [("DATE", dateType), ("TIMESTAMP", timestampType)]) {text : String} (h : IsClockText text) :
    IsBound dialect (match dialect with
      | .clickHouse => "'" ++ text ++ "'"
      | .generic => word ++ " '" ++ text ++ "'") (clockTokens dialect word text) (clockExpr dialect type text) := by
  have hquoted := quoted_eq_stringLiteral dialect h
  cases dialect with
  | clickHouse =>
    refine ⟨⟨_, _, rfl, fun _ _ hw => nomatch hw⟩, fun hcs hs => ?_, fun depth hls hrest => ?_⟩
    · dsimp only
      rw [hquoted]
      exact spells_text .clickHouse text (head?_ne_quote (endsWord_of_endsOperand hcs)) hs
    · obtain ⟨sp, ls, rfl, hend⟩ := cons_of_tokens hls
      obtain rfl := List.map_eq_nil_iff.1 hend
      exact exprAbove_string hrest (by decide) _ sp
  | generic =>
    have hplain : Macro.isPlainWord word.toList = true ∧ ∀ w ∈ amongWords, (Token.word word none).keyword? ≠ some w := by
      simp only [List.mem_cons, Prod.mk.injEq, List.not_mem_nil, or_false] at hword
      rcases hword with ⟨rfl, -⟩ | ⟨rfl, -⟩ <;> exact ⟨by decide, by decide +kernel⟩
    refine ⟨⟨_, _, rfl, hplain.2⟩, fun hcs hs => ?_, fun depth hls hrest => ?_⟩
    · have hliteral := spells_text .generic text (head?_ne_quote (endsWord_of_endsOperand hcs)) hs
      have := spells_keyword hplain.1 hliteral
      rw [← hquoted] at this
      simpa [clockTokens] using this
    · obtain ⟨sp, ls, rfl, hmore⟩ := cons_of_tokens hls
      obtain ⟨sp', ls, rfl, hend⟩ := cons_of_tokens hmore
      obtain rfl := List.map_eq_nil_iff.1 hend
      exact exprAbove_typed (grammar_dialect ..) hword sp sp' (by decide) hrest

theorem isBound_timestamp (dialect : Dialect) (precision : Precision) (t : Instant) :
    IsBound dialect (timestampLiteral dialect precision t) (clockTokens dialect "TIMESTAMP" (timeText precision t))
      (clockExpr dialect timestampType (timeText precision t)) := by
  have h := isBound_clock dialect (show ("TIMESTAMP", timestampType) ∈ [("DATE", dateType), ("TIMESTAMP", timestampType)] by simp)
    (isClockText_time precision t)
  cases dialect <;> exact h

theorem isBound_date (dialect : Dialect) (t : Instant) :
    IsBound dialect (dateLiteral dialect t) (clockTokens dialect "DATE" t.date.display)
      (clockExpr dialect dateType t.date.display) := by
  have h := isBound_clock dialect (show ("DATE", dateType) ∈ [("DATE", dateType), ("TIMESTAMP", timestampType)] by simp)
    (isClockText_date t.date)
  cases dialect <;> exact h

/-! ## Comparisons -/

/-- The two comparisons with the bounds of a range. -/
def boundOps : List BinaryOp := [.gtEq, .ltEq]

theorem boundOps_spoken {op : BinaryOp} (h : op ∈ boundOps) (dialect : Dialect) :
    op.spoken dialect = true ∧ op.level = comparisonLevel ∧ op.token = .sign op.toSql := by
  simp only [boundOps, List.mem_cons, List.not_mem_nil, or_false] at h
  rcases h with rfl | rfl <;> exact ⟨rfl, rfl, rfl⟩

/-- Tokens are read as an operand in front of a comparison. -/
def ReadsColumn (dialect : Dialect) (depth : Nat) (tokens : List Token) (e : Expr) : Prop :=
  ∀ {ls : List Lexeme} {op : BinaryOp} (sp : Text.Span) (rest : List Lexeme), ls.map Lexeme.token = tokens →
    op ∈ boundOps → ∃ x, exprTree x = exprTree e ∧
      operandAt (grammar dialect depth) ((ls ++ ⟨op.token, sp⟩ :: rest).length + 1) (ls ++ ⟨op.token, sp⟩ :: rest) =
        .ok (x, ⟨op.token, sp⟩ :: rest)

/-- Tokens are read as the left side of what comes behind them, if that is `AND` or what ends the conjunction. -/
def Conjunct (dialect : Dialect) (depth : Nat) (tokens : List Token) (e : Expr) : Prop :=
  ∀ (level : Nat) {ls rest : List Lexeme}, ls.map Lexeme.token = tokens → Stops rest → level ≤ notLevel →
    ∃ x fuel, exprTree x = exprTree e ∧ rest.length ≤ fuel ∧
      exprAbove (grammar dialect depth) level (ls ++ rest) = infixLoop (grammar dialect depth) level fuel x rest

/-- A comparison of a column with a bound. -/
theorem conjunct_comparison {column bounds : List Token} {c b : Expr} {text : String} {op : BinaryOp}
    (hc : ReadsColumn dialect (depth + 1) column c) (hb : IsBound dialect text bounds b) (hop : op ∈ boundOps) :
    Conjunct dialect (depth + 1) (column ++ op.token :: bounds) (.binary c op b) := by
  intro level ls rest hls hrest hlevel
  obtain ⟨hspoken, hopLevel, -⟩ := boundOps_spoken hop dialect
  obtain ⟨cs, bs, rfl, hcs, hbs⟩ := List.map_eq_append_iff.1 hls
  obtain ⟨sp, bs, rfl, hbound⟩ := cons_of_tokens hbs
  obtain ⟨x, hx, hread⟩ := hc sp (bs ++ rest) hcs hop
  refine ⟨.binary x op b, (bs ++ rest).length, by rw [exprTree_binary, exprTree_binary, hx], by simp, ?_⟩
  -- the right side starts with no word that asks for a set
  obtain ⟨t, ts, hbounds, hset⟩ := hb.opens
  have hexpr : infixExpr (grammar dialect (depth + 1)) x comparisonLevel (⟨op.token, sp⟩ :: (bs ++ rest)) =
      .ok (.binary x op b, rest) := by
    have hright := hb.reads depth hbound hrest
    rw [hbounds] at hbound
    obtain ⟨sp', bs, rfl, -⟩ := cons_of_tokens hbound
    rw [List.cons_append] at hright ⊢
    rw [infixExpr_op op (by rwa [grammar_dialect]) hset sp, run_bind_ok hright]
    rfl
  have hlt : level < comparisonLevel := Nat.lt_of_le_of_lt hlevel (by decide)
  rw [List.append_assoc, List.cons_append, exprAbove_of_operandAt hread, List.length_cons,
    infixLoop_step (infixLevel_op hspoken sp _) (by rwa [hopLevel]) (by rw [hopLevel]; exact hexpr)]

/-! ## Conjuncts between parentheses -/

/-- Tokens of conjuncts with `AND` in front of each. -/
def andTokens (more : List (List Token × Expr)) : List Token := more.flatMap fun p => .word "AND" none :: p.1

theorem andTokens_cons (p : List Token × Expr) (more : List (List Token × Expr)) :
    andTokens (p :: more) = .word "AND" none :: (p.1 ++ andTokens more) := rfl

theorem length_andTokens (more : List (List Token × Expr)) : more.length ≤ (andTokens more).length := by
  induction more with
  | nil => exact Nat.le_refl _
  | cons p more ih =>
    rw [andTokens_cons, List.length_cons, List.length_cons, List.length_append]
    omega

theorem stops_andTokens {more : List (List Token × Expr)} {ls rest : List Lexeme} (hls : ls.map Lexeme.token = andTokens more)
    (hrest : Stops rest) : Stops (ls ++ rest) := by
  cases more with
  | nil =>
    obtain rfl := List.map_eq_nil_iff.1 hls
    exact hrest
  | cons p more =>
    obtain ⟨sp, ls, rfl, -⟩ := cons_of_tokens hls
    exact .and sp _

/-- The right side of `AND` is not read behind a word that asks for a set: `AND` compares nothing. -/
theorem infixExpr_and_among {g : Grammar} {l : Lexeme} (left : Expr) {word : String} (hw : word ∈ amongWords)
    (hk : l.token.keyword? = some word) (sp : Text.Span) (level : Nat) (rest : List Lexeme) :
    ∃ fault, infixExpr g left level (⟨.word "AND" none, sp⟩ :: l :: rest) = .error fault := by
  have hsome : acceptOneOf ["ANY", "ALL", "SOME"] (l :: rest) = .ok (some word, rest) := by
    unfold acceptOneOf
    rw [run_bind_ok (a := l.token.keyword?) (r := l :: rest) rfl, hk]
    dsimp only
    rw [if_pos (by simpa [amongWords] using hw)]
    rfl
  have hop : binaryOp? g.dialect (.word "AND" none) (l :: rest) = .ok (some .and, l :: rest) := by
    cases g.dialect <;> rfl
  unfold infixExpr
  rw [run_bind_ok (a := ⟨.word "AND" none, sp⟩ :: l :: rest) (r := ⟨.word "AND" none, sp⟩ :: l :: rest) rfl,
    run_bind_ok (a := some ⟨.word "AND" none, sp⟩) (r := l :: rest) rfl]
  dsimp only
  rw [run_bind_ok hop]
  dsimp only
  rw [run_bind_ok hsome]
  dsimp only
  cases hright : amongExpr g level rest with
  | error fault => exact ⟨fault, run_bind_error hright _⟩
  | ok right =>
    rw [run_bind_ok hright]
    exact ⟨_, rfl⟩

variable {more : List (List Token × Expr)} {ls rest : List Lexeme}

/-- Conjuncts behind `AND` are read one after the other. -/
theorem infixLoop_conjuncts_read (hmore : ∀ p ∈ more, Conjunct dialect depth p.1 p.2 ∧ AsksNoSet p.1) (hrest : Stops rest)
    (hend : infixLevel rest = 0) (hls : ls.map Lexeme.token = andTokens more) {fuel : Nat} (hfuel : more.length ≤ fuel)
    (left : Expr) :
    ∃ xs : List Expr, xs.map exprTree = more.map (fun p => exprTree p.2) ∧
      infixLoop (grammar dialect (depth + 1)) 0 fuel left (ls ++ rest) = .ok (conjunction left xs, rest) := by
  induction more generalizing ls fuel left with
  | nil =>
    obtain rfl := List.map_eq_nil_iff.1 hls
    exact ⟨[], rfl, infixLoop_stop (Nat.le_of_eq hend) fuel left⟩
  | cons p more ih =>
    obtain ⟨⟨hp, t, ts, htokens, hset⟩, hmore⟩ := List.forall_mem_cons.1 hmore
    rw [andTokens_cons] at hls
    obtain ⟨sp, _, rfl, htail⟩ := cons_of_tokens hls
    obtain ⟨ps, ls, rfl, hps, hmores⟩ := List.map_eq_append_iff.1 htail
    have hstops := stops_andTokens hmores hrest
    obtain ⟨x, n, hx, -, hread⟩ := hp 10 hps hstops (by decide)
    rw [infixLoop_stops hstops (Nat.le_refl _)] at hread
    obtain ⟨fuel, rfl⟩ : ∃ k, fuel = k + 1 := ⟨fuel - 1, by rw [List.length_cons] at hfuel; omega⟩
    obtain ⟨xs, hxs, hloop⟩ := ih hmore hmores (Nat.le_of_succ_le_succ hfuel) (.binary left .and x)
    have hand : infixExpr (grammar dialect (depth + 1)) left 10 (⟨.word "AND" none, sp⟩ :: (ps ++ (ls ++ rest))) =
        .ok (.binary left .and x, ls ++ rest) := by
      rw [htokens] at hps
      obtain ⟨sp', ps, rfl, -⟩ := cons_of_tokens hps
      exact infixExpr_and hset sp hread
    refine ⟨x :: xs, by rw [List.map_cons, hx, hxs, List.map_cons], ?_⟩
    rw [List.cons_append, List.append_assoc, infixLoop_step (n := 10) rfl (by decide) hand]
    exact hloop

/-- Nothing is read if a conjunct behind `AND` asks for a set. -/
theorem infixLoop_conjuncts_fail (hmore : ∀ p ∈ more, Conjunct dialect depth p.1 p.2 ∧ p.1 ≠ []) (hrest : Stops rest)
    (hset : ∃ p ∈ more, ¬ AsksNoSet p.1) (hls : ls.map Lexeme.token = andTokens more) {fuel : Nat}
    (hfuel : more.length ≤ fuel) (left : Expr) :
    ∃ fault, infixLoop (grammar dialect (depth + 1)) 0 fuel left (ls ++ rest) = .error fault := by
  induction more generalizing ls fuel left with
  | nil => simp at hset
  | cons p more ih =>
    obtain ⟨⟨hp, hne⟩, hmore⟩ := List.forall_mem_cons.1 hmore
    obtain ⟨t, ts, htokens⟩ := List.exists_cons_of_ne_nil hne
    rw [andTokens_cons] at hls
    obtain ⟨sp, _, rfl, htail⟩ := cons_of_tokens hls
    obtain ⟨ps, ls, rfl, hps, hmores⟩ := List.map_eq_append_iff.1 htail
    obtain ⟨fuel, rfl⟩ : ∃ k, fuel = k + 1 := ⟨fuel - 1, by rw [List.length_cons] at hfuel; omega⟩
    rw [List.cons_append, List.append_assoc]
    by_cases hasks : ∀ word ∈ amongWords, t.keyword? ≠ some word
    · have hstops := stops_andTokens hmores hrest
      obtain ⟨x, n, -, -, hread⟩ := hp 10 hps hstops (by decide)
      rw [infixLoop_stops hstops (Nat.le_refl _)] at hread
      have hand : infixExpr (grammar dialect (depth + 1)) left 10 (⟨.word "AND" none, sp⟩ :: (ps ++ (ls ++ rest))) =
          .ok (.binary left .and x, ls ++ rest) := by
        rw [htokens] at hps
        obtain ⟨sp', ps, rfl, -⟩ := cons_of_tokens hps
        exact infixExpr_and hasks sp hread
      rw [infixLoop_step (n := 10) rfl (by decide) hand]
      refine ih hmore ?_ hmores (Nat.le_of_succ_le_succ hfuel) _
      obtain ⟨q, hq, hbad⟩ := hset
      rcases List.mem_cons.1 hq with rfl | hq
      · exact absurd ⟨t, ts, htokens, hasks⟩ hbad
      · exact ⟨q, hq, hbad⟩
    · push Not at hasks
      obtain ⟨word, hword, hk⟩ := hasks
      rw [htokens] at hps
      obtain ⟨sp', ps, rfl, -⟩ := cons_of_tokens hps
      obtain ⟨fault, hfault⟩ := infixExpr_and_among (g := grammar dialect (depth + 1)) (l := ⟨t, sp'⟩) left hword hk sp
        10 (ps ++ (ls ++ rest))
      exact ⟨fault, infixLoop_error (n := 10) rfl (by decide) hfault⟩

/-- What stands between the parentheses is no query. -/
def OpensNoQuery (tokens : List Token) : Prop := ∃ t ts, tokens = t :: ts ∧ ∀ word ∈ ["SELECT", "WITH"], t.keyword? ≠ some word

theorem comesQuery_none {tokens : List Token} (h : OpensNoQuery tokens) (hls : ls.map Lexeme.token = tokens)
    (rest : List Lexeme) : comesQuery (ls ++ rest) = .ok (false, ls ++ rest) := by
  obtain ⟨t, ts, rfl, hword⟩ := h
  obtain ⟨sp, ls, rfl, -⟩ := cons_of_tokens hls
  unfold comesQuery comesOneOf
  rw [List.cons_append, run_bind_ok (a := t.keyword?) (r := ⟨t, sp⟩ :: (ls ++ rest)) rfl]
  cases hk : t.keyword? with
  | none => rfl
  | some w =>
    have hw : w ∉ ["SELECT", "WITH"] := fun hmem => hword w hmem hk
    show (pure (["SELECT", "WITH"].contains w) : Parser Bool) _ = _
    rw [List.contains_eq_mem, decide_eq_false hw]
    rfl

variable {first : List Token} {e : Expr} {opening closing : Text.Span}

/-- **Conjuncts between parentheses** are read as the conjunction of what each is read as. -/
theorem conjuncts_read (hfirst : Conjunct dialect (depth + 1) first e) (hquery : OpensNoQuery first)
    (hmore : ∀ p ∈ more, Conjunct dialect depth p.1 p.2 ∧ AsksNoSet p.1)
    (hls : ls.map Lexeme.token = .sign "(" :: (first ++ (andTokens more ++ [.sign ")"]))) :
    ∃ x, (grammar dialect (depth + 3)).expr 0 ls = .ok (x, []) ∧
      exprTree x = exprTree (.nested (conjunction e (more.map Prod.snd))) := by
  obtain ⟨opening, _, rfl, hinside⟩ := cons_of_tokens hls
  obtain ⟨fs, _, rfl, hfs, hbehind⟩ := List.map_eq_append_iff.1 hinside
  obtain ⟨ms, _, rfl, hms, hend⟩ := List.map_eq_append_iff.1 hbehind
  obtain ⟨closing, _, rfl, hnil⟩ := cons_of_tokens hend
  obtain rfl := List.map_eq_nil_iff.1 hnil
  have hclosing : Stops [⟨.sign ")", closing⟩] := .closing ..
  obtain ⟨x, fuel, hx, hfuel, hread⟩ := hfirst 0 hfs (stops_andTokens hms hclosing) (by decide)
  have hlength : more.length ≤ fuel := by
    have hand := length_andTokens more
    rw [← hms, List.length_map] at hand
    rw [List.length_append] at hfuel
    omega
  obtain ⟨xs, hxs, hloop⟩ := infixLoop_conjuncts_read hmore hclosing rfl hms hlength x
  have hitems : commaSeparated ((grammar dialect (depth + 2)).expr 0) (fs ++ (ms ++ [⟨.sign ")", closing⟩])) =
      .ok ([conjunction x xs], [⟨.sign ")", closing⟩]) := by
    unfold commaSeparated
    rw [grammar_expr, run_bind_ok (hread.trans hloop)]
    rfl
  refine ⟨.nested (conjunction x xs), ?_, ?_⟩
  · rw [grammar_expr]
    unfold exprAbove
    rw [run_bind_ok (a := List.length _) (r := _) rfl, Parser.run_bind, operandAt_opening, Parser.run_bind,
      parenExpr_one (comesQuery_none hquery hfs _) hitems]
    rfl
  · rw [exprTree_nested, exprTree_nested, exprTree_conjunction, exprTree_conjunction, hx, hxs, List.map_map]
    rfl

/-- They are not read if one behind `AND` starts with a word that asks for a set. -/
theorem conjuncts_fail (hfirst : Conjunct dialect (depth + 1) first e) (hquery : OpensNoQuery first)
    (hmore : ∀ p ∈ more, Conjunct dialect depth p.1 p.2 ∧ p.1 ≠ []) (hset : ∃ p ∈ more, ¬ AsksNoSet p.1)
    (hls : ls.map Lexeme.token = .sign "(" :: (first ++ (andTokens more ++ [.sign ")"]))) :
    ∃ fault, (grammar dialect (depth + 3)).expr 0 ls = .error fault := by
  obtain ⟨opening, _, rfl, hinside⟩ := cons_of_tokens hls
  obtain ⟨fs, _, rfl, hfs, hbehind⟩ := List.map_eq_append_iff.1 hinside
  obtain ⟨ms, _, rfl, hms, hend⟩ := List.map_eq_append_iff.1 hbehind
  obtain ⟨closing, _, rfl, hnil⟩ := cons_of_tokens hend
  obtain rfl := List.map_eq_nil_iff.1 hnil
  have hclosing : Stops [⟨.sign ")", closing⟩] := .closing ..
  obtain ⟨x, fuel, -, hfuel, hread⟩ := hfirst 0 hfs (stops_andTokens hms hclosing) (by decide)
  have hlength : more.length ≤ fuel := by
    have hand := length_andTokens more
    rw [← hms, List.length_map] at hand
    rw [List.length_append] at hfuel
    omega
  obtain ⟨fault, hfault⟩ := infixLoop_conjuncts_fail hmore hclosing hset hms hlength x
  have hinner : (grammar dialect (depth + 2)).expr 0 (fs ++ (ms ++ [⟨.sign ")", closing⟩])) = .error fault :=
    hread.trans hfault
  refine ⟨fault, ?_⟩
  rw [grammar_expr]
  refine exprAbove_of_operandAt_error ?_
  rw [operandAt_opening, run_bind_error (parenExpr_error (comesQuery_none hquery hfs _) hinner)]

end SqlTemplate
