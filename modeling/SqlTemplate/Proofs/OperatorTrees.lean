import SqlTemplate.Proofs.Terms

/-!
# Trees of operators

An expression that is made of terms by operators and parentheses is written without further parentheses. Its text is
read as the same tree if the operators are bracketed by their levels: an operator on the left side has at least the
level of the one that it stands beside, an operator on the right side a higher one.

* `Expr.Bracketed`: the trees whose operators are bracketed by their levels.
* `OperatorTree`: the expressions that are made of terms, their tokens and how deep they nest.
* `OperatorTree.readsFirst`: a bracketed tree is read from its tokens.
-/

namespace SqlTemplate.Sql

/-- A level above those of all operators. -/
def highestLevel : Nat := 60

/-- The lowest level of the operators that stand open to the left. -/
def Expr.leftLevel : Expr → Nat
  | .binary left op _ => min op.level left.leftLevel
  | .is operand _ => min Parser.isLevel operand.leftLevel
  | .between operand _ _ _ => min Parser.comparisonLevel operand.leftLevel
  | _ => highestLevel

/-- The lowest level of the operators that stand open to the right. -/
def Expr.rightLevel : Expr → Nat
  | .unary _ operand => min Parser.multiplyLevel operand.rightLevel
  | .binary _ op right => min op.level right.rightLevel
  | .between _ _ high _ => min Parser.comparisonLevel high.rightLevel
  | _ => highestLevel

/-- **The operators are bracketed by their levels.** -/
def Expr.Bracketed : Expr → Prop
  | .nested inner => inner.Bracketed
  | .unary _ operand => operand.Bracketed ∧ Parser.multiplyLevel < operand.leftLevel
  | .binary left op right =>
    left.Bracketed ∧ right.Bracketed ∧ op.level ≤ left.rightLevel ∧ op.level < right.leftLevel
  | .is operand _ => operand.Bracketed ∧ Parser.isLevel ≤ operand.rightLevel
  | .between operand low high _ =>
    operand.Bracketed ∧ low.Bracketed ∧ high.Bracketed ∧ Parser.comparisonLevel ≤ operand.rightLevel ∧
      Parser.comparisonLevel < low.leftLevel ∧ BinaryOp.and.level ≤ low.rightLevel ∧
      Parser.comparisonLevel < high.leftLevel
  | _ => True

instance Expr.decidableBracketed : (e : Expr) → Decidable e.Bracketed
  | .nested inner => inner.decidableBracketed
  | .unary _ operand =>
    have := operand.decidableBracketed
    inferInstanceAs (Decidable (_ ∧ _))
  | .binary left _ right =>
    have := left.decidableBracketed
    have := right.decidableBracketed
    inferInstanceAs (Decidable (_ ∧ _))
  | .is operand _ =>
    have := operand.decidableBracketed
    inferInstanceAs (Decidable (_ ∧ _))
  | .between operand low high _ =>
    have := operand.decidableBracketed
    have := low.decidableBracketed
    have := high.decidableBracketed
    inferInstanceAs (Decidable (_ ∧ _))
  | .ident _ | .compound _ | .literal _ | .typedString _ _ | .compare _ _ _ _ | .isDistinct _ _ _ | .inList _ _ _
  | .inQuery _ _ _ | .like _ _ _ _ _ _ | .case _ _ _ _ | .cast _ _ _ | .exists _ _ | .subquery _ | .tuple _
  | .array _ _ | .subscript _ _ | .element _ _ | .interval _ _ | .bareCall _ | .queryCall _ _ | .call _ _ _ _ _ _
  | .phrase _ => inferInstanceAs (Decidable True)

/-- How many parentheses stand around parts of a tree of operators. -/
def Expr.nests : Expr → Nat
  | .nested inner => inner.nests + 1
  | .unary _ operand => operand.nests
  | .binary left _ right => left.nests + right.nests
  | .is operand _ => operand.nests
  | .between operand low high _ => operand.nests + low.nests + high.nests
  | _ => 0

/-- Whether a tree of operators starts with a sign. -/
def Expr.startsSigned : Expr → Bool
  | .unary _ _ => true
  | .binary left _ _ => left.startsSigned
  | .is operand _ => operand.startsSigned
  | .between operand _ _ _ => operand.startsSigned
  | _ => false

/-- Phrases, whose tree may be anything, stand at no leaf of a tree of operators. -/
def Expr.Whole : Expr → Prop
  | .nested inner => inner.Whole
  | .unary _ operand => operand.Whole
  | .binary left _ right => left.Whole ∧ right.Whole
  | .is operand _ => operand.Whole
  | .between operand low high _ => operand.Whole ∧ low.Whole ∧ high.Whole
  | .phrase _ => False
  | _ => True

/-- Whether an expression is the bare word `from`, which no item of a selection can be. -/
def Expr.namesFrom : Expr → Bool
  | .ident ⟨text, none, _⟩ => Text.lowerAscii text == "from"
  | _ => false

namespace Parser

open Service.Tree

variable {dialect : Dialect} {e : Expr} {ts : List Token} {n : Nat}

/-- A term counts as one piece. -/
structure IsPiece (e : Expr) : Prop where
  leftLevel : e.leftLevel = highestLevel
  rightLevel : e.rightLevel = highestLevel
  bracketed : e.Bracketed
  nests : e.nests = 0
  startsSigned : e.startsSigned = false
  whole : e.Whole

theorem isPiece_of_plain (h : isComposed e = false) : IsPiece e := by
  cases e with
  | nested | unary | binary | is | between | phrase => cases h
  | _ => exact ⟨rfl, rfl, trivial, rfl, rfl, trivial⟩

/-- An expression that is made of terms by operators and parentheses, its tokens, and how many levels have to be left
to read it. -/
inductive OperatorTree (dialect : Dialect) : Expr → List Token → Nat → Prop
  | term {e : Expr} {ts : List Token} {n : Nat} (h : Term dialect e ts n) : OperatorTree dialect e ts n
  | nested {e : Expr} {ts : List Token} {n : Nat} (h : OperatorTree dialect e ts n) :
      OperatorTree dialect (.nested e) (.sign "(" :: (ts ++ [.sign ")"])) (n + 1)
  | signed {op : UnaryOp} {e : Expr} {ts : List Token} {n : Nat} (hop : op ≠ .not) (hs : e.startsSigned = false)
      (h : OperatorTree dialect e ts n) : OperatorTree dialect (.unary op e) (.sign op.toSql :: ts) (n + 1)
  | binary {op : BinaryOp} {l r : Expr} {ts us : List Token} {n m : Nat} (hop : op.spoken dialect = true)
      (hl : OperatorTree dialect l ts n) (hr : OperatorTree dialect r us m) :
      OperatorTree dialect (.binary l op r) (ts ++ op.token :: us) (max n (m + 1))
  | is {e : Expr} {ts : List Token} {n : Nat} (property : Property) (h : OperatorTree dialect e ts n) :
      OperatorTree dialect (.is e property) (ts ++ isTokens property) n
  | between {e low high : Expr} {ts us vs : List Token} {n m k : Nat} (negated : Bool)
      (h : OperatorTree dialect e ts n) (hlow : OperatorTree dialect low us m)
      (hhigh : OperatorTree dialect high vs k) :
      OperatorTree dialect (.between e low high negated)
        (ts ++ (betweenTokens negated ++ (us ++ .word "AND" none :: vs))) (max n (max m k + 1))

/-! ## Texts and tokens -/

theorem Opens.append (h : Opens ts) {us : List Token} (hus : us.head? ≠ some (.sign ".")) : Opens (ts ++ us) := by
  obtain ⟨⟨t, ht, hopens⟩, hpoint⟩ := h
  match ts, ht, hpoint with
  | [_], rfl, _ => exact ⟨⟨t, rfl, hopens⟩, hus⟩
  | _ :: _ :: _, rfl, hpoint => exact ⟨⟨t, rfl, hopens⟩, hpoint⟩

/-- A token that starts an expression, with the start of another one behind it. -/
theorem opens_cons {t : Token} (ht : opensExpr t) (h : Opens ts) : Opens (t :: ts) := by
  obtain ⟨⟨u, hu, -, -, hpoint⟩, -⟩ := h
  refine ⟨⟨t, rfl, ht⟩, ?_⟩
  rw [List.tail_cons, hu]
  simpa using hpoint

theorem opensExpr_sign {s : String} (h : s ≠ "*" ∧ s ≠ ".") : opensExpr (.sign s) :=
  ⟨fun _ _ hw => (nomatch hw), by simpa using h.1, by simpa using h.2⟩

theorem BinaryOp.token_ne_point {op : BinaryOp} (h : op.spoken dialect = true) : op.token ≠ .sign "." :=
  (Closer.op h).apart.1 "." (by decide)

theorem OperatorTree.opens (h : OperatorTree dialect e ts n) : Opens ts := by
  induction h with
  | term h => exact h.opens
  | nested _ ih => exact opens_cons (opensExpr_sign (by decide)) (ih.append (by simp))
  | @signed op _ _ _ hop _ _ ih =>
    refine opens_cons (opensExpr_sign ?_) ih
    cases op <;> decide
  | binary hop _ _ ihl _ => exact ihl.append (by simpa using BinaryOp.token_ne_point hop)
  | is property _ ih => exact ih.append (by simp [isTokens])
  | between negated _ _ _ ih _ _ => exact ih.append (by cases negated <;> simp [betweenTokens])

/-- A text that starts with no sign does not run together with a sign in front of it. -/
theorem OperatorTree.starts (h : OperatorTree dialect e ts n) (hs : e.startsSigned = false) :
    ∃ c, e.toSql.toList.head? = some c ∧ c ∉ ['-', '>'] := by
  induction h with
  | term h => exact h.starts
  | nested _ _ => exact ⟨'(', by simp, by decide⟩
  | signed => cases hs
  | binary _ _ _ ihl _ =>
    obtain ⟨c, hc, hne⟩ := ihl hs
    exact ⟨c, by simp [List.head?_append, hc], hne⟩
  | is _ _ ih =>
    obtain ⟨c, hc, hne⟩ := ih hs
    exact ⟨c, by simp [List.head?_append, hc], hne⟩
  | between _ _ _ _ ih _ _ =>
    obtain ⟨c, hc, hne⟩ := ih hs
    exact ⟨c, by simp [List.head?_append, hc], hne⟩

/-- A sign in front of a text that does not run together with it. -/
theorem spells_sign {op : UnaryOp} (hop : op ≠ .not) {cs : List Char} (hcs : ∃ c, cs.head? = some c ∧ c ∉ ['-', '>'])
    (h : Spells dialect cs ts) : Spells dialect (op.toSql.toList ++ cs) (.sign op.toSql :: ts) := by
  obtain ⟨c, hhead, hc⟩ := hcs
  obtain ⟨cs', rfl⟩ := List.head?_eq_some_iff.1 hhead
  simp only [List.mem_cons, List.not_mem_nil, or_false, not_or] at hc
  cases op with
  | not => exact absurd rfl hop
  | plus =>
    exact .token (t := .sign "+") (by cases dialect <;> rfl) (Nat.le_refl _) (by simp [Token.promote]) h
  | minus =>
    have hscan : scanToken dialect '-' (c :: cs') = scanSign '-' (c :: cs') :=
      scanToken_sign (by cases dialect <;> decide +kernel) (by simp [apart, hc])
    have hsign : scanSign '-' (c :: cs') = .ok (.sign "-", c :: cs') := by
      simp [scanSign, firstSign?, longSigns, dropStart?, Ne.symm hc.2]
    exact .token (t := .sign "-") (hscan.trans hsign) (Nat.le_refl _) (by simp [Token.promote]) h

theorem spells_is (property : Property) {cs : List Char} (hcs : endsWord cs = true) (h : Spells dialect cs ts) :
    Spells dialect ((" IS " ++ property.toSql).toList ++ cs) (isTokens property ++ ts) := by
  have one (w : String) (hw : Macro.isPlainWord w.toList = true) :
      Spells dialect ((" IS " ++ w).toList ++ cs) (.word "IS" none :: .word w none :: ts) := by
    have := (spells_keyword (w := "IS") (by decide) (h.word hw hcs)).blank
    simpa using this
  have two (w : String) (hw : Macro.isPlainWord w.toList = true) :
      Spells dialect ((" IS " ++ ("NOT " ++ w)).toList ++ cs)
        (.word "IS" none :: .word "NOT" none :: .word w none :: ts) := by
    have := (spells_keyword (w := "IS") (by decide) (spells_keyword (w := "NOT") (by decide) (h.word hw hcs))).blank
    simpa using this
  cases property with
  | null => exact one "NULL" (by decide)
  | true => exact one "TRUE" (by decide)
  | false => exact one "FALSE" (by decide)
  | unknown => exact one "UNKNOWN" (by decide)
  | notNull => exact two "NULL" (by decide)
  | notTrue => exact two "TRUE" (by decide)
  | notFalse => exact two "FALSE" (by decide)
  | notUnknown => exact two "UNKNOWN" (by decide)

theorem spells_between (negated : Bool) {cs : List Char} (h : Spells dialect cs ts) :
    Spells dialect ((" " ++ wordIf negated "NOT " ++ "BETWEEN ").toList ++ cs) (betweenTokens negated ++ ts) := by
  cases negated with
  | false => exact (spells_keyword (w := "BETWEEN") (by decide) h).blank
  | true => exact (spells_keyword (w := "NOT") (by decide) (spells_keyword (w := "BETWEEN") (by decide) h)).blank

/-- The text of a tree spells its tokens. -/
theorem OperatorTree.spells (h : OperatorTree dialect e ts n) {cs : List Char} {us : List Token}
    (hcs : endsOperand cs = true) (hs : Spells dialect cs us) : Spells dialect (e.toSql.toList ++ cs) (ts ++ us) := by
  induction h generalizing cs us with
  | term h => exact h.spells hcs hs
  | nested _ ih => simpa using spells_opening (ih rfl (spells_closing hs))
  | signed hop hsign h ih =>
    obtain ⟨c, hc, hne⟩ := h.starts hsign
    have := spells_sign hop ⟨c, by simp [List.head?_append, hc], hne⟩ (ih hcs hs)
    simpa using this
  | binary hop _ _ ihl ihr => simpa using ihl rfl (spells_op hop (ihr hcs hs)).blank
  | is property _ ih =>
    have := ih (by cases property <;> rfl) (spells_is property (endsWord_of_endsOperand hcs) hs)
    simpa using this
  | between negated _ _ _ ih ihlow ihhigh =>
    have hhigh := spells_keyword (w := "AND") (by decide) (ihhigh hcs hs)
    have hlow := spells_between negated (ihlow rfl hhigh.blank)
    have := ih (by cases negated <;> rfl) hlow
    simpa using this

/-! ## Reading a bracketed tree -/

variable {rest : List Lexeme} {level depth : Nat}

/-- The tokens of a tree that is read in a grammar: the tree, up to the places in it, is the left side of what comes
behind it; where too few levels are left, nothing is read. -/
structure ReadsFirst (dialect : Dialect) (e : Expr) (ls : List Lexeme) (n : Nat) : Prop where
  reads : ∀ depth level rest, n ≤ depth → level < e.leftLevel → Closes dialect rest →
    infixLevel rest ≤ e.rightLevel → ∃ x fuel, exprTree x = exprTree e ∧ rest.length ≤ fuel ∧
      exprAbove (grammar dialect depth) level (ls ++ rest) = infixLoop (grammar dialect depth) level fuel x rest
  fails : ∀ depth level rest, depth < n → level < e.leftLevel → Closes dialect rest →
    infixLevel rest ≤ e.rightLevel → ∃ fault, exprAbove (grammar dialect depth) level (ls ++ rest) = .error fault

/-- What reads an operand reads it as the left side of what comes behind it. -/
theorem exprAbove_of_operandAt {g : Grammar} {ls : List Lexeme} {x : Expr}
    (h : operandAt g ((ls ++ rest).length + 1) (ls ++ rest) = .ok (x, rest)) :
    exprAbove g level (ls ++ rest) = infixLoop g level rest.length x rest := by
  unfold exprAbove
  rw [run_bind_ok (a := (ls ++ rest).length) (r := ls ++ rest) rfl, run_bind_ok h]
  rfl

theorem exprAbove_of_operandAt_error {g : Grammar} {ts : List Lexeme} {fault : Fault}
    (h : operandAt g (ts.length + 1) ts = .error fault) : exprAbove g level ts = .error fault := by
  unfold exprAbove
  rw [run_bind_ok (a := ts.length) (r := ts) rfl, run_bind_error h]

/-- The whole expression, where an operator comes that is not above the level. -/
theorem ReadsFirst.whole {ls : List Lexeme} (h : ReadsFirst dialect e ls n) (hd : n ≤ depth)
    (hlevel : level < e.leftLevel) (hrest : Closes dialect rest) (hright : infixLevel rest ≤ e.rightLevel)
    (hstop : infixLevel rest ≤ level) :
    ∃ x, exprTree x = exprTree e ∧ exprAbove (grammar dialect depth) level (ls ++ rest) = .ok (x, rest) := by
  obtain ⟨x, fuel, hx, -, hread⟩ := h.reads depth level rest hd hlevel hrest hright
  exact ⟨x, hx, by rw [hread, infixLoop_stop hstop]⟩

/-- The right side of an operator is read one level deeper. -/
theorem ReadsFirst.deeper {ls : List Lexeme} (h : ReadsFirst dialect e ls n) (hd : n + 1 ≤ depth)
    (hlevel : level < e.leftLevel) (hrest : Closes dialect rest) (hright : infixLevel rest ≤ e.rightLevel)
    (hstop : infixLevel rest ≤ level) :
    ∃ x, exprTree x = exprTree e ∧ (grammar dialect depth).expr level (ls ++ rest) = .ok (x, rest) := by
  cases depth with
  | zero => omega
  | succ depth => exact h.whole (by omega) hlevel hrest hright hstop

theorem ReadsFirst.deeper_fails {ls : List Lexeme} (h : ReadsFirst dialect e ls n) (hd : depth < n + 1)
    (hlevel : level < e.leftLevel) (hrest : Closes dialect rest) (hright : infixLevel rest ≤ e.rightLevel) :
    ∃ fault, (grammar dialect depth).expr level (ls ++ rest) = .error fault := by
  cases depth with
  | zero => exact ⟨.tooDeep, rfl⟩
  | succ depth => exact h.fails depth level rest (by omega) hlevel hrest hright

theorem comesQuery_opens {ls : List Lexeme} (h : Opens (ls.map Lexeme.token)) : comesQuery ls = .ok (false, ls) := by
  obtain ⟨⟨t, ht, hlead, -, -⟩, -⟩ := h
  obtain ⟨l, ls', rfl⟩ : ∃ l ls', ls = l :: ls' := by
    cases ls with
    | nil => cases ht
    | cons l ls' => exact ⟨l, ls', rfl⟩
  cases ht
  unfold comesQuery comesOneOf
  rw [run_bind_ok (a := l.token.keyword?) (r := l :: ls') rfl]
  cases hk : l.token.keyword? with
  | none => rfl
  | some w =>
    have hw : w ∉ ["SELECT", "WITH"] := by
      intro hmem
      simp only [List.mem_cons, List.not_mem_nil, or_false] at hmem
      rcases hmem with rfl | rfl <;> exact hlead _ (by decide) hk
    show (pure (["SELECT", "WITH"].contains w) : Parser Bool) _ = _
    rw [List.contains_eq_mem, decide_eq_false hw]
    rfl

/-- An expression with a closing parenthesis behind it. -/
theorem parenExpr_nested {g : Grammar} {ls : List Lexeme} {x : Expr} {closing : Text.Span}
    (hq : comesQuery ls = .ok (false, ls)) (hx : g.expr 0 ls = .ok (x, ⟨.sign ")", closing⟩ :: rest))
    (hrest : Closes dialect rest) : parenExpr g ls = .ok (.nested x, rest) := by
  have hone : commaSeparated (g.expr 0) ls = .ok ([x], ⟨.sign ")", closing⟩ :: rest) := by
    unfold commaSeparated
    rw [run_bind_ok hx]
    rfl
  unfold parenExpr
  rw [run_bind_ok hq]
  show (commaSeparated (g.expr 0) >>= _) ls = _
  rw [run_bind_ok hone]
  show (do if ← acceptSign "." then _ else _ : Parser Expr) rest = _
  rw [run_bind_ok (hrest.acceptSign (by decide))]
  rfl

theorem parenExpr_error {g : Grammar} {ls : List Lexeme} {fault : Fault} (hq : comesQuery ls = .ok (false, ls))
    (hx : g.expr 0 ls = .error fault) : parenExpr g ls = .error fault := by
  unfold parenExpr
  rw [run_bind_ok hq]
  show (commaSeparated (g.expr 0) >>= _) ls = _
  unfold commaSeparated
  rw [run_bind_error (run_bind_error hx _)]

/-- What a sign in front of an operand takes. -/
theorem operandAt_signed {g : Grammar} {op : UnaryOp} (hop : op ≠ .not) (fuel : Nat) (sp : Text.Span) (ls : List Lexeme) :
    operandAt g (fuel + 1) (⟨.sign op.toSql, sp⟩ :: ls) =
      (do collated (.unary op (← g.expr multiplyLevel)) : Parser Expr) ls := by
  have hplain : plainOperand g (operandAt g fuel) (⟨.sign op.toSql, sp⟩ :: ls) =
      (do return ⟨.unary op (← g.expr multiplyLevel), true⟩ : Parser Operand) ls := by
    cases op with
    | not => exact absurd rfl hop
    | _ => rfl
  have htyped : Refused (typedLiteral g (operandAt g fuel)) (⟨.sign op.toSql, sp⟩ :: ls) := ⟨_, _, rfl⟩
  rw [operandAt, run_bind_ok (attempt_refused htyped)]
  show (plainOperand g (operandAt g fuel) >>= _) _ = _
  rw [run_bind, hplain, run_bind, run_bind]
  cases g.expr multiplyLevel ls <;> rfl

variable {ls rs : List Lexeme} {m : Nat}

theorem Term.readsFirst (h : Term dialect e ts n) (hls : ls.map Lexeme.token = ts) : ReadsFirst dialect e ls n where
  reads _ _ _ hd _ hrest _ := by
    obtain ⟨x, hx, -, htree⟩ := h.reads hls hrest hd _
    exact ⟨x, _, htree, Nat.le_refl _, exprAbove_of_operandAt hx⟩
  fails _ _ _ hd _ hrest _ := by
    obtain ⟨fault, hfault⟩ := h.fails hls hrest hd _
    exact ⟨fault, exprAbove_of_operandAt_error hfault⟩

theorem ReadsFirst.nested (h : ReadsFirst dialect e ls n) (hopens : Opens (ls.map Lexeme.token)) (hpos : 0 < e.leftLevel)
    (opening closing : Text.Span) :
    ReadsFirst dialect (.nested e) (⟨.sign "(", opening⟩ :: (ls ++ [⟨.sign ")", closing⟩])) (n + 1) := by
  have hq (rest : List Lexeme) : comesQuery (ls ++ ⟨.sign ")", closing⟩ :: rest) =
      .ok (false, ls ++ ⟨.sign ")", closing⟩ :: rest) := by
    refine comesQuery_opens ?_
    rw [List.map_append]
    exact hopens.append (by simp)
  have hclosing (rest : List Lexeme) : Closes dialect (⟨.sign ")", closing⟩ :: rest) := closes_cons (.sign (by decide))
  have hlist (rest : List Lexeme) : (⟨.sign "(", opening⟩ :: (ls ++ [⟨.sign ")", closing⟩])) ++ rest =
      ⟨.sign "(", opening⟩ :: (ls ++ ⟨.sign ")", closing⟩ :: rest) := by simp
  refine ⟨fun depth level rest hd _ hrest _ => ?_, fun depth level rest hd _ hrest _ => ?_⟩
  · obtain ⟨x, hx, hread⟩ := h.deeper hd hpos (hclosing rest) (Nat.zero_le _) (Nat.zero_le _)
    refine ⟨.nested x, rest.length, by rw [exprTree_nested, exprTree_nested, hx], Nat.le_refl _, ?_⟩
    refine exprAbove_of_operandAt ?_
    rw [hlist, operandAt_opening, run_bind_ok (parenExpr_nested (hq rest) hread hrest)]
    exact collated_none hrest.noCollation
  · obtain ⟨fault, hfault⟩ := h.deeper_fails hd hpos (hclosing rest) (Nat.zero_le _)
    refine ⟨fault, exprAbove_of_operandAt_error ?_⟩
    rw [hlist, operandAt_opening, run_bind_error (parenExpr_error (hq rest) hfault)]

theorem ReadsFirst.signed (h : ReadsFirst dialect e ls n) {op : UnaryOp} (hop : op ≠ .not)
    (hlevel : multiplyLevel < e.leftLevel) (sp : Text.Span) :
    ReadsFirst dialect (.unary op e) (⟨.sign op.toSql, sp⟩ :: ls) (n + 1) := by
  refine ⟨fun depth level rest hd _ hrest hright => ?_, fun depth level rest hd _ hrest hright => ?_⟩
  · obtain ⟨hstop, hright⟩ : infixLevel rest ≤ multiplyLevel ∧ infixLevel rest ≤ e.rightLevel := Nat.le_min.1 hright
    obtain ⟨x, hx, hread⟩ := h.deeper hd hlevel hrest hright hstop
    refine ⟨.unary op x, rest.length, by rw [exprTree_unary, exprTree_unary, hx], Nat.le_refl _, ?_⟩
    refine exprAbove_of_operandAt ?_
    rw [List.cons_append, operandAt_signed hop, run_bind_ok hread]
    exact collated_none hrest.noCollation
  · obtain ⟨-, hright⟩ : infixLevel rest ≤ multiplyLevel ∧ infixLevel rest ≤ e.rightLevel := Nat.le_min.1 hright
    obtain ⟨fault, hfault⟩ := h.deeper_fails hd hlevel hrest hright
    refine ⟨fault, exprAbove_of_operandAt_error ?_⟩
    rw [List.cons_append, operandAt_signed hop, run_bind_error hfault]

/-- The right side of an operator starts with no word that asks for a set. -/
theorem infixExpr_opens {g : Grammar} {left : Expr} {op : BinaryOp} (hop : op.spoken g.dialect = true)
    (hopens : Opens (ls.map Lexeme.token)) (sp : Text.Span) :
    infixExpr g left level (⟨op.token, sp⟩ :: (ls ++ rest)) =
      (do return .binary left op (← g.expr level) : Parser Expr) (ls ++ rest) := by
  obtain ⟨⟨t, ht, hlead, -, -⟩, -⟩ := hopens
  cases ls with
  | nil => cases ht
  | cons l ls =>
    cases ht
    have hsub : ∀ w ∈ amongWords, w ∈ leadingWords := by decide
    exact infixExpr_op op hop (fun w hw => hlead w (hsub w hw)) sp

theorem ReadsFirst.binary {l r : Expr} {op : BinaryOp} (hl : ReadsFirst dialect l ls n) (hr : ReadsFirst dialect r rs m)
    (hop : op.spoken dialect = true) (hopens : Opens (rs.map Lexeme.token)) (hleft : op.level ≤ l.rightLevel)
    (hright : op.level < r.leftLevel) (sp : Text.Span) :
    ReadsFirst dialect (.binary l op r) (ls ++ ⟨op.token, sp⟩ :: rs) (max n (m + 1)) := by
  have hop' (depth : Nat) : op.spoken (grammar dialect depth).dialect = true := by rwa [grammar_dialect]
  have hlist (rest : List Lexeme) : (ls ++ ⟨op.token, sp⟩ :: rs) ++ rest = ls ++ ⟨op.token, sp⟩ :: (rs ++ rest) := by simp
  have hcloses (rest : List Lexeme) : Closes dialect (⟨op.token, sp⟩ :: (rs ++ rest)) := closes_cons (.op hop)
  have hnext (rest : List Lexeme) : infixLevel (⟨op.token, sp⟩ :: (rs ++ rest)) = op.level := infixLevel_op hop sp _
  refine ⟨fun depth level rest hd hlevel hrest hstop => ?_, fun depth level rest hd hlevel hrest hstop => ?_⟩
  · obtain ⟨hlevel, hlevel'⟩ := Nat.lt_min.1 hlevel
    obtain ⟨hstop, hstop'⟩ := Nat.le_min.1 hstop
    obtain ⟨hn, hm⟩ := Nat.max_le.1 hd
    obtain ⟨x, fuel, hx, hfuel, hread⟩ := hl.reads depth level _ hn hlevel' (hcloses rest) (by rwa [hnext])
    obtain ⟨y, hy, hread'⟩ := hr.deeper hm hright hrest hstop' hstop
    have hexpr : infixExpr (grammar dialect depth) x op.level (⟨op.token, sp⟩ :: (rs ++ rest)) =
        .ok (.binary x op y, rest) := by
      rw [infixExpr_opens (hop' depth) hopens, run_bind_ok hread']
      rfl
    simp only [List.length_cons, List.length_append] at hfuel
    obtain ⟨fuel, rfl⟩ : ∃ k, fuel = k + 1 := ⟨fuel - 1, by omega⟩
    refine ⟨.binary x op y, fuel, by rw [exprTree_binary, exprTree_binary, hx, hy], by omega, ?_⟩
    rw [hlist, hread, infixLoop_step (hnext rest) hlevel hexpr]
  · obtain ⟨hlevel, hlevel'⟩ := Nat.lt_min.1 hlevel
    obtain ⟨-, hstop'⟩ := Nat.le_min.1 hstop
    rw [hlist]
    by_cases hn : depth < n
    · exact hl.fails depth level _ hn hlevel' (hcloses rest) (by rwa [hnext])
    · obtain ⟨x, fuel, -, hfuel, hread⟩ := hl.reads depth level _ (Nat.le_of_not_lt hn) hlevel' (hcloses rest) (by rwa [hnext])
      have hdeep : depth < m + 1 := by omega
      obtain ⟨fault, hfault⟩ := hr.deeper_fails hdeep hright hrest hstop'
      have hexpr : infixExpr (grammar dialect depth) x op.level (⟨op.token, sp⟩ :: (rs ++ rest)) = .error fault := by
        rw [infixExpr_opens (hop' depth) hopens, run_bind_error hfault]
      simp only [List.length_cons, List.length_append] at hfuel
      obtain ⟨fuel, rfl⟩ : ∃ k, fuel = k + 1 := ⟨fuel - 1, by omega⟩
      exact ⟨fault, by rw [hread, infixLoop_error (hnext rest) hlevel hexpr]⟩

theorem closes_is {property : Property} (h : ls.map Lexeme.token = isTokens property) (rest : List Lexeme) :
    Closes dialect (ls ++ rest) := by
  obtain ⟨sp, ls, rfl, -⟩ := cons_of_tokens h
  exact closes_cons (.word (by decide))

theorem closes_between {negated : Bool} (h : ls.map Lexeme.token = betweenTokens negated) (rest : List Lexeme) :
    Closes dialect (ls ++ rest) := by
  cases negated with
  | false =>
    obtain ⟨sp, ls, rfl, -⟩ := cons_of_tokens h
    exact closes_cons (.word (by decide))
  | true =>
    obtain ⟨sp, ls, rfl, -⟩ := cons_of_tokens h
    exact closes_cons (.word (by decide))

theorem ReadsFirst.is (h : ReadsFirst dialect e ls n) {property : Property} (hlevel : isLevel ≤ e.rightLevel)
    (hrs : rs.map Lexeme.token = isTokens property) : ReadsFirst dialect (.is e property) (ls ++ rs) n := by
  have hlength : 0 < rs.length := by
    obtain ⟨sp, rs, rfl, -⟩ := cons_of_tokens hrs
    exact Nat.succ_pos _
  refine ⟨fun depth level rest hd hleft hrest hstop => ?_, fun depth level rest hd hleft hrest hstop => ?_⟩
  · obtain ⟨hleft, hleft'⟩ := Nat.lt_min.1 hleft
    obtain ⟨x, fuel, hx, hfuel, hread⟩ := h.reads depth level _ hd hleft' (closes_is hrs rest)
      (by rwa [infixLevel_is hrs])
    rw [List.length_append] at hfuel
    obtain ⟨fuel, rfl⟩ : ∃ k, fuel = k + 1 := ⟨fuel - 1, by omega⟩
    refine ⟨.is x property, fuel, by rw [exprTree_is, exprTree_is, hx], by omega, ?_⟩
    rw [List.append_assoc, hread, infixLoop_step (infixLevel_is hrs) hleft (infixExpr_is hrs)]
  · obtain ⟨-, hleft'⟩ := Nat.lt_min.1 hleft
    rw [List.append_assoc]
    exact h.fails depth level _ hd hleft' (closes_is hrs rest) (by rwa [infixLevel_is hrs])

/-- The bounds of a range, read one level deeper. -/
theorem betweenExpr_eq {g : Grammar} {left low high : Expr} {negated : Bool} {sp : Text.Span} {us vs : List Lexeme}
    (hlow : g.expr comparisonLevel us = .ok (low, ⟨.word "AND" none, sp⟩ :: vs))
    (hhigh : g.expr comparisonLevel vs = .ok (high, rest)) :
    betweenExpr g left negated us = .ok (.between left low high negated, rest) := by
  unfold betweenExpr
  rw [run_bind_ok hlow, run_bind_ok (a := ()) (r := vs) rfl, run_bind_ok hhigh]
  rfl

theorem ReadsFirst.between {low high : Expr} {us vs ws : List Lexeme} {k : Nat} {negated : Bool}
    (h : ReadsFirst dialect e ls n) (hlow : ReadsFirst dialect low us m) (hhigh : ReadsFirst dialect high vs k)
    (hws : ws.map Lexeme.token = betweenTokens negated) (hlevel : comparisonLevel ≤ e.rightLevel)
    (hlowLeft : comparisonLevel < low.leftLevel) (hlowRight : BinaryOp.and.level ≤ low.rightLevel)
    (hhighLeft : comparisonLevel < high.leftLevel) (sp : Text.Span) :
    ReadsFirst dialect (.between e low high negated) (ls ++ (ws ++ (us ++ ⟨.word "AND" none, sp⟩ :: vs)))
      (max n (max m k + 1)) := by
  have hlength : 0 < ws.length := by
    cases negated <;> obtain ⟨sp, ws, rfl, -⟩ := cons_of_tokens hws <;> exact Nat.succ_pos _
  have hlist (rest : List Lexeme) : (ls ++ (ws ++ (us ++ ⟨.word "AND" none, sp⟩ :: vs))) ++ rest =
      ls ++ (ws ++ (us ++ ⟨.word "AND" none, sp⟩ :: (vs ++ rest))) := by simp
  have hand (rest : List Lexeme) : Closes dialect (⟨.word "AND" none, sp⟩ :: (vs ++ rest)) :=
    closes_cons (.op (show BinaryOp.and.spoken dialect = true from rfl))
  have hstopAnd (rest : List Lexeme) : infixLevel (⟨.word "AND" none, sp⟩ :: (vs ++ rest)) ≤ comparisonLevel :=
    show 10 ≤ 20 by decide
  -- what stands behind the tested expression
  have hnext (rest : List Lexeme) : infixLevel (ws ++ (us ++ ⟨.word "AND" none, sp⟩ :: (vs ++ rest))) = comparisonLevel :=
    infixLevel_between hws
  have hbehind (rest : List Lexeme) : Closes dialect (ws ++ (us ++ ⟨.word "AND" none, sp⟩ :: (vs ++ rest))) :=
    closes_between hws _
  refine ⟨fun depth level rest hd hleft hrest hstop => ?_, fun depth level rest hd hleft hrest hstop => ?_⟩
  · obtain ⟨hleft, hleft'⟩ := Nat.lt_min.1 hleft
    obtain ⟨hstop, hstop'⟩ := Nat.le_min.1 hstop
    obtain ⟨hn, hm, hk⟩ : n ≤ depth ∧ m + 1 ≤ depth ∧ k + 1 ≤ depth := by omega
    obtain ⟨x, fuel, hx, hfuel, hread⟩ := h.reads depth level _ hn hleft' (hbehind rest) (by rwa [hnext])
    obtain ⟨y, hy, hready⟩ := hlow.deeper hm hlowLeft (hand rest) hlowRight (hstopAnd rest)
    obtain ⟨z, hz, hreadz⟩ := hhigh.deeper hk hhighLeft hrest hstop' hstop
    have hexpr : infixExpr (grammar dialect depth) x comparisonLevel
        (ws ++ (us ++ ⟨.word "AND" none, sp⟩ :: (vs ++ rest))) = .ok (.between x y z negated, rest) := by
      rw [infixExpr_between hws, betweenExpr_eq hready hreadz]
    simp only [List.length_append, List.length_cons] at hfuel
    obtain ⟨fuel, rfl⟩ : ∃ k, fuel = k + 1 := ⟨fuel - 1, by omega⟩
    refine ⟨.between x y z negated, fuel, by rw [exprTree_between, exprTree_between, hx, hy, hz], by omega, ?_⟩
    rw [hlist, hread, infixLoop_step (hnext rest) hleft hexpr]
  · obtain ⟨hleft, hleft'⟩ := Nat.lt_min.1 hleft
    obtain ⟨-, hstop'⟩ := Nat.le_min.1 hstop
    rw [hlist]
    by_cases hn : depth < n
    · exact h.fails depth level _ hn hleft' (hbehind rest) (by rwa [hnext])
    · obtain ⟨x, fuel, -, hfuel, hread⟩ :=
        h.reads depth level _ (Nat.le_of_not_lt hn) hleft' (hbehind rest) (by rwa [hnext])
      have hfails : ∃ fault, betweenExpr (grammar dialect depth) x negated
          (us ++ ⟨.word "AND" none, sp⟩ :: (vs ++ rest)) = .error fault := by
        by_cases hm : depth < m + 1
        · obtain ⟨fault, hfault⟩ := hlow.deeper_fails hm hlowLeft (hand rest) hlowRight
          exact ⟨fault, run_bind_error hfault _⟩
        · obtain ⟨y, -, hready⟩ := hlow.deeper (Nat.le_of_not_lt hm) hlowLeft (hand rest) hlowRight (hstopAnd rest)
          have hk : depth < k + 1 := by omega
          obtain ⟨fault, hfault⟩ := hhigh.deeper_fails hk hhighLeft hrest hstop'
          refine ⟨fault, ?_⟩
          unfold betweenExpr
          rw [run_bind_ok hready, run_bind_ok (a := ()) (r := vs ++ rest) rfl, run_bind_error hfault]
      obtain ⟨fault, hfault⟩ := hfails
      have hexpr : infixExpr (grammar dialect depth) x comparisonLevel
          (ws ++ (us ++ ⟨.word "AND" none, sp⟩ :: (vs ++ rest))) = .error fault := by
        rw [infixExpr_between hws, hfault]
      simp only [List.length_append, List.length_cons] at hfuel
      obtain ⟨fuel, rfl⟩ : ∃ k, fuel = k + 1 := ⟨fuel - 1, by omega⟩
      exact ⟨fault, by rw [hread, infixLoop_error (hnext rest) hleft hexpr]⟩

theorem OperatorTree.leftLevel_pos (h : OperatorTree dialect e ts n) : 0 < e.leftLevel := by
  induction h with
  | term h =>
    rw [(isPiece_of_plain h.plain).leftLevel]
    decide
  | nested | signed => exact Nat.succ_pos _
  | binary hop _ _ ihl _ => exact Nat.lt_min.2 ⟨BinaryOp.level_pos hop, ihl⟩
  | is _ _ ih => exact Nat.lt_min.2 ⟨by decide, ih⟩
  | between _ _ _ _ ih _ _ => exact Nat.lt_min.2 ⟨by decide, ih⟩

theorem OperatorTree.whole (h : OperatorTree dialect e ts n) : e.Whole := by
  induction h with
  | term h => exact (isPiece_of_plain h.plain).whole
  | nested _ ih | signed _ _ _ ih | is _ _ ih => exact ih
  | binary _ _ _ ihl ihr => exact ⟨ihl, ihr⟩
  | between _ _ _ _ ih ihlow ihhigh => exact ⟨ih, ihlow, ihhigh⟩

/-- **A bracketed tree is read from its tokens**, if enough levels are left. -/
theorem OperatorTree.readsFirst (h : OperatorTree dialect e ts n) (hb : e.Bracketed) (hls : ls.map Lexeme.token = ts) :
    ReadsFirst dialect e ls n := by
  induction h generalizing ls with
  | term h => exact h.readsFirst hls
  | nested h ih =>
    obtain ⟨opening, ls', rfl, hinside⟩ := cons_of_tokens hls
    obtain ⟨us, vs, rfl, hus, hvs⟩ := List.map_eq_append_iff.1 hinside
    obtain ⟨closing, vs', rfl, hend⟩ := cons_of_tokens hvs
    obtain rfl := List.map_eq_nil_iff.1 hend
    exact (ih hb hus).nested (hus ▸ h.opens) h.leftLevel_pos opening closing
  | signed hop _ _ ih =>
    obtain ⟨sp, us, rfl, hus⟩ := cons_of_tokens hls
    exact (ih hb.1 hus).signed hop hb.2 sp
  | binary hop _ hr ihl ihr =>
    obtain ⟨hbl, hbr, hleft, hright⟩ := hb
    obtain ⟨us, vs, rfl, hus, hvs⟩ := List.map_eq_append_iff.1 hls
    obtain ⟨sp, ws, rfl, hws⟩ := cons_of_tokens hvs
    exact (ihl hbl hus).binary (ihr hbr hws) hop (hws ▸ hr.opens) hleft hright sp
  | is property _ ih =>
    obtain ⟨us, vs, rfl, hus, hvs⟩ := List.map_eq_append_iff.1 hls
    exact (ih hb.1 hus).is hb.2 hvs
  | between negated _ _ _ ih ihlow ihhigh =>
    obtain ⟨hbe, hblow, hbhigh, hlevel, hlowLeft, hlowRight, hhighLeft⟩ := hb
    obtain ⟨us, rs₁, rfl, hus, hrs₁⟩ := List.map_eq_append_iff.1 hls
    obtain ⟨ws, rs₂, rfl, hws, hrs₂⟩ := List.map_eq_append_iff.1 hrs₁
    obtain ⟨lows, rs₃, rfl, hlows, hrs₃⟩ := List.map_eq_append_iff.1 hrs₂
    obtain ⟨sp, highs, rfl, hhighs⟩ := cons_of_tokens hrs₃
    exact (ih hbe hus).between (ihlow hblow hlows) (ihhigh hbhigh hhighs) hws hlevel hlowLeft hlowRight hhighLeft sp

end Parser

end SqlTemplate.Sql
