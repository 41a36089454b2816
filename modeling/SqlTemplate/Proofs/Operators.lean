import SqlTemplate.Proofs.Running
import SqlTemplate.Proofs.Scanning

/-!
# Operators between and behind operands

Every operator has a token of its own, or a few words, and a level. Behind an operand its level decides whether it is
taken, and then it takes what stands on its right side.

* `spells_op`: the text of an operator is its token.
* `infixLevel_op`, `infixExpr_op`: an operator between two operands.
* `infixExpr_is`, `infixExpr_between`: the tests.
-/

namespace SqlTemplate.Sql

/-- The token of an operator between two operands. -/
def BinaryOp.token : BinaryOp → Token
  | .and => .word "AND" none
  | .or => .word "OR" none
  | .xor => .word "XOR" none
  | op => .sign op.toSql

/-- The level of an operator between two operands. -/
def BinaryOp.level : BinaryOp → Nat
  | .and => Parser.wordLevel "AND"
  | .or => Parser.wordLevel "OR"
  | .xor => Parser.wordLevel "XOR"
  | op => Parser.signLevel op.toSql

/-- Whether an operator is one token that the dialect knows. -/
def BinaryOp.spoken (dialect : Dialect) : BinaryOp → Bool
  | .named _ => false
  | .wholeDivide | .shiftLeft | .shiftRight | .startsWith | .overlaps => dialect == .generic
  | _ => true

variable {dialect : Dialect} {op : BinaryOp}

theorem BinaryOp.level_pos (h : op.spoken dialect = true) : 0 < op.level := by
  cases op with
  | named parts => cases h
  | _ => decide

theorem BinaryOp.level_lt (h : op.spoken dialect = true) : op.level < 60 := by
  cases op with
  | named parts => cases h
  | _ => decide

/-- The text of an operator in front of a blank. -/
theorem spells_op (hop : op.spoken dialect = true) {cs : List Char} {ts : List Token} (h : Spells dialect cs ts) :
    Spells dialect (op.toSql.toList ++ ' ' :: cs) (op.token :: ts) := by
  have sign {s : String} {c : Char} {w : List Char} (hs : s.toList = c :: w) (hc : startsSign dialect c = true)
      (hnext : apart c (w ++ [' ']).head? = true) (hsign : signOf c w = (.sign s, [])) :
      Spells dialect (s.toList ++ ' ' :: cs) (.sign s :: ts) := by
    rw [hs]
    exact .sign hc hnext hsign h
  have marked {s : String} {c : Char} {w : List Char} (hs : s.toList = c :: w)
      (hscan : scanToken dialect c (w ++ ' ' :: cs) = .ok (.sign s, ' ' :: cs)) :
      Spells dialect (s.toList ++ ' ' :: cs) (.sign s :: ts) := by
    rw [hs]
    exact .token (t := .sign s) hscan (by simp) (by simp [Token.promote]) h.blank
  have word {w : String} (hw : Macro.isPlainWord w.toList = true) :
      Spells dialect (w.toList ++ ' ' :: cs) (.word w none :: ts) := h.blank.word hw rfl
  cases op with
  | named parts => cases hop
  | and | or | xor => exact word (by decide)
  | wholeDivide =>
    cases dialect with
    | clickHouse => cases hop
    | generic => exact marked rfl rfl
  | shiftLeft | shiftRight | startsWith | overlaps =>
    cases dialect with
    | clickHouse => cases hop
    | generic => exact sign rfl (by decide +kernel) rfl (by decide +kernel)
  | hashArrow | hashLongArrow | atArrow | hashMinus | atQuestion | atAt => exact marked rfl (by cases dialect <;> rfl)
  | _ => exact sign rfl (by cases dialect <;> decide +kernel) rfl (by decide +kernel)

namespace Parser

variable {g : Grammar} {left e : Expr} {level : Nat} {ts rest : List Lexeme}

theorem infixLevel_op (h : op.spoken dialect = true) (sp : Text.Span) (ts : List Lexeme) :
    infixLevel (⟨op.token, sp⟩ :: ts) = op.level := by
  cases op with
  | named parts => cases h
  | _ => rfl

theorem binaryOp?_token (h : op.spoken dialect = true) (ts : List Lexeme) :
    binaryOp? dialect op.token ts = .ok (some op, ts) := by
  cases op with
  | named parts => cases h
  | wholeDivide | shiftLeft | shiftRight | startsWith | overlaps =>
    cases dialect with
    | clickHouse => cases h
    | generic => rfl
  | _ => cases dialect <;> rfl

/-- The words that ask for a set behind an operator. -/
def amongWords : List String := ["ANY", "ALL", "SOME"]

/-- The right side of an operator, if its first word asks for no set. -/
theorem infixExpr_op (op : BinaryOp) {l : Lexeme} (hop : op.spoken g.dialect = true)
    (hl : ∀ word ∈ amongWords, l.token.keyword? ≠ some word) (sp : Text.Span) :
    infixExpr g left level (⟨op.token, sp⟩ :: l :: ts) =
      (do return .binary left op (← g.expr level) : Parser Expr) (l :: ts) := by
  have hnone : acceptOneOf ["ANY", "ALL", "SOME"] (l :: ts) = .ok (none, l :: ts) := by
    unfold acceptOneOf
    rw [run_bind_ok (a := l.token.keyword?) (r := l :: ts) rfl]
    cases hk : l.token.keyword? with
    | none => rfl
    | some word =>
      have hword : word ∉ amongWords := fun hm => hl word hm hk
      dsimp only
      rw [if_neg (by simpa [amongWords] using hword)]
      rfl
  unfold infixExpr
  rw [run_bind_ok (a := ⟨op.token, sp⟩ :: l :: ts) (r := ⟨op.token, sp⟩ :: l :: ts) rfl,
    run_bind_ok (a := some ⟨op.token, sp⟩) (r := l :: ts) rfl]
  dsimp only
  rw [run_bind_ok (binaryOp?_token hop _)]
  dsimp only
  rw [run_bind_ok hnone]

/-! ## Taking operators -/

/-- One turn of the loop over operators. -/
theorem infixLoop_step {fuel n : Nat} (hn : infixLevel ts = n) (hl : level < n)
    (h : infixExpr g left n ts = .ok (e, rest)) :
    infixLoop g level (fuel + 1) left ts = infixLoop g level fuel e rest := by
  rw [infixLoop, run_bind_ok (a := ts) (r := ts) rfl, if_neg (by omega), hn, run_bind_ok h]

theorem infixLoop_error {fuel n : Nat} {fault : Fault} (hn : infixLevel ts = n) (hl : level < n)
    (h : infixExpr g left n ts = .error fault) : infixLoop g level (fuel + 1) left ts = .error fault := by
  rw [infixLoop, run_bind_ok (a := ts) (r := ts) rfl, if_neg (by omega), hn, run_bind_error h]

/-- The loop ends in front of an operator whose level is not above its own. -/
theorem infixLoop_stop (h : infixLevel ts ≤ level) (fuel : Nat) (left : Expr) :
    infixLoop g level fuel left ts = .ok (left, ts) := by
  cases fuel with
  | zero => rfl
  | succ fuel =>
    rw [infixLoop, run_bind_ok (a := ts) (r := ts) rfl, if_pos h]
    rfl

/-! ## Tests -/

/-- The words behind `IS`. -/
def propertyWords : Property → List String
  | .null => ["NULL"]
  | .notNull => ["NOT", "NULL"]
  | .true => ["TRUE"]
  | .notTrue => ["NOT", "TRUE"]
  | .false => ["FALSE"]
  | .notFalse => ["NOT", "FALSE"]
  | .unknown => ["UNKNOWN"]
  | .notUnknown => ["NOT", "UNKNOWN"]

/-- The tokens of a test for a property. -/
def isTokens (property : Property) : List Token := ("IS" :: propertyWords property).map (.word · none)

/-- The tokens of a test for a range in front of its bounds. -/
def betweenTokens (negated : Bool) : List Token :=
  (if negated then ["NOT", "BETWEEN"] else ["BETWEEN"]).map (.word · none)

/-- The level of a test for a property. -/
def isLevel : Nat := wordLevel "IS"

theorem infixLevel_is {property : Property} {ls : List Lexeme} (h : ls.map Lexeme.token = isTokens property) :
    infixLevel (ls ++ rest) = isLevel := by
  obtain ⟨sp, ls, rfl, -⟩ := cons_of_tokens h
  rfl

/-- A test for a property takes the words behind it. -/
theorem infixExpr_is {property : Property} {ls : List Lexeme} (h : ls.map Lexeme.token = isTokens property) :
    infixExpr g left level (ls ++ rest) = .ok (.is left property, rest) := by
  obtain ⟨dialect, connecting, expr, relating, query, statement⟩ := g
  cases property with
  | null | true | false | unknown =>
    obtain ⟨sp, ls, rfl, hword⟩ := cons_of_tokens h
    obtain ⟨sp', ls, rfl, hend⟩ := cons_of_tokens hword
    obtain rfl := List.map_eq_nil_iff.1 hend
    cases dialect <;> rfl
  | notNull | notTrue | notFalse | notUnknown =>
    obtain ⟨sp, ls, rfl, hnot⟩ := cons_of_tokens h
    obtain ⟨sp', ls, rfl, hword⟩ := cons_of_tokens hnot
    obtain ⟨sp'', ls, rfl, hend⟩ := cons_of_tokens hword
    obtain rfl := List.map_eq_nil_iff.1 hend
    cases dialect <;> rfl

theorem infixLevel_between {negated : Bool} {ls : List Lexeme} (h : ls.map Lexeme.token = betweenTokens negated) :
    infixLevel (ls ++ rest) = comparisonLevel := by
  cases negated with
  | false =>
    obtain ⟨sp, ls, rfl, -⟩ := cons_of_tokens h
    rfl
  | true =>
    obtain ⟨sp, ls, rfl, hword⟩ := cons_of_tokens h
    obtain ⟨sp', ls, rfl, -⟩ := cons_of_tokens hword
    rfl

/-- A test for a range takes its bounds, which stand above comparisons. -/
theorem infixExpr_between {negated : Bool} {ls : List Lexeme} (h : ls.map Lexeme.token = betweenTokens negated) :
    infixExpr g left level (ls ++ rest) = betweenExpr g left negated rest := by
  obtain ⟨dialect, connecting, expr, relating, query, statement⟩ := g
  cases negated with
  | false =>
    obtain ⟨sp, ls, rfl, hend⟩ := cons_of_tokens h
    obtain rfl := List.map_eq_nil_iff.1 hend
    cases dialect <;> rfl
  | true =>
    obtain ⟨sp, ls, rfl, hword⟩ := cons_of_tokens h
    obtain ⟨sp', ls, rfl, hend⟩ := cons_of_tokens hword
    obtain rfl := List.map_eq_nil_iff.1 hend
    cases dialect <;> rfl

end Parser

end SqlTemplate.Sql
