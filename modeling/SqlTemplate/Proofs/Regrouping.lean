import Mathlib.Data.List.Nodup
import SqlTemplate.Proofs.OperatorTrees

/-!
# What is read from operators

Whatever the brackets in a tree of operators are, its tokens are terms with operators between them, and what is read
from these is bracketed by the levels of the operators and holds as many parentheses as the tokens. So the text of a
tree that is not bracketed is never read as that tree.

* `Due`, `Done`: the tokens of operators and terms, where an operand is due and where one has come to its end.
* `exprAbove_sound`: what is read from such tokens.
* `bracketed_iff_of_tree_eq`: whether a tree is bracketed does not depend on the places in it.
-/

namespace SqlTemplate.Sql.Parser

open Service.Tree Json

variable {dialect : Dialect} {ts us : List Token} {k m : Nat}

mutual

/-- The tokens from where an operand is due, and the number of parentheses among them. -/
inductive Due (dialect : Dialect) : List Token → Nat → Prop
  | term {e : Expr} {ts us : List Token} {n k : Nat} (h : Term dialect e ts n) (hus : Done dialect us k) :
      Due dialect (ts ++ us) k
  | nested {ts us : List Token} {k m : Nat} (h : Due dialect ts k) (hus : Done dialect us m) :
      Due dialect (.sign "(" :: (ts ++ .sign ")" :: us)) (k + 1 + m)
  | signed {op : UnaryOp} {ts : List Token} {k : Nat} (hop : op ≠ .not) (h : Due dialect ts k) :
      Due dialect (.sign op.toSql :: ts) k

/-- The tokens from where an operand has come to its end. -/
inductive Done (dialect : Dialect) : List Token → Nat → Prop
  | nil : Done dialect [] 0
  | op {op : BinaryOp} {ts : List Token} {k : Nat} (hop : op.spoken dialect = true) (h : Due dialect ts k) :
      Done dialect (op.token :: ts) k
  | is {ts : List Token} {k : Nat} (property : Property) (h : Done dialect ts k) :
      Done dialect (isTokens property ++ ts) k
  | between {ts : List Token} {k : Nat} (negated : Bool) (h : Due dialect ts k) :
      Done dialect (betweenTokens negated ++ ts) k

end

theorem Done.noPoint (h : Done dialect ts k) : ts.head? ≠ some (.sign ".") := by
  cases h with
  | nil => simp
  | op hop _ => simpa using BinaryOp.token_ne_point hop
  | is property _ => simp [isTokens]
  | between negated _ => cases negated <;> simp [betweenTokens]

theorem Due.opens : ∀ {ts : List Token} {k : Nat}, Due dialect ts k → Opens ts
  | _, _, .term h hus => h.opens.append hus.noPoint
  | _, _, .nested h _ => opens_cons (opensExpr_sign (by decide)) (h.opens.append (by simp))
  | _, _, @Due.signed _ op _ _ _ h => opens_cons (opensExpr_sign (by cases op <;> decide)) h.opens

/-- The tokens of a tree are terms with operators between them. -/
theorem OperatorTree.due {e : Expr} {n : Nat} (h : OperatorTree dialect e ts n) (hus : Done dialect us m) :
    Due dialect (ts ++ us) (e.nests + m) := by
  induction h generalizing us m with
  | term h =>
    rw [(isPiece_of_plain h.plain).nests, Nat.zero_add]
    exact .term h hus
  | @nested e ts _ _ ih =>
    have hinside := ih .nil
    rw [List.append_nil] at hinside
    simpa [Expr.nests] using hinside.nested hus
  | signed hop _ _ ih => exact .signed hop (ih hus)
  | @binary _ l r _ _ _ _ hop _ _ ihl ihr =>
    have := ihl (.op hop (ihr hus))
    rw [← Nat.add_assoc] at this
    simpa [Expr.nests] using this
  | is property _ ih => simpa [Expr.nests] using ih (.is property hus)
  | between negated _ _ _ ih ihlow ihhigh =>
    have hand := Done.op (show BinaryOp.and.spoken dialect = true from rfl) (ihhigh hus)
    have := ih (.between negated (ihlow hand))
    simpa [Expr.nests, Nat.add_assoc, BinaryOp.token] using this

/-! ## What comes next -/

variable {ls rest r : List Lexeme} {x : Expr} {level depth fuel : Nat}

theorem Done.closes (h : Done dialect (ls.map Lexeme.token) k) (hrest : Closes dialect rest) :
    Closes dialect (ls ++ rest) := by
  generalize hts : ls.map Lexeme.token = ts at h
  cases h with
  | nil =>
    obtain rfl := List.map_eq_nil_iff.1 hts
    exact hrest
  | op hop _ =>
    obtain ⟨sp, ls', rfl, -⟩ := cons_of_tokens hts
    exact closes_cons (.op hop)
  | is property _ =>
    obtain ⟨us, vs, rfl, hus, -⟩ := List.map_eq_append_iff.1 hts
    rw [List.append_assoc]
    exact closes_is hus _
  | between negated _ =>
    obtain ⟨us, vs, rfl, hus, -⟩ := List.map_eq_append_iff.1 hts
    rw [List.append_assoc]
    exact closes_between hus _

/-- An operator comes next, or nothing is left. -/
theorem Done.infixLevel_lt (h : Done dialect (ls.map Lexeme.token) k) (hzero : infixLevel rest = 0) :
    infixLevel (ls ++ rest) < highestLevel ∧ (infixLevel (ls ++ rest) = 0 → ls = [] ∧ k = 0) := by
  generalize hts : ls.map Lexeme.token = ts at h
  cases h with
  | nil =>
    obtain rfl := List.map_eq_nil_iff.1 hts
    rw [List.nil_append, hzero]
    exact ⟨by decide, fun _ => ⟨rfl, rfl⟩⟩
  | op hop _ =>
    obtain ⟨sp, ls', rfl, -⟩ := cons_of_tokens hts
    have hpos := BinaryOp.level_pos hop
    rw [List.cons_append, infixLevel_op hop]
    exact ⟨BinaryOp.level_lt hop, fun h => by omega⟩
  | is property _ =>
    obtain ⟨us, vs, rfl, hus, -⟩ := List.map_eq_append_iff.1 hts
    rw [List.append_assoc, infixLevel_is hus]
    exact ⟨by decide, fun h => absurd h (by decide)⟩
  | between negated _ =>
    obtain ⟨us, vs, rfl, hus, -⟩ := List.map_eq_append_iff.1 hts
    rw [List.append_assoc, infixLevel_between hus]
    exact ⟨by decide, fun h => absurd h (by decide)⟩

/-- What has been taken from the tokens: a bracketed tree, in front of which nothing stands that it could still take. -/
structure Taken (dialect : Dialect) (k : Nat) (input rest : List Lexeme) (x : Expr) (r : List Lexeme) : Prop where
  left : ∃ ls m, r = ls ++ rest ∧ Done dialect (ls.map Lexeme.token) m ∧ k = x.nests + m
  shorter : r.length ≤ input.length
  bracketed : x.Bracketed
  whole : x.Whole
  rightLevel : infixLevel r ≤ x.rightLevel

/-- A reader of expressions above a level takes bracketed trees. -/
def Sound (dialect : Dialect) (p : Nat → Parser Expr) : Prop :=
  ∀ {level k ls rest x r}, level < highestLevel → Due dialect (ls.map Lexeme.token) k → Closes dialect rest →
    infixLevel rest = 0 → p level (ls ++ rest) = .ok (x, r) →
    Taken dialect k (ls ++ rest) rest x r ∧ level < x.leftLevel ∧ infixLevel r ≤ level

/-- An operand and what it leaves. -/
theorem operandAt_due (hg : Sound dialect (grammar dialect depth).expr) (h : Due dialect (ls.map Lexeme.token) k)
    (hrest : Closes dialect rest) (hzero : infixLevel rest = 0)
    (hok : operandAt (grammar dialect depth) (fuel + 1) (ls ++ rest) = .ok (x, r)) :
    Taken dialect k (ls ++ rest) rest x r ∧ x.leftLevel = highestLevel := by
  generalize hts : ls.map Lexeme.token = ts at h
  cases h with
  | @term _ _ _ n _ h hus =>
    obtain ⟨vs, ws, rfl, hvs, rfl⟩ := List.map_eq_append_iff.1 hts
    rw [List.append_assoc] at hok
    by_cases hn : n ≤ depth
    · obtain ⟨y, hy, hplain, -⟩ := h.reads hvs (hus.closes hrest) hn fuel
      rw [hy] at hok
      cases hok
      have hpiece := isPiece_of_plain hplain
      have hlevel := (hus.infixLevel_lt hzero).1
      refine ⟨⟨⟨ws, k, rfl, hus, by rw [hpiece.nests, Nat.zero_add]⟩, by simp, hpiece.bracketed, hpiece.whole, ?_⟩,
        hpiece.leftLevel⟩
      rw [hpiece.rightLevel]
      omega
    · obtain ⟨fault, hfault⟩ := h.fails hvs (hus.closes hrest) (Nat.lt_of_not_le hn) fuel
      rw [hfault] at hok
      cases hok
  | @nested _ _ k₁ k₂ h hus =>
    obtain ⟨opening, ls', rfl, hinside⟩ := cons_of_tokens hts
    obtain ⟨vs, ws, rfl, rfl, hws⟩ := List.map_eq_append_iff.1 hinside
    obtain ⟨closing, ws', rfl, rfl⟩ := cons_of_tokens hws
    have hlist : (⟨.sign "(", opening⟩ :: (vs ++ ⟨.sign ")", closing⟩ :: ws')) ++ rest =
        ⟨.sign "(", opening⟩ :: (vs ++ ⟨.sign ")", closing⟩ :: (ws' ++ rest)) := by simp
    have hq : comesQuery (vs ++ ⟨.sign ")", closing⟩ :: (ws' ++ rest)) =
        .ok (false, vs ++ ⟨.sign ")", closing⟩ :: (ws' ++ rest)) := by
      refine comesQuery_opens ?_
      rw [List.map_append]
      exact h.opens.append (by simp)
    have hcloses : Closes dialect (⟨.sign ")", closing⟩ :: (ws' ++ rest)) := closes_cons (.sign (by decide))
    rw [hlist, operandAt_opening] at hok
    cases hinner : (grammar dialect depth).expr 0 (vs ++ ⟨.sign ")", closing⟩ :: (ws' ++ rest)) with
    | error fault =>
      rw [run_bind_error (parenExpr_error hq hinner)] at hok
      cases hok
    | ok found =>
      obtain ⟨y, mid⟩ := found
      obtain ⟨⟨⟨left, m, rfl, hleft, hk⟩, -, hb, hw, -⟩, -, hstop⟩ :=
        hg (by decide) h hcloses (by rfl) hinner
      -- no operator is left in front of the closing parenthesis
      obtain ⟨rfl, rfl⟩ := (hleft.infixLevel_lt rfl).2 (Nat.le_zero.1 hstop)
      rw [run_bind_ok (parenExpr_nested hq hinner (hus.closes hrest)),
        collated_none (hus.closes hrest).noCollation] at hok
      cases hok
      have hlevel := (hus.infixLevel_lt hzero).1
      refine ⟨⟨⟨ws', k₂, rfl, hus, ?_⟩, by simp; omega, hb, hw, Nat.le_of_lt hlevel⟩, rfl⟩
      simp only [Expr.nests]
      omega
  | @signed op _ _ hop h =>
    obtain ⟨sp, ls', rfl, rfl⟩ := cons_of_tokens hts
    rw [List.cons_append, operandAt_signed hop] at hok
    obtain ⟨y, mid, hy, hok⟩ := bind_eq_ok hok
    obtain ⟨⟨⟨left, m, rfl, hleft, hk⟩, hshort, hb, hw, hright⟩, hlevel, hstop⟩ := hg (by decide) h hrest hzero hy
    rw [collated_none (hleft.closes hrest).noCollation] at hok
    cases hok
    refine ⟨⟨⟨left, m, rfl, hleft, hk⟩, ?_, ⟨hb, hlevel⟩, hw, Nat.le_min.2 ⟨hstop, hright⟩⟩, rfl⟩
    rw [List.cons_append, List.length_cons]
    omega

/-- The word `AND` is an operator of its level. -/
theorem infixLevel_of_expectWord {ts r : List Lexeme} (hok : expectWord "AND" ts = .ok ((), r)) :
    infixLevel ts = BinaryOp.and.level ∧ ∃ l, ts = l :: r := by
  cases ts with
  | nil => cases hok
  | cons l ts =>
    unfold expectWord at hok
    rw [run_bind, acceptWord_cons] at hok
    by_cases hl : l.token.keyword? = some "AND"
    · rw [if_pos (by simp [hl])] at hok
      cases hok
      obtain ⟨t, sp⟩ := l
      cases t with
      | word text quote =>
        cases quote with
        | none =>
          have hl' : (Token.word text none).keyword? = some "AND" := hl
          refine ⟨?_, _, rfl⟩
          unfold infixLevel
          simp only [hl']
          rfl
        | some q => cases hl
      | _ => cases hl
    · rw [if_neg (by simpa using hl)] at hok
      cases hok

theorem BinaryOp.eq_and {op : BinaryOp} (h : op.level = BinaryOp.and.level) (hop : op.spoken dialect = true) : op = .and := by
  cases op with
  | named parts => cases hop
  | and => rfl
  | _ => exact absurd h (by decide)

/-- Behind the word `AND` an operand is due. -/
theorem Done.of_and (h : Done dialect (ls.map Lexeme.token) k) (hzero : infixLevel rest = 0)
    (hok : expectWord "AND" (ls ++ rest) = .ok ((), r)) :
    ∃ ls', r = ls' ++ rest ∧ Due dialect (ls'.map Lexeme.token) k := by
  obtain ⟨hlevel, l, hl⟩ := infixLevel_of_expectWord hok
  generalize hts : ls.map Lexeme.token = ts at h
  cases h with
  | nil =>
    obtain rfl := List.map_eq_nil_iff.1 hts
    rw [List.nil_append, hzero] at hlevel
    cases hlevel
  | op hop h =>
    obtain ⟨sp, ls', rfl, rfl⟩ := cons_of_tokens hts
    rw [List.cons_append, infixLevel_op hop] at hlevel
    obtain rfl := BinaryOp.eq_and hlevel hop
    cases hl
    exact ⟨ls', rfl, h⟩
  | is property _ =>
    obtain ⟨us, vs, rfl, hus, -⟩ := List.map_eq_append_iff.1 hts
    rw [List.append_assoc, infixLevel_is hus] at hlevel
    exact absurd hlevel (by decide)
  | between negated _ =>
    obtain ⟨us, vs, rfl, hus, -⟩ := List.map_eq_append_iff.1 hts
    rw [List.append_assoc, infixLevel_between hus] at hlevel
    exact absurd hlevel (by decide)

/-- The tree that one operator makes of the tree on its left side, and what it leaves. -/
theorem infixExpr_done (hg : Sound dialect (grammar dialect depth).expr) {left : Expr} {input r₀ : List Lexeme}
    (h : Taken dialect k input rest left r₀) (hrest : Closes dialect rest) (hzero : infixLevel rest = 0)
    (hlevel : level < left.leftLevel) (hnext : level < infixLevel r₀)
    (hok : infixExpr (grammar dialect depth) left (infixLevel r₀) r₀ = .ok (x, r)) :
    Taken dialect k input rest x r ∧ level < x.leftLevel ∧ r.length < r₀.length := by
  obtain ⟨⟨ls, m, rfl, hdone, hk⟩, hshort, hb, hw, hright⟩ := h
  have hlt := (hdone.infixLevel_lt hzero).1
  generalize hts : ls.map Lexeme.token = ts at hdone
  cases hdone with
  | nil =>
    obtain rfl := List.map_eq_nil_iff.1 hts
    rw [List.nil_append] at hnext
    omega
  | @op op _ _ hop h =>
    obtain ⟨sp, ls', rfl, rfl⟩ := cons_of_tokens hts
    rw [List.cons_append, infixLevel_op hop] at hlt hnext hright hok
    rw [infixExpr_opens (by rwa [grammar_dialect]) h.opens] at hok
    obtain ⟨y, mid, hy, hok⟩ := bind_eq_ok hok
    cases hok
    obtain ⟨⟨⟨ls'', m', rfl, hdone', hk'⟩, hshort', hb', hw', hright'⟩, hlevel', hstop⟩ := hg hlt h hrest hzero hy
    simp only [List.length_cons, List.length_append] at hshort hshort' ⊢
    refine ⟨⟨⟨ls'', m', rfl, hdone', ?_⟩, ?_, ⟨hb, hb', hright, hlevel'⟩, ⟨hw, hw'⟩, Nat.le_min.2 ⟨hstop, hright'⟩⟩,
      Nat.lt_min.2 ⟨hnext, hlevel⟩, by omega⟩
    · rw [hk, hk', Expr.nests, Nat.add_assoc]
    · simp only [List.length_append]
      omega
  | is property h =>
    obtain ⟨us, vs, rfl, hus, rfl⟩ := List.map_eq_append_iff.1 hts
    have hlength : 0 < us.length := by
      obtain ⟨sp, us', rfl, -⟩ := cons_of_tokens hus
      exact Nat.succ_pos _
    rw [List.append_assoc, infixLevel_is hus] at hnext hright hok
    rw [infixExpr_is hus] at hok
    cases hok
    have hafter := (h.infixLevel_lt hzero).1
    simp only [List.length_append] at hshort ⊢
    exact ⟨⟨⟨vs, m, rfl, h, hk⟩, by simp only [List.length_append]; omega, ⟨hb, hright⟩, hw, Nat.le_of_lt hafter⟩,
      Nat.lt_min.2 ⟨hnext, hlevel⟩, by omega⟩
  | between negated h =>
    obtain ⟨us, vs, rfl, hus, rfl⟩ := List.map_eq_append_iff.1 hts
    rw [List.append_assoc, infixLevel_between hus] at hlt hnext hright hok
    rw [infixExpr_between hus] at hok
    unfold betweenExpr at hok
    obtain ⟨low, mid, hlow, hok⟩ := bind_eq_ok hok
    obtain ⟨⟨⟨lows, m₁, rfl, hdone₁, hk₁⟩, hshort₁, hb₁, hw₁, hright₁⟩, hlevel₁, -⟩ := hg hlt h hrest hzero hlow
    obtain ⟨⟨⟩, mid, hand, hok⟩ := bind_eq_ok hok
    obtain ⟨hlevelAnd, l, hl⟩ := infixLevel_of_expectWord hand
    obtain ⟨highs, rfl, hdue⟩ := hdone₁.of_and hzero hand
    obtain ⟨high, mid, hhigh, hok⟩ := bind_eq_ok hok
    cases hok
    obtain ⟨⟨⟨left', m₂, rfl, hdone₂, hk₂⟩, hshort₂, hb₂, hw₂, hright₂⟩, hlevel₂, hstop₂⟩ :=
      hg hlt hdue hrest hzero hhigh
    have hlength := congrArg List.length hl
    simp only [List.length_append, List.length_cons] at hshort hshort₁ hshort₂ hlength ⊢
    refine ⟨⟨⟨left', m₂, rfl, hdone₂, ?_⟩, ?_, ⟨hb, hb₁, hb₂, hright, hlevel₁, hlevelAnd ▸ hright₁, hlevel₂⟩,
      ⟨hw, hw₁, hw₂⟩, Nat.le_min.2 ⟨hstop₂, hright₂⟩⟩, Nat.lt_min.2 ⟨hnext, hlevel⟩, by omega⟩
    · rw [hk, hk₁, hk₂, Expr.nests, Nat.add_assoc, Nat.add_assoc]
    · simp only [List.length_append]
      omega

/-- The operators that a loop takes, one after the other. -/
theorem infixLoop_sound (hg : Sound dialect (grammar dialect depth).expr) {left : Expr} {input r₀ : List Lexeme}
    (h : Taken dialect k input rest left r₀) (hrest : Closes dialect rest) (hzero : infixLevel rest = 0)
    (hlevel : level < left.leftLevel) (hfuel : r₀.length ≤ fuel)
    (hok : infixLoop (grammar dialect depth) level fuel left r₀ = .ok (x, r)) :
    Taken dialect k input rest x r ∧ level < x.leftLevel ∧ infixLevel r ≤ level := by
  induction fuel generalizing left r₀ with
  | zero =>
    obtain rfl := List.eq_nil_of_length_eq_zero (Nat.le_zero.1 hfuel)
    cases hok
    exact ⟨h, hlevel, Nat.zero_le _⟩
  | succ fuel ih =>
    by_cases hstop : infixLevel r₀ ≤ level
    · rw [infixLoop_stop hstop] at hok
      cases hok
      exact ⟨h, hlevel, hstop⟩
    · have hnext := Nat.lt_of_not_le hstop
      cases hone : infixExpr (grammar dialect depth) left (infixLevel r₀) r₀ with
      | error fault =>
        rw [infixLoop_error rfl hnext hone] at hok
        cases hok
      | ok found =>
        obtain ⟨y, mid⟩ := found
        rw [infixLoop_step rfl hnext hone] at hok
        obtain ⟨hy, hlevel', hshort⟩ := infixExpr_done hg h hrest hzero hlevel hnext hone
        exact ih hy hlevel' (by omega) hok

/-- **What is read from terms and operators is bracketed**, and holds as many parentheses as the tokens that it is read
from. -/
theorem grammar_sound (dialect : Dialect) (depth : Nat) : Sound dialect (grammar dialect depth).expr := by
  induction depth with
  | zero =>
    intro level k ls rest x r _ _ _ _ hok
    cases hok
  | succ depth ih =>
    intro level k ls rest x r hlevel hdue hrest hzero hok
    have hok : exprAbove (grammar dialect depth) level (ls ++ rest) = .ok (x, r) := hok
    unfold exprAbove at hok
    rw [run_bind_ok (a := (ls ++ rest).length) (r := ls ++ rest) rfl] at hok
    obtain ⟨left, mid, hleft, hok⟩ := bind_eq_ok hok
    rw [run_bind_ok (a := mid.length) (r := mid) rfl] at hok
    obtain ⟨htaken, hfirst⟩ := operandAt_due ih hdue hrest hzero hleft
    exact infixLoop_sound ih htaken hrest hzero (hfirst ▸ hlevel) (Nat.le_refl _) hok

/-! ## Trees without places -/

/-- The kinds of trees that operators and parentheses make. -/
def composedKinds : List String :=
  ["Nested", "UnaryOp", "BinaryOp", "Between", "IsNull", "IsNotNull", "IsTrue", "IsNotTrue", "IsFalse", "IsNotFalse",
    "IsUnknown", "IsNotUnknown"]

/-- The tree of a term is of another kind. -/
theorem exprTree_apart (h : isComposed x = false) : ∃ kind v, exprTree x = node kind v ∧ kind ∉ composedKinds := by
  cases x with
  | nested | unary | binary | is | between | phrase => cases h
  | compare _ _ among _ => cases among <;> exact ⟨_, _, rfl, by decide⟩
  | isDistinct _ _ negated => cases negated <;> exact ⟨_, _, rfl, by decide⟩
  | like kind => cases kind <;> exact ⟨_, _, rfl, by decide⟩
  | _ => exact ⟨_, _, rfl, by decide⟩

theorem node_inj {kind kind' : String} {v v' : Value} (h : node kind v = node kind' v') : kind = kind' ∧ v = v' := by
  simpa [node] using h

/-- The operators that are called by no name. -/
def plainOps : List BinaryOp :=
  [.plus, .minus, .multiply, .divide, .wholeDivide, .modulo, .concat, .eq, .notEq, .lt, .ltEq, .gt, .gtEq, .spaceship,
    .and, .or, .xor, .bitAnd, .bitOr, .bitXor, .shiftLeft, .shiftRight, .matches, .matchesAnyCase, .differs,
    .differsAnyCase, .resembles, .resemblesAnyCase, .unlike, .unlikeAnyCase, .startsWith, .overlaps, .arrow, .longArrow,
    .hashArrow, .hashLongArrow, .atArrow, .arrowAt, .hashMinus, .atQuestion, .atAt]

/-- The name of the kind of an operator; empty for one that is called by a name of its own. -/
def opName (op : BinaryOp) : String :=
  match binaryOpValue op with
  | .string name => name
  | _ => ""

theorem plain_or_named (op : BinaryOp) : op ∈ plainOps ∨ ∃ parts, op = .named parts := by
  cases op with
  | named parts => exact .inr ⟨parts, rfl⟩
  | _ => exact .inl (by decide)

theorem binaryOpValue_inj {op op' : BinaryOp} (h : binaryOpValue op = binaryOpValue op') : op = op' := by
  have hname : opName op = opName op' := by simp only [opName, h]
  obtain ⟨hempty, hnodup⟩ := List.nodup_cons.1 (show ("" :: plainOps.map opName).Nodup by decide +kernel)
  rcases plain_or_named op with hop | ⟨parts, rfl⟩ <;> rcases plain_or_named op' with hop' | ⟨parts', rfl⟩
  · exact List.inj_on_of_nodup_map hnodup hop hop' hname
  · exact absurd (List.mem_map.2 ⟨op, hop, hname⟩) hempty
  · exact absurd (List.mem_map.2 ⟨op', hop', hname.symm⟩) hempty
  · have hparts : parts.map Value.string = parts'.map Value.string := by simpa [binaryOpValue, node] using h
    rw [List.map_injective_iff.2 (fun _ _ h => Value.string.inj h) hparts]

/-- What two trees of operators have in common if they differ in places only. -/
structure Alike (x y : Expr) : Prop where
  bracketed : x.Bracketed ↔ y.Bracketed
  leftLevel : x.leftLevel = y.leftLevel
  rightLevel : x.rightLevel = y.rightLevel
  nests : x.nests = y.nests
  namesFrom : x.namesFrom = y.namesFrom

variable {y : Expr}

theorem alike_of_plain (hx : isComposed x = false) (hy : isComposed y = false) (hfrom : x.namesFrom = y.namesFrom) :
    Alike x y := by
  have hx := isPiece_of_plain hx
  have hy := isPiece_of_plain hy
  exact ⟨iff_of_true hx.bracketed hy.bracketed, hx.leftLevel.trans hy.leftLevel.symm,
    hx.rightLevel.trans hy.rightLevel.symm, hx.nests.trans hy.nests.symm, hfrom⟩

/-- The kind of the tree of an expression that is made by an operator or parentheses. -/
def kindOf : Expr → String
  | .nested _ => "Nested"
  | .unary _ _ => "UnaryOp"
  | .binary _ _ _ => "BinaryOp"
  | .is _ property => propertyName property
  | .between _ _ _ _ => "Between"
  | _ => ""

theorem kindOf_plain (h : isComposed x = false) : kindOf x = "" := by
  cases x with
  | nested | unary | binary | is | between => cases h
  | _ => rfl

theorem exprTree_composed (h : x.Whole) (hc : isComposed x = true) :
    kindOf x ∈ composedKinds ∧ ∃ v, exprTree x = node (kindOf x) v := by
  cases x with
  | nested a => exact ⟨by simp [kindOf, composedKinds], _, exprTree_nested a⟩
  | unary op a => exact ⟨by simp [kindOf, composedKinds], _, exprTree_unary op a⟩
  | binary a op b => exact ⟨by simp [kindOf, composedKinds], _, exprTree_binary a b op⟩
  | is a property => exact ⟨by cases property <;> simp [kindOf, propertyName, composedKinds], _, exprTree_is a property⟩
  | between a b c negated => exact ⟨by simp [kindOf, composedKinds], _, exprTree_between a b c negated⟩
  | phrase => exact h.elim
  | _ => cases hc

/-- The tree tells which operator stands at its top. -/
theorem kindOf_eq (hx : x.Whole) (hy : y.Whole) (h : exprTree x = exprTree y) : kindOf x = kindOf y := by
  cases hcx : isComposed x with
  | true =>
    obtain ⟨hmem, v, hv⟩ := exprTree_composed hx hcx
    cases hcy : isComposed y with
    | true =>
      obtain ⟨-, w, hw⟩ := exprTree_composed hy hcy
      exact (node_inj (hv.symm.trans (h.trans hw))).1
    | false =>
      obtain ⟨kind, w, hw, hkind⟩ := exprTree_apart hcy
      exact absurd ((node_inj (hv.symm.trans (h.trans hw))).1 ▸ hmem) hkind
  | false =>
    cases hcy : isComposed y with
    | true =>
      obtain ⟨hmem, v, hv⟩ := exprTree_composed hy hcy
      obtain ⟨kind, w, hw, hkind⟩ := exprTree_apart hcx
      exact absurd ((node_inj (hv.symm.trans (h.symm.trans hw))).1 ▸ hmem) hkind
    | false => rw [kindOf_plain hcx, kindOf_plain hcy]

theorem plain_of_kindOf (hy : y.Whole) (h : kindOf y = "") : isComposed y = false := by
  cases y with
  | nested | unary | binary | between => simp [kindOf] at h
  | is a property => cases property <;> simp [kindOf, propertyName] at h
  | phrase => exact hy.elim
  | _ => rfl

/-- The tree of a name tells its text. -/
theorem namesFrom_of_tree (hy : y.Whole) (h : exprTree x = exprTree y) (hfrom : x.namesFrom = true) :
    y.namesFrom = true := by
  cases x with
  | ident i =>
    have hplain := plain_of_kindOf hy (kindOf_eq (x := .ident i) trivial hy h).symm
    obtain ⟨text, quote, sp⟩ := i
    cases quote with
    | some q => cases hfrom
    | none =>
      cases y with
      | ident j =>
        obtain ⟨text', quote', sp'⟩ := j
        rw [exprTree_ident, exprTree_ident] at h
        have hparts : none = quote' ∧ text = text' := by
          have htree := (node_inj h).2
          cases quote' <;> simp_all [-String.lt_iff_ltb, identTree, Value.ofMembers, insertMember, Value.optString]
        obtain ⟨rfl, rfl⟩ := hparts
        exact hfrom
      | nested | unary | binary | is | between | phrase => cases hplain
      | compare _ _ among _ => cases among <;> exact absurd (node_inj h).1 (by decide)
      | isDistinct _ _ negated => cases negated <;> exact absurd (node_inj h).1 (by decide)
      | like kind => cases kind <;> exact absurd (node_inj h).1 (by decide)
      | _ => exact absurd (node_inj h).1 (by decide)
  | _ => cases hfrom

/-- **Trees that differ in places only are alike.** -/
theorem alike_of_exprTree_eq {x y : Expr} (hx : x.Whole) (hy : y.Whole) (h : exprTree x = exprTree y) : Alike x y := by
  have hkind := kindOf_eq hx hy h
  cases x with
  | nested a =>
    cases y with
    | nested b =>
      rw [exprTree_nested, exprTree_nested] at h
      obtain ⟨hb, -, -, hn, -⟩ := alike_of_exprTree_eq (x := a) (y := b) hx hy (node_inj h).2
      exact ⟨hb, rfl, rfl, congrArg (· + 1) hn, rfl⟩
    | is b property => cases property <;> simp [kindOf, propertyName] at hkind
    | _ => simp [kindOf] at hkind
  | unary op a =>
    cases y with
    | unary op' b =>
      rw [exprTree_unary, exprTree_unary] at h
      have hparts : exprTree a = exprTree b ∧ unaryOpName op = unaryOpName op' := by
        simpa [-String.lt_iff_ltb, nodeOf, node, Value.ofMembers, insertMember] using h
      obtain ⟨hb, hl, hr, hn, -⟩ := alike_of_exprTree_eq (x := a) (y := b) hx hy hparts.1
      exact ⟨and_congr hb (by rw [hl]), rfl, congrArg (min multiplyLevel) hr, hn, rfl⟩
    | is b property => cases property <;> simp [kindOf, propertyName] at hkind
    | _ => simp [kindOf] at hkind
  | binary a op b =>
    cases y with
    | binary c op' d =>
      rw [exprTree_binary, exprTree_binary, overwrite_binaryOpValue (by simp [Value.spans]),
        overwrite_binaryOpValue (by simp [Value.spans])] at h
      obtain ⟨hleft, hop, hright⟩ : exprTree a = exprTree c ∧ binaryOpValue op = binaryOpValue op' ∧
          exprTree b = exprTree d := by
        simpa [-String.lt_iff_ltb, nodeOf, node, Value.ofMembers, insertMember] using h
      obtain rfl := binaryOpValue_inj hop
      obtain ⟨hb, hl, hr, hn, -⟩ := alike_of_exprTree_eq hx.1 hy.1 hleft
      obtain ⟨hb', hl', hr', hn', -⟩ := alike_of_exprTree_eq hx.2 hy.2 hright
      exact ⟨and_congr hb (and_congr hb' (by rw [hr, hl'])), congrArg (min op.level) hl, congrArg (min op.level) hr',
        congrArg₂ (· + ·) hn hn', rfl⟩
    | is b property => cases property <;> simp [kindOf, propertyName] at hkind
    | _ => simp [kindOf] at hkind
  | is a property =>
    cases y with
    | is b property' =>
      rw [exprTree_is, exprTree_is] at h
      obtain ⟨hb, hl, hr, hn, -⟩ := alike_of_exprTree_eq (x := a) (y := b) hx hy (node_inj h).2
      exact ⟨and_congr hb (by rw [hr]), congrArg (min isLevel) hl, rfl, hn, rfl⟩
    | _ => cases property <;> simp [kindOf, propertyName] at hkind
  | between a b c negated =>
    cases y with
    | between a' b' c' negated' =>
      rw [exprTree_between, exprTree_between] at h
      obtain ⟨hoperand, -, hlow, hhigh⟩ : exprTree a = exprTree a' ∧ negated = negated' ∧ exprTree b = exprTree b' ∧
          exprTree c = exprTree c' := by
        have := h
        simp [-String.lt_iff_ltb, nodeOf, node, Value.ofMembers, insertMember] at this
        exact ⟨this.1, this.2.2.2, this.2.2.1, this.2.1⟩
      obtain ⟨hb₁, hl₁, hr₁, hn₁, -⟩ := alike_of_exprTree_eq hx.1 hy.1 hoperand
      obtain ⟨hb₂, hl₂, hr₂, hn₂, -⟩ := alike_of_exprTree_eq hx.2.1 hy.2.1 hlow
      obtain ⟨hb₃, hl₃, hr₃, hn₃, -⟩ := alike_of_exprTree_eq hx.2.2 hy.2.2 hhigh
      refine ⟨?_, congrArg (min comparisonLevel) hl₁, congrArg (min comparisonLevel) hr₃,
        congrArg₂ (· + ·) (congrArg₂ (· + ·) hn₁ hn₂) hn₃, rfl⟩
      exact and_congr hb₁ (and_congr hb₂ (and_congr hb₃ (by rw [hr₁, hl₂, hr₂, hl₃])))
    | is b property => cases property <;> simp [kindOf, propertyName] at hkind
    | _ => simp [kindOf] at hkind
  | phrase => exact hx.elim
  | _ =>
    exact alike_of_plain rfl (plain_of_kindOf hy hkind.symm)
      (Bool.eq_iff_iff.2 ⟨namesFrom_of_tree hy h, namesFrom_of_tree hx h.symm⟩)

end SqlTemplate.Sql.Parser
