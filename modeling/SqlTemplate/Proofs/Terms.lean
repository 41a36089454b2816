import SqlTemplate.Proofs.FilterTrees
import SqlTemplate.Proofs.Operators

/-!
# Terms

A term is an expression that is read from its own text, whatever operator or closing sign comes behind it. How deep
it nests is told by the number of levels that have to be left for it: with fewer of them, nothing is read.

* `Closes`: what can come behind an operand.
* `Term`: the expressions that are read from their own tokens.
* `term_name`, `term_number`, `term_text`: names, numbers and texts.
-/

namespace SqlTemplate.Sql.Parser

open Service.Tree

/-- The tokens that can come behind an operand. -/
inductive Closer (dialect : Dialect) : Token → Prop
  | op {op : BinaryOp} (h : op.spoken dialect = true) : Closer dialect op.token
  | word {w : String} (h : w ∈ ["IS", "BETWEEN", "NOT", "FROM", "WHERE"]) : Closer dialect (.word w none)
  | sign {s : String} (h : s ∈ [")", ","]) : Closer dialect (.sign s)

/-- What can come behind an operand. -/
def Closes (dialect : Dialect) (rest : List Lexeme) : Prop := ∀ l ∈ rest.head?, Closer dialect l.token

variable {dialect : Dialect} {g : Grammar} {rest : List Lexeme}

theorem closes_nil : Closes dialect [] := by simp [Closes]

theorem closes_cons {l : Lexeme} (h : Closer dialect l.token) : Closes dialect (l :: rest) := by
  simpa [Closes] using h

/-- The signs that take an operand further. -/
def openingSigns : List String := ["(", ".", "["]

/-- What comes behind an operand takes it no further. -/
theorem Closer.apart {t : Token} (h : Closer dialect t) :
    (∀ s ∈ openingSigns, t ≠ .sign s) ∧ t.keyword? ≠ some "COLLATE" ∧ ∀ kind text, t ≠ .string kind text := by
  cases h with
  | op hop =>
    rename_i op
    cases op with
    | named parts => cases hop
    | _ => exact ⟨by decide, by decide +kernel, fun _ _ h => by cases h⟩
  | word hw =>
    simp only [List.mem_cons, List.not_mem_nil, or_false] at hw
    rcases hw with rfl | rfl | rfl | rfl | rfl <;> exact ⟨by decide, by decide +kernel, fun _ _ h => by cases h⟩
  | sign hs =>
    simp only [List.mem_cons, List.not_mem_nil, or_false] at hs
    rcases hs with rfl | rfl <;> exact ⟨by decide, by decide +kernel, fun _ _ h => by cases h⟩

theorem Closes.notSign (h : Closes dialect rest) {s : String} (hs : s ∈ openingSigns) : isSign s rest.head? = false := by
  cases rest with
  | nil => rfl
  | cons l rest =>
    have hne := (h l rfl).apart.1 s hs
    simpa [isSign] using hne

theorem Closes.acceptSign (h : Closes dialect rest) {s : String} (hs : s ∈ openingSigns) :
    acceptSign s rest = .ok (false, rest) := by
  cases rest with
  | nil => rfl
  | cons l rest =>
    rw [acceptSign_cons, if_neg]
    simpa using (h l rfl).apart.1 s hs

theorem Closes.noCollation (h : Closes dialect rest) : isWord "COLLATE" rest.head? = false := by
  cases rest with
  | nil => rfl
  | cons l rest =>
    have hne := (h l rfl).apart.2.1
    simpa [isWord] using hne

theorem Closes.notIntroducible (h : Closes dialect rest) : isIntroducible rest.head? = false := by
  cases rest with
  | nil => rfl
  | cons l rest =>
    obtain ⟨t, sp⟩ := l
    have hne := (h _ rfl).apart.2.2
    cases t with
    | string kind text => exact absurd rfl (hne kind text)
    | _ => rfl

/-! ## Expressions that are read from their own tokens -/

/-- Whether an expression is made of others by operators or parentheses, or is written by a phrase of its own. -/
def isComposed : Expr → Bool
  | .nested _ | .unary _ _ | .binary _ _ _ | .is _ _ | .between _ _ _ _ | .phrase _ => true
  | _ => false

/-- The words that mean something else in front of an expression. -/
def leadingWords : List String := ["ANY", "ALL", "SOME", "SELECT", "WITH", "DISTINCT", "TOP"]

/-- Whether a token can start an expression everywhere. -/
def opensExpr (t : Token) : Prop := (∀ w ∈ leadingWords, t.keyword? ≠ some w) ∧ t ≠ .sign "*" ∧ t ≠ .sign "."

/-- What the tokens of an expression start with. -/
structure Opens (tokens : List Token) : Prop where
  head : ∃ t, tokens.head? = some t ∧ opensExpr t
  noPoint : tokens.tail.head? ≠ some (.sign ".")

/-- A term and its tokens, and how many levels have to be left to read it. -/
structure Term (dialect : Dialect) (e : Expr) (tokens : List Token) (need : Nat) : Prop where
  plain : isComposed e = false
  opens : Opens tokens
  /-- No sign in front of the text runs together with it. -/
  starts : ∃ c, e.toSql.toList.head? = some c ∧ c ∉ ['-', '>']
  spells : ∀ {cs ts}, endsOperand cs = true → Spells dialect cs ts → Spells dialect (e.toSql.toList ++ cs) (tokens ++ ts)
  reads : ∀ {ls rest depth}, ls.map Lexeme.token = tokens → Closes dialect rest → need ≤ depth → ∀ fuel,
    ∃ x, operandAt (grammar dialect depth) (fuel + 1) (ls ++ rest) = .ok (x, rest) ∧ isComposed x = false ∧
      exprTree x = exprTree e
  fails : ∀ {ls rest depth}, ls.map Lexeme.token = tokens → Closes dialect rest → depth < need → ∀ fuel,
    ∃ fault, operandAt (grammar dialect depth) (fuel + 1) (ls ++ rest) = .error fault

/-! ## Names -/

/-- The words that start a type built from others. -/
def compositeWords : List String := ["MAP", "TUPLE", "NESTED", "ARRAY", "STRUCT", "UNION"]

/-- The words that start a special form. -/
def formWords : List String :=
  ["TRUE", "FALSE", "NULL", "CURRENT_CATALOG", "CURRENT_USER", "SESSION_USER", "USER", "CURRENT_TIMESTAMP",
    "CURRENT_TIME", "CURRENT_DATE", "LOCALTIME", "LOCALTIMESTAMP", "CASE", "CONVERT", "TRY_CONVERT", "CAST", "TRY_CAST",
    "SAFE_CAST", "EXISTS", "EXTRACT", "CEIL", "FLOOR", "POSITION", "SUBSTRING", "OVERLAY", "TRIM", "INTERVAL", "ARRAY",
    "NOT", "MATCH", "STRUCT", "PRIOR", "MAP"]

/-- Whether a word in front of an operator is a name: it starts no type and no special form. -/
def isOrdinary (dialect : Dialect) (word : String) : Bool :=
  (simpleType dialect word).isNone && (wrapperTypes.lookup word).isNone && !compositeWords.contains word &&
    !formWords.contains word && !leadingWords.contains word

variable {text : String} {quote : Option Char}

theorem compositeType_ordinary {word : String} (hw : isOrdinary dialect word = true) (start : Option Lexeme)
    (inner : Parser BracketedType) : compositeType g start inner word = none := by
  simp only [isOrdinary, Bool.and_eq_true, Option.isNone_iff_eq_none, Bool.not_eq_true', List.contains_eq_mem,
    decide_eq_false_iff_not] at hw
  obtain ⟨⟨⟨⟨-, hwrapper⟩, hcomposite⟩, -⟩, -⟩ := hw
  unfold compositeType
  rw [hwrapper]
  dsimp only
  split
  · rename_i h; cases h
  all_goals first | rfl | exact absurd (by decide) hcomposite

theorem specialForm_ordinary {word : String} (hw : isOrdinary dialect word = true) (operand : Parser Expr) (first : Ident)
    (start following : Option Lexeme) : specialForm g operand word first start following = none := by
  simp only [isOrdinary, Bool.and_eq_true, Bool.not_eq_true', List.contains_eq_mem, decide_eq_false_iff_not] at hw
  obtain ⟨⟨-, hform⟩, -⟩ := hw
  unfold specialForm
  split
  all_goals first | rfl | exact absurd (by decide) hform

theorem customType_closes (h : Closes dialect rest) (text : String) (quote : Option Char) (sp : Text.Span) :
    ∃ w, customType (⟨.word text quote, sp⟩ :: rest) = .ok (w, rest) ∧ isCustomType w.phrase = true ∧
      isIntervalType w.phrase = false := by
  have hnames : ∀ fuel, repeatWhile (acceptSign ".") ident fuel rest = .ok ([], rest) := by
    intro fuel
    cases fuel with
    | zero => rfl
    | succ fuel =>
      rw [repeatWhile, run_bind_ok (h.acceptSign (by decide))]
      rfl
  have hname : name (⟨.word text quote, sp⟩ :: rest) = .ok ([⟨text, quote, some sp⟩], rest) := by
    unfold name
    rw [run_bind_ok (a := ⟨text, quote, some sp⟩) (r := rest) rfl, run_bind_ok (a := rest.length) (r := rest) rfl,
      run_bind_ok (hnames _)]
    rfl
  unfold customType
  rw [run_bind_ok hname, run_bind_ok (h.acceptSign (by decide))]
  exact ⟨_, rfl, rfl, rfl⟩

theorem listBrackets_closes (h : Closes dialect rest) (fuel : Nat) (element : DataType) :
    listBrackets g.dialect fuel element rest = .ok (element, rest) := by
  cases fuel with
  | zero => rfl
  | succ fuel =>
    rw [listBrackets, run_bind_ok (h.acceptSign (by decide))]
    rfl

/-- A name starts no typed literal where an operator or a closing sign comes. -/
theorem typedLiteral_ordinary (operand : Parser Expr) (hw : isOrdinary g.dialect (keywordOf text quote) = true)
    (sp : Text.Span) (h : Closes dialect rest) : Refused (typedLiteral g operand) (⟨.word text quote, sp⟩ :: rest) := by
  have hsimple : simpleType g.dialect (keywordOf text quote) = none := by
    simp only [isOrdinary, Bool.and_eq_true, Option.isNone_iff_eq_none] at hw
    exact hw.1.1.1.1
  obtain ⟨w, hcustom, hc, hinterval⟩ := customType_closes h text quote sp
  have htype : dataTypeAt g (rest.length + 1 + 1) (⟨.word text quote, sp⟩ :: rest) = .ok ((w.phrase, false), rest) := by
    rw [dataTypeAt_word, compositeType_ordinary hw, hsimple]
    dsimp only
    unfold bracketed
    rw [run_bind, run_bind_ok hcustom]
    dsimp only [run_pure]
    rw [run_bind_ok (a := rest.length) (r := rest) rfl, run_bind_ok (listBrackets_closes h _ _)]
    rfl
  refine .bind_ok (dataType_ok htype) ?_
  rw [if_neg (by simp [hinterval]), if_pos hc]
  exact ⟨_, _, rfl⟩

/-- A name is an operand where an operator or a closing sign comes. -/
theorem operandAt_ordinary (hw : isOrdinary g.dialect (keywordOf text quote) = true) (fuel : Nat) (sp : Text.Span)
    (h : Closes dialect rest) :
    operandAt g (fuel + 1) (⟨.word text quote, sp⟩ :: rest) = .ok (.ident ⟨text, quote, some sp⟩, rest) := by
  have hplain : plainWord g (operandAt g fuel) ⟨text, quote, some sp⟩ rest = .ok (.ident ⟨text, quote, some sp⟩, rest) := by
    unfold plainWord
    rw [run_bind_ok (a := rest.head?) (r := rest) rfl,
      if_neg (by simp [h.notSign (s := "(") (by decide), h.notSign (s := ".") (by decide)]),
      if_neg (by simp [h.notIntroducible])]
    rfl
  have hform : ∀ word, (Token.word text quote).keyword? = some word →
      specialForm g (operandAt g fuel) word ⟨text, quote, some sp⟩ (some ⟨.word text quote, sp⟩) rest.head? = none := by
    intro word hword
    rw [keywordOf, hword] at hw
    exact specialForm_ordinary hw _ _ _ _
  obtain ⟨b, hb⟩ := wordExpr_plain (l := ⟨.word text quote, sp⟩) hplain fun word hword => .inl (hform word hword)
  exact operandAt_word_ok (typedLiteral_ordinary _ hw sp h) hb h.noCollation

theorem opens_word (hw : isOrdinary dialect (keywordOf text none) = true) : Opens [.word text none] := by
  refine ⟨⟨_, rfl, fun w hlead hword => ?_, fun h => (nomatch h), fun h => nomatch h⟩, by simp⟩
  simp only [isOrdinary, Bool.and_eq_true, Bool.not_eq_true', List.contains_eq_mem, decide_eq_false_iff_not] at hw
  rw [keywordOf, hword] at hw
  exact hw.2 hlead

/-- A plain word that starts no type and no special form is a term. -/
theorem term_name (hplain : Macro.isPlainWord text.toList = true) (hw : isOrdinary dialect (keywordOf text none) = true)
    (span : Option Text.Span) : Term dialect (.ident ⟨text, none, span⟩) [.word text none] 0 where
  plain := rfl
  opens := opens_word hw
  starts := by
    show ∃ c, text.toList.head? = some c ∧ c ∉ ['-', '>']
    cases htext : text.toList with
    | nil => simp [htext, Macro.isPlainWord] at hplain
    | cons c cs =>
      rw [htext, isPlainWord_cons] at hplain
      have hpart := isPlainPart_of_isPlainStart hplain.1
      refine ⟨c, rfl, ?_⟩
      simp only [List.mem_cons, List.not_mem_nil, or_false, not_or]
      exact ⟨ne_of_isPlainPart hpart (by decide), ne_of_isPlainPart hpart (by decide)⟩
  spells hcs hs := hs.word hplain (endsWord_of_endsOperand hcs)
  reads hls hrest _ fuel := by
    obtain ⟨sp, _, rfl, hnil⟩ := cons_of_tokens hls
    obtain rfl := List.map_eq_nil_iff.1 hnil
    refine ⟨_, operandAt_ordinary (by rwa [grammar_dialect]) fuel sp hrest, rfl, ?_⟩
    rw [exprTree_ident, exprTree_ident]
    rfl
  fails _ _ h := absurd h (Nat.not_lt_zero _)

/-! ## Constants -/

/-- A number is an operand. -/
theorem operandAt_number (h : Closes dialect rest) (fuel : Nat) (text : String) (sp : Text.Span) :
    operandAt g (fuel + 1) (⟨.number text false, sp⟩ :: rest) = .ok (.literal (.number text false), rest) := by
  rw [operandAt, run_bind_ok (attempt_refused ⟨_, _, rfl⟩)]
  exact collated_none h.noCollation

/-- A text literal is an operand. -/
theorem operandAt_quoted (h : Closes dialect rest) (fuel : Nat) (raw : String) (sp : Text.Span) :
    operandAt g (fuel + 1) (⟨.string .single raw, sp⟩ :: rest) = .ok (.literal (.string .single raw), rest) := by
  rw [operandAt, run_bind_ok (attempt_refused ⟨_, _, rfl⟩)]
  exact collated_none h.noCollation

theorem number_toSql (text : String) : (Expr.literal (.number text false)).toSql = text := by
  simp [Literal.toSql, wordIf]

/-- A number without sign and point is a term. -/
theorem term_number (hd : ∀ c ∈ text.toList, c.isDigit = true) (hne : text.toList ≠ []) :
    Term dialect (.literal (.number text false)) [.number text false] 0 where
  plain := rfl
  opens := ⟨⟨_, rfl, fun _ _ h => (nomatch h), fun h => (nomatch h), fun h => nomatch h⟩, by simp⟩
  starts := by
    rw [number_toSql]
    obtain ⟨c, cs, hc⟩ := List.exists_cons_of_ne_nil hne
    have hnone : ∀ d ∈ ['0', '1', '2', '3', '4', '5', '6', '7', '8', '9'], d ∉ ['-', '>'] := by simp
    exact ⟨c, by simp [hc], hnone c (isDigit_cases (hd c (by simp [hc])))⟩
  spells hcs hs := by
    rw [number_toSql]
    exact hs.number hd hne hcs
  reads hls hrest _ fuel := by
    obtain ⟨sp, _, rfl, hnil⟩ := cons_of_tokens hls
    obtain rfl := List.map_eq_nil_iff.1 hnil
    exact ⟨_, operandAt_number hrest fuel text sp, rfl, rfl⟩
  fails _ _ h := absurd h (Nat.not_lt_zero _)

/-- A text between quotes is a term. -/
theorem term_text (value : String) :
    Term dialect (textExpr dialect value) [PredicateForm.textToken dialect value] 0 where
  plain := rfl
  opens := ⟨⟨_, rfl, fun _ _ h => (nomatch h), fun h => (nomatch h), fun h => nomatch h⟩, by simp⟩
  starts := by
    rw [textExpr_toSql]
    exact ⟨'\'', by simp [Macro.stringLiteral], by decide⟩
  spells hcs hs := by
    rw [textExpr_toSql]
    exact spells_text dialect value (head?_ne_quote (endsWord_of_endsOperand hcs)) hs
  reads hls hrest _ fuel := by
    obtain ⟨sp, _, rfl, hnil⟩ := cons_of_tokens hls
    obtain rfl := List.map_eq_nil_iff.1 hnil
    exact ⟨_, operandAt_quoted hrest fuel _ sp, rfl, rfl⟩
  fails _ _ h := absurd h (Nat.not_lt_zero _)

end SqlTemplate.Sql.Parser
