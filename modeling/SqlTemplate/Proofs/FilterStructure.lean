import Mathlib.Data.List.Forall2
import SqlTemplate.Proofs.FilterTrees

/-!
# Filters keep the structure of a query

The predicate of a list of filters is read as one expression in parentheses: the conjunction, from the left, of the
predicates of the filters, each as it is read alone. The values of the filters are found in the literals and nowhere
else. The only texts that are not read are those in which a filter behind the first one starts with the word `ANY`,
`ALL` or `SOME`, which asks for a set behind an operator.

* `OpensSet`: the filters that cannot stand behind another one.
* `filtersPredicate_structure`: the structure, and what it does not depend on.
-/

namespace SqlTemplate.Sql

open Macro SqlTemplate.Sql.Parser Service.Tree Json

variable {dialect : Dialect}

/-- The filter's text starts with a word that asks for a set behind an operator. -/
def OpensSet (dialect : Dialect) (f : Filter) : Prop :=
  f.operator ≠ .regexMatch ∧ f.operator ≠ .regexNotMatch ∧ keyKeyword dialect f.key ∈ amongWords

/-- The tree of a filter. -/
def filterTree (dialect : Dialect) (f : Filter) : Value := formTree dialect (keyTree dialect f.key) (formOf f)

/-- The tokens of a filter. -/
def filterTokens (dialect : Dialect) (f : Filter) : List Token :=
  (formOf f).tokens dialect (columnTokens dialect f.key)

/-- The expression is that of the filter, with some places. -/
def IsPredicateOf (dialect : Dialect) (f : Filter) (e : Expr) : Prop :=
  ∃ at_ places fat, places.length = (keyWords dialect f.key).2.length ∧
    e = formExpr dialect (keyColumn dialect f.key at_ places) (matchIdent dialect fat) (formOf f)

theorem IsPredicateOf.tree {f : Filter} {e : Expr} (h : IsPredicateOf dialect f e) :
    exprTree e = filterTree dialect f := by
  obtain ⟨at_, places, fat, hp, rfl⟩ := h
  rw [exprTree_formExpr, exprTree_keyColumn at_ hp, filterTree]

/-! ## Single filters -/

/-- The text spells the tokens wherever a word may end behind it. -/
def SpellsAnywhere (dialect : Dialect) (text : String) (tokens : List Token) : Prop :=
  ∀ {cs : List Char} {ts : List Token}, endsWord cs = true → Spells dialect cs ts →
    Spells dialect (text.toList ++ cs) (tokens ++ ts)

theorem filterPredicate_eq_ok {f : Filter} {text : String} :
    filterPredicate dialect f = .ok text ↔
      ∃ column, quoteKey dialect f.key = .ok column ∧ text = (formOf f).text filterSign dialect column := by
  unfold filterPredicate
  cases quoteKey dialect f.key with
  | error e => simp [bind, Except.bind]
  | ok column =>
    simp [bind, Except.bind, pure, Except.pure, columnPredicate_eq, eq_comm]

theorem spells_filter {f : Filter} {text : String} (h : filterPredicate dialect f = .ok text) :
    SpellsAnywhere dialect text (filterTokens dialect f) := by
  obtain ⟨column, hk, rfl⟩ := filterPredicate_eq_ok.1 h
  intro cs ts hcs hs
  exact spells_predicate (spells_key hk) (.inl rfl) (formOf f) (formOf_known f) hcs hs

theorem IsPredicateOf.spells {f : Filter} {text : String} {e : Expr} (ht : filterPredicate dialect f = .ok text)
    (hr : Readable dialect f.key (formOf f)) (h : IsPredicateOf dialect f e) :
    SpellsAnywhere dialect e.toSql (filterTokens dialect f) := by
  obtain ⟨column, hk, -⟩ := filterPredicate_eq_ok.1 ht
  obtain ⟨at_, places, fat, hp, rfl⟩ := h
  intro cs ts hcs hs
  rw [formExpr_toSql, keyColumn_toSql hk hr at_ hp]
  exact spells_predicate (spells_key hk) (.inr rfl) (formOf f) (formOf_known f) hcs hs

theorem parseExpr_eq_ok {text : String} {ls : List Lexeme} (h : lexemes dialect text = .ok ls) {e : Expr} :
    parseExpr dialect text = .ok e ↔ (grammar dialect maxDepth).expr 0 ls = .ok (e, []) := by
  rw [Parser.parseExpr_eq h]
  cases (grammar dialect maxDepth).expr 0 ls with
  | error fault => simp
  | ok r =>
    obtain ⟨e', rest⟩ := r
    cases rest <;> simp

/-- A filter whose text is read is readable, and its text is read as its predicate. -/
theorem parse_filter {f : Filter} {text : String} {e : Expr} (ht : filterPredicate dialect f = .ok text)
    (hp : parseExpr dialect text = .ok e) : Readable dialect f.key (formOf f) ∧ IsPredicateOf dialect f e := by
  have hs := spells_filter ht (show endsWord [] = true from rfl) (.nil dialect)
  rw [List.append_nil, List.append_nil] at hs
  obtain ⟨ls, hls, htokens⟩ := hs.lexemes
  rw [parseExpr_eq_ok hls] at hp
  have hread := readable_of_read 47 (formOf_known f) htokens hp
  obtain ⟨at_, places, fat, hlen, hreads⟩ := reads_of_readable hread (formOf_known f) htokens
  have halone := hreads.alone 47
  rw [show (grammar dialect maxDepth).expr 0 ls = .ok (_, []) from halone] at hp
  cases hp
  exact ⟨hread, at_, places, fat, hlen, rfl⟩


/-! ## Conjunctions of filters -/

/-- The tokens of filters with `AND` in front. -/
def furtherTokens (dialect : Dialect) (fs : List Filter) : List Token :=
  fs.flatMap fun f => .word "AND" none :: filterTokens dialect f

/-- The tokens of the predicate of a list of filters. -/
def filtersTokens (dialect : Dialect) (f : Filter) (fs : List Filter) : List Token :=
  .sign "(" :: (filterTokens dialect f ++ (furtherTokens dialect fs ++ [.sign ")"]))

/-- Texts with `AND` between them spell the tokens of their filters. -/
theorem spells_conjuncts {cs : List Char} {ts : List Token} (hcs : endsWord cs = true) (h : Spells dialect cs ts) :
    ∀ (fs : List Filter) (texts : List String) (f : Filter) (text : String),
      SpellsAnywhere dialect text (filterTokens dialect f) →
      List.Forall₂ (fun f text => SpellsAnywhere dialect text (filterTokens dialect f)) fs texts →
      Spells dialect ((String.intercalate " AND " (text :: texts)).toList ++ cs)
        (filterTokens dialect f ++ (furtherTokens dialect fs ++ ts))
  | [], _, f, text, ht, .nil => by simpa [furtherTokens] using ht hcs h
  | f' :: fs, text' :: texts, f, text, ht, .cons ht' hrest => by
    have hrest' := spells_conjuncts hcs h fs texts f' text' ht' hrest
    have hand := (spells_keyword (w := "AND") (by decide +kernel) hrest').blank
    simpa [furtherTokens, String.intercalate_cons_cons] using ht rfl hand

/-- Texts with `AND` between them and parentheses around them spell the tokens of their filters, whatever follows. -/
theorem spells_filters {fs : List Filter} {texts : List String} {f : Filter} {text : String}
    (ht : SpellsAnywhere dialect text (filterTokens dialect f))
    (hts : List.Forall₂ (fun f text => SpellsAnywhere dialect text (filterTokens dialect f)) fs texts)
    {cs : List Char} {ts : List Token} (h : Spells dialect cs ts) :
    Spells dialect (("(" ++ String.intercalate " AND " (text :: texts) ++ ")").toList ++ cs)
      (filtersTokens dialect f fs ++ ts) := by
  have hinner := spells_conjuncts (show endsWord (')' :: cs) = true from rfl) (spells_closing h) fs texts f text ht hts
  simpa [filtersTokens] using spells_opening hinner

theorem formOf_isMatching (f : Filter) :
    (formOf f).isMatching = true ↔ f.operator = .regexMatch ∨ f.operator = .regexNotMatch := by
  unfold formOf
  cases f.operator
  case equal | notEqual =>
    dsimp only
    split <;> simp [PredicateForm.isMatching]
  all_goals simp [PredicateForm.isMatching]

/-- A word asks for a set if its keyword does. -/
theorem keyword?_among (text : String) (quote : Option Char) :
    (∃ word ∈ amongWords, (Token.word text quote).keyword? = some word) ↔ keywordOf text quote ∈ amongWords := by
  cases quote with
  | none => simp [Token.keyword?, keywordOf]
  | some q =>
    have hempty : "" ∉ amongWords := by decide
    simpa [Token.keyword?, keywordOf] using hempty

/-- A filter opens a set if the first of its tokens does. -/
theorem opensSet_iff {f : Filter} {ls : List Lexeme} (h : ls.map Lexeme.token = filterTokens dialect f) :
    (∃ l ∈ ls.head?, ∃ word ∈ amongWords, l.token.keyword? = some word) ↔ OpensSet dialect f := by
  have hhead : (∃ l ∈ ls.head?, ∃ word ∈ amongWords, l.token.keyword? = some word) ↔
      ∃ t ∈ (filterTokens dialect f).head?, ∃ word ∈ amongWords, t.keyword? = some word := by
    rw [← h]
    cases ls <;> simp
  rw [hhead]
  have hmatch := formOf_isMatching f
  cases hm : (formOf f).isMatching with
  | false =>
    rw [hm] at hmatch
    have hfirst : (filterTokens dialect f).head? =
        some (.word (keyWords dialect f.key).1.1 (keyWords dialect f.key).1.2) := by
      unfold filterTokens columnTokens
      cases hform : formOf f with
      | isMatch negated value => simp [hform, PredicateForm.isMatching] at hm
      | compare op value => rfl
      | isNull negated => cases negated <;> rfl
      | isIn negated value more => cases negated <;> rfl
    simp only [hfirst, Option.mem_some_iff, exists_eq_left', keyword?_among]
    simp only [Bool.false_eq_true, false_iff, not_or] at hmatch
    exact ⟨fun hk => ⟨hmatch.1, hmatch.2, hk⟩, fun hk => hk.2.2⟩
  | true =>
    have hwords : ¬ ∃ t ∈ (filterTokens dialect f).head?, ∃ word ∈ amongWords, t.keyword? = some word := by
      unfold filterTokens
      cases hform : formOf f with
      | isMatch negated value =>
        have hnot : keywordOf "NOT" none ∉ amongWords := by decide +kernel
        have hname : keywordOf (matchFunction dialect) none ∉ amongWords := by cases dialect <;> decide +kernel
        cases negated
        · simpa only [PredicateForm.tokens, List.head?_cons, Option.mem_some_iff, exists_eq_left', keyword?_among] using hname
        · simpa only [PredicateForm.tokens, List.head?_cons, Option.mem_some_iff, exists_eq_left', keyword?_among] using hnot
      | _ => simp [hform, PredicateForm.isMatching] at hm
    rw [hm] at hmatch
    refine ⟨fun hk => absurd hk hwords, fun hk => ?_⟩
    rcases hmatch.1 rfl with h | h
    · exact absurd h hk.1
    · exact absurd h hk.2.1

/-! ## Reading and writing the whole -/

/-- Tokens of filters with `AND` in front are read as the predicates of the filters. -/
theorem further_of_tokens : ∀ (fs : List Filter) (ls : List Lexeme), (∀ g ∈ fs, Readable dialect g.key (formOf g)) →
    ls.map Lexeme.token = furtherTokens dialect fs →
      ∃ more, ls = furtherConjuncts more ∧ (∀ p ∈ more, Reads dialect p.2.1 p.2.2) ∧
        ((∃ p ∈ more, ∃ l ∈ p.2.1.head?, ∃ word ∈ amongWords, l.token.keyword? = some word) ↔
          ∃ g ∈ fs, OpensSet dialect g) ∧
        List.Forall₂ (IsPredicateOf dialect) fs (more.map fun p => p.2.2)
  | [], ls, _, h => ⟨[], by simpa [furtherTokens, furtherConjuncts] using h, by simp, by simp, .nil⟩
  | f :: fs, ls, hr, h => by
    simp only [furtherTokens, List.flatMap_cons, List.cons_append, List.map_eq_cons_iff, List.map_eq_append_iff] at h
    obtain ⟨⟨t, sp⟩, l, rfl, rfl, l₁, l₂, rfl, h₁, h₂⟩ := h
    obtain ⟨more, rfl, hreads, hopens, hmore⟩ :=
      further_of_tokens fs l₂ (fun g hg => hr g (List.mem_cons_of_mem _ hg)) h₂
    obtain ⟨at_, places, fat, hlen, hread⟩ := reads_of_readable (hr f List.mem_cons_self) (formOf_known f) h₁
    refine ⟨(sp, l₁, _) :: more, by simp [furtherConjuncts], ?_, ?_, .cons ⟨at_, places, fat, hlen, rfl⟩ hmore⟩
    · intro p hp
      rcases List.mem_cons.1 hp with rfl | hp
      · exact hread
      · exact hreads p hp
    · rw [List.exists_mem_cons_iff, List.exists_mem_cons_iff, hopens, opensSet_iff h₁]

/-- The tree of a conjunction of trees, from the left. -/
def conjunctionTree (first : Value) (more : List Value) : Value :=
  more.foldl (fun left right => nodeOf "BinaryOp" [("left", left), ("op", .string "And"), ("right", right)]) first

theorem exprTree_conjunction (more : List Expr) (first : Expr) :
    exprTree (conjunction first more) = conjunctionTree (exprTree first) (more.map exprTree) := by
  induction more generalizing first with
  | nil => rfl
  | cons e es ih =>
    show exprTree (conjunction (.binary first .and e) es) = _
    rw [ih, exprTree_binary]
    rfl

theorem conjunction_toSql (more : List Expr) (first : Expr) :
    (conjunction first more).toSql = String.intercalate " AND " (first.toSql :: more.map Expr.toSql) := by
  induction more generalizing first with
  | nil => simp [conjunction]
  | cons e es ih =>
    show (conjunction (.binary first .and e) es).toSql = _
    rw [ih, Expr.toSql_binary, List.map_cons, String.intercalate_cons_cons]
    cases es with
    | nil => simp [BinaryOp.toSql, String.append_assoc]
    | cons e' es =>
      rw [List.map_cons, String.intercalate_cons_cons, String.intercalate_cons_cons]
      simp [BinaryOp.toSql, String.append_assoc]

/-- The tree of the predicate of a list of filters. -/
def filtersTree (dialect : Dialect) (f : Filter) (fs : List Filter) : Value :=
  node "Nested" (conjunctionTree (filterTree dialect f) (fs.map (filterTree dialect)))

/-- The texts of filters, with `AND` and parentheses, spell their tokens. -/
theorem spells_texts_of_filters {f : Filter} {fs : List Filter} {text : String} {texts : List String}
    (h : List.Forall₂ (fun g text => filterPredicate dialect g = .ok text) (f :: fs) (text :: texts)) :
    Spells dialect ("(" ++ String.intercalate " AND " (text :: texts) ++ ")").toList (filtersTokens dialect f fs) := by
  cases h with
  | cons ht hts =>
    have hs := spells_filters (spells_filter ht) (hts.imp fun _ _ => spells_filter) (.nil dialect)
    rwa [List.append_nil, List.append_nil] at hs

/-- A conjunction is written as a text that spells the tokens of its filters, whatever follows. -/
theorem spells_written {f : Filter} {fs : List Filter} {first : Expr} {more : List Expr}
    (h : List.Forall₂ (fun g e => SpellsAnywhere dialect e.toSql (filterTokens dialect g)) (f :: fs) (first :: more))
    {cs : List Char} {ts : List Token} (hs : Spells dialect cs ts) :
    Spells dialect ((Expr.nested (conjunction first more)).toSql.toList ++ cs) (filtersTokens dialect f fs ++ ts) := by
  cases h with
  | cons hf hfs =>
    rw [Expr.toSql_nested, conjunction_toSql]
    exact spells_filters hf (List.forall₂_map_right_iff.2 hfs) hs

/-- What is read from the tokens of readable filters: nothing if a later one opens a set, otherwise the conjunction. -/
theorem read_filters {f : Filter} {fs : List Filter} (hr : ∀ g ∈ f :: fs, Readable dialect g.key (formOf g))
    {text : String} (hs : Spells dialect text.toList (filtersTokens dialect f fs)) :
    ((∃ e, parseExpr dialect text = .ok e) ↔ ∀ g ∈ fs, ¬ OpensSet dialect g) ∧
      ∀ e, parseExpr dialect text = .ok e → ∃ first more, e = .nested (conjunction first more) ∧
        List.Forall₂ (IsPredicateOf dialect) (f :: fs) (first :: more) := by
  obtain ⟨ls, hls, htokens⟩ := hs.lexemes
  simp only [filtersTokens, List.map_eq_cons_iff, List.map_eq_append_iff, List.map_eq_nil_iff] at htokens
  obtain ⟨⟨t, o⟩, l, rfl, rfl, l₁, l', rfl, h₁, l₂, l₃, rfl, h₂, ⟨t', c⟩, _, rfl, rfl, rfl⟩ := htokens
  obtain ⟨at_, places, fat, hlen, hfirst⟩ := reads_of_readable (hr f List.mem_cons_self) (formOf_known f) h₁
  obtain ⟨more, rfl, hreads, hopens, hmore⟩ :=
    further_of_tokens fs l₂ (fun g hg => hr g (List.mem_cons_of_mem _ hg)) h₂
  by_cases hset : ∃ g ∈ fs, OpensSet dialect g
  · obtain ⟨m, at', hrefused⟩ := conjunction_refused 45 hfirst hreads (hopens.2 hset) o c
    have hnone : ∀ e, parseExpr dialect text ≠ .ok e := by
      intro e he
      rw [parseExpr_eq_ok hls] at he
      rw [show (grammar dialect maxDepth).expr 0 _ = .error (.rejected m at') from hrefused] at he
      cases he
    refine ⟨⟨fun ⟨e, he⟩ => absurd he (hnone e), fun hall => ?_⟩, fun e he => absurd he (hnone e)⟩
    obtain ⟨g, hg, hgs⟩ := hset
    exact absurd hgs (hall g hg)
  · have hwords : ∀ p ∈ more, ∀ l ∈ p.2.1.head?, ∀ word ∈ amongWords, l.token.keyword? ≠ some word :=
      fun p hp l hl word hw hk => hset (hopens.1 ⟨p, hp, l, hl, word, hw, hk⟩)
    have hok := conjunction_reads 45 hfirst hreads hwords o c
    have hparse := (parseExpr_eq_ok hls).2 hok
    refine ⟨⟨fun _ g hg hgs => hset ⟨g, hg, hgs⟩, fun _ => ⟨_, hparse⟩⟩, fun e he => ?_⟩
    rw [hparse] at he
    cases he
    exact ⟨_, _, rfl, .cons ⟨at_, places, fat, hlen, rfl⟩ hmore⟩

theorem exprTree_filters {f : Filter} {fs : List Filter} {first : Expr} {more : List Expr}
    (h : List.Forall₂ (IsPredicateOf dialect) (f :: fs) (first :: more)) :
    exprTree (.nested (conjunction first more)) = filtersTree dialect f fs := by
  cases h with
  | cons hf hfs =>
    have hmap : more.map exprTree = fs.map (filterTree dialect) := by
      induction hfs with
      | nil => rfl
      | cons hg _ ih => rw [List.map_cons, List.map_cons, hg.tree, ih]
    rw [exprTree_nested, exprTree_conjunction, hf.tree, hmap, filtersTree]


/-- The text of a readable filter is read. -/
theorem parses_of_readable (dialect : Dialect) (f : Filter) {text : String} (ht : filterPredicate dialect f = .ok text)
    (hr : Readable dialect f.key (formOf f)) : ∃ e, parseExpr dialect text = .ok e := by
  have hs := spells_filter ht (show endsWord [] = true from rfl) (.nil dialect)
  rw [List.append_nil, List.append_nil] at hs
  obtain ⟨ls, hls, htokens⟩ := hs.lexemes
  obtain ⟨at_, places, fat, -, hreads⟩ := reads_of_readable hr (formOf_known f) htokens
  exact ⟨_, (parseExpr_eq_ok hls).2 (hreads.alone 47)⟩

/-- The predicate of filters that all have one. -/
theorem filtersPredicate_cons {f : Filter} {fs : List Filter}
    (h : ∀ g ∈ f :: fs, ∃ text, filterPredicate dialect g = .ok text) :
    ∃ text texts, filtersPredicate dialect (f :: fs) = .ok ("(" ++ String.intercalate " AND " (text :: texts) ++ ")") ∧
      List.Forall₂ (fun g text => filterPredicate dialect g = .ok text) (f :: fs) (text :: texts) := by
  have hmap : ∀ gs : List Filter, (∀ g ∈ gs, ∃ text, filterPredicate dialect g = .ok text) →
      ∃ texts, gs.mapM (filterPredicate dialect) = .ok texts ∧
        List.Forall₂ (fun g text => filterPredicate dialect g = .ok text) gs texts := by
    intro gs
    induction gs with
    | nil => exact fun _ => ⟨[], rfl, .nil⟩
    | cons g gs ih =>
      intro hg
      obtain ⟨text, ht⟩ := hg g List.mem_cons_self
      obtain ⟨texts, hts, hall⟩ := ih fun g' hg' => hg g' (List.mem_cons_of_mem _ hg')
      refine ⟨text :: texts, ?_, .cons ht hall⟩
      rw [List.mapM_cons, ht, hts]
      rfl
  obtain ⟨texts, hts, hall⟩ := hmap (f :: fs) h
  cases hall with
  | cons ht hrest =>
    rename_i text texts
    refine ⟨text, texts, ?_, .cons ht hrest⟩
    rw [filtersPredicate, hts]
    · rfl
    · simp

/-! ## What the structure does not depend on -/

/-- The two filters ask the same of the same column, of values that may differ: a missing value stays one, and a list
keeps its length. -/
structure SameQuestion (f g : Filter) : Prop where
  key : g.key = f.key
  operator : g.operator = f.operator
  operands : f.operator.isMultiValue = true → g.operands.length = f.operands.length
  null : f.operator = .equal ∨ f.operator = .notEqual → (g.value = Filter.nullMark ↔ f.value = Filter.nullMark)

theorem map_const_of_length {α β : Type} (b : β) : ∀ {xs ys : List α}, xs.length = ys.length →
    (xs.map fun _ => b) = ys.map fun _ => b := by
  intro xs ys h
  rw [List.map_const', List.map_const', h]

theorem SameQuestion.blank {f g : Filter} (h : SameQuestion f g) : (formOf g).blank = (formOf f).blank := by
  have hnull := h.null
  have hoperands := h.operands
  unfold formOf
  rw [h.operator]
  cases hop : f.operator <;> rw [hop] at hnull hoperands
  case equal | notEqual =>
    dsimp only
    by_cases hn : f.value = Filter.nullMark
    · rw [if_pos hn, if_pos ((hnull (by simp)).2 hn)]
    · rw [if_neg hn, if_neg (fun hg => hn ((hnull (by simp)).1 hg))]
      rfl
  case oneOf | notOneOf =>
    have hlen : g.operands.tail.length = f.operands.tail.length := by
      rw [List.length_tail, List.length_tail, hoperands rfl]
    simp only [PredicateForm.blank, map_const_of_length "" hlen]
  all_goals rfl

theorem PredicateForm.isMatching_blank (form : PredicateForm) : form.blank.isMatching = form.isMatching := by
  cases form <;> rfl

theorem SameQuestion.readable {f g : Filter} (h : SameQuestion f g) (hr : Readable dialect f.key (formOf f)) :
    Readable dialect g.key (formOf g) := by
  have hm : (formOf g).isMatching = (formOf f).isMatching := by
    rw [← PredicateForm.isMatching_blank, h.blank, PredicateForm.isMatching_blank]
  rw [h.key]
  exact ⟨hr.notStubborn, hr.bareAlone, fun hg => hr.notRepeating (hm ▸ hg)⟩

theorem SameQuestion.opensSet {f g : Filter} (h : SameQuestion f g) :
    OpensSet dialect g ↔ OpensSet dialect f := by
  unfold OpensSet
  rw [h.key, h.operator]

theorem SameQuestion.tree {f g : Filter} (h : SameQuestion f g) :
    (filterTree dialect g).blanked = (filterTree dialect f).blanked := by
  rw [filterTree, filterTree, blanked_formTree (blanked_keyTree ..), blanked_formTree (blanked_keyTree ..), h.key, h.blank]

theorem SameQuestion.predicate {f g : Filter} (h : SameQuestion f g)
    (ht : ∃ text, filterPredicate dialect f = .ok text) : ∃ text, filterPredicate dialect g = .ok text := by
  obtain ⟨text, ht⟩ := ht
  obtain ⟨column, hk, -⟩ := filterPredicate_eq_ok.1 ht
  exact ⟨_, filterPredicate_eq_ok.2 ⟨column, h.key ▸ hk, rfl⟩⟩

/-- What the filters of a list have, those that ask the same have too, if it carries over. -/
theorem forall_of_sameQuestion {P : Filter → Prop} (hP : ∀ {f g}, SameQuestion f g → P f → P g) {fs gs : List Filter}
    (h : List.Forall₂ SameQuestion fs gs) (hfs : ∀ f ∈ fs, P f) : ∀ g ∈ gs, P g := by
  induction h with
  | nil => simp
  | cons hsame _ ih =>
    intro g hg
    rcases List.mem_cons.1 hg with rfl | hg
    · exact hP hsame (hfs _ List.mem_cons_self)
    · exact ih (fun f hf => hfs f (List.mem_cons_of_mem _ hf)) g hg

theorem blanked_conjunctionTree (more : List Value) (first : Value) :
    (conjunctionTree first more).blanked = conjunctionTree first.blanked (more.map Value.blanked) := by
  induction more generalizing first with
  | nil => rfl
  | cons v vs ih =>
    show (conjunctionTree (nodeOf "BinaryOp" [("left", first), ("op", .string "And"), ("right", v)]) vs).blanked = _
    rw [ih, Value.blanked, overwrite_nodeOf (by simp [Value.quotedTexts])]
    rfl

/-- Filters that ask the same have trees that differ inside their literals only. -/
theorem blanked_filtersTree {f g : Filter} {fs gs : List Filter} (h : SameQuestion f g)
    (hs : List.Forall₂ SameQuestion fs gs) :
    (filtersTree dialect g gs).blanked = (filtersTree dialect f fs).blanked := by
  have hmap : (gs.map (filterTree dialect)).map Value.blanked = (fs.map (filterTree dialect)).map Value.blanked := by
    induction hs with
    | nil => rfl
    | cons h _ ih => rw [List.map_cons, List.map_cons, List.map_cons, List.map_cons, h.tree, ih]
  have hnode (v : Value) : (node "Nested" v).blanked = node "Nested" v.blanked :=
    overwrite_node (by simp [Value.quotedTexts]) v
  rw [filtersTree, filtersTree, hnode, hnode, blanked_conjunctionTree, blanked_conjunctionTree, h.tree, hmap]


/-- The conjunct is what the filter's own text is read as, and its literals mean the values of the filter. -/
structure IsConjunctOf (dialect : Dialect) (f : Filter) (e : Expr) : Prop where
  own : ∃ text read, filterPredicate dialect f = .ok text ∧ parseExpr dialect text = .ok read ∧ exprTree e = exprTree read
  values : (exprTree e).literals.map (literalValue dialect) = filterValues f

theorem IsPredicateOf.conjunct {f : Filter} {e read : Expr} {text : String} (ht : filterPredicate dialect f = .ok text)
    (hp : parseExpr dialect text = .ok read) (h : IsPredicateOf dialect f e) : IsConjunctOf dialect f e := by
  refine ⟨⟨text, read, ht, hp, by rw [h.tree, (parse_filter ht hp).2.tree]⟩, ?_⟩
  rw [h.tree, filterTree, literals_formTree (literals_keyTree ..), List.map_map, ← formOf_values]
  exact (List.map_congr_left fun value _ => literalValue_held dialect value).trans (List.map_id _)

/-- **Filter values cannot change the structure of a query.** If the text of each filter is read alone, then the text of
the list is read unless a filter behind the first one opens a set; and what is read
* is one expression in parentheses, the conjunction from the left of one conjunct for each filter;
* is spelled by the same tokens when it is written again, whatever follows, and then read as the same tree;
* differs inside literals only from what is read for filters that ask the same of other values. -/
theorem filtersPredicate_structure (dialect : Dialect) (f : Filter) (fs : List Filter)
    (hown : ∀ g ∈ f :: fs, ∃ text read, filterPredicate dialect g = .ok text ∧ parseExpr dialect text = .ok read) :
    ∃ text, filtersPredicate dialect (f :: fs) = .ok text ∧
      ((∃ e, parseExpr dialect text = .ok e) ↔ ∀ g ∈ fs, ¬ OpensSet dialect g) ∧
      ∀ e, parseExpr dialect text = .ok e →
        (∃ first more, e = .nested (conjunction first more) ∧
          List.Forall₂ (IsConjunctOf dialect) (f :: fs) (first :: more)) ∧
        (∃ ls, lexemes dialect text = .ok ls ∧ ∀ after tokens, Spells dialect after tokens →
          Spells dialect (e.toSql.toList ++ after) (ls.map Lexeme.token ++ tokens)) ∧
        (∃ e', parseExpr dialect e.toSql = .ok e' ∧ exprTree e' = exprTree e) ∧
        ∀ gs, List.Forall₂ SameQuestion (f :: fs) gs → ∃ text' e', filtersPredicate dialect gs = .ok text' ∧
          parseExpr dialect text' = .ok e' ∧ (exprTree e').blanked = (exprTree e).blanked := by
  have hread : ∀ g ∈ f :: fs, Readable dialect g.key (formOf g) := by
    intro g hg
    obtain ⟨text, read, ht, hp⟩ := hown g hg
    exact (parse_filter ht hp).1
  -- the texts of the filters, and what the whole text spells
  obtain ⟨text, texts, htext, hall⟩ := filtersPredicate_cons fun g hg => (hown g hg).imp fun _ ⟨_, ht, _⟩ => ht
  have hwhole := spells_texts_of_filters hall
  obtain ⟨hiff, hparsed⟩ := read_filters hread hwhole
  refine ⟨_, htext, hiff, fun e he => ?_⟩
  have hopens := hiff.1 ⟨e, he⟩
  obtain ⟨first, more, rfl, hpreds⟩ := hparsed e he
  have hpreds' := (List.forall₂_and_left ..).2 ⟨hown, hpreds⟩
  obtain ⟨ls, hls, htokens⟩ := hwhole.lexemes
  have hwritten : ∀ {cs : List Char} {ts : List Token}, Spells dialect cs ts →
      Spells dialect ((Expr.nested (conjunction first more)).toSql.toList ++ cs) (filtersTokens dialect f fs ++ ts) :=
    spells_written (hpreds'.imp fun g e ⟨⟨text, read, ht, hp⟩, h⟩ => h.spells ht (parse_filter ht hp).1)
  refine ⟨⟨first, more, rfl, ?_⟩, ⟨ls, hls, fun after tokens hs => htokens ▸ hwritten hs⟩, ?_, ?_⟩
  · exact hpreds'.imp fun g e ⟨⟨text, read, ht, hp⟩, h⟩ => h.conjunct ht hp
  · have hagain := hwritten (.nil dialect)
    rw [List.append_nil, List.append_nil] at hagain
    obtain ⟨hiff', hparsed'⟩ := read_filters hread hagain
    obtain ⟨e', he'⟩ := hiff'.2 hopens
    obtain ⟨first', more', rfl, hpreds'⟩ := hparsed' e' he'
    exact ⟨_, he', by rw [exprTree_filters hpreds', exprTree_filters hpreds]⟩
  · intro gs hgs
    cases hgs with
    | @cons _ g _ gs hg hgs =>
      have hsame := List.Forall₂.cons hg hgs
      have hread' := forall_of_sameQuestion (fun h => h.readable) hsame hread
      have hpredicate := forall_of_sameQuestion (fun h => h.predicate) hsame
        fun g hg => (hown g hg).imp fun _ ⟨_, ht, _⟩ => ht
      obtain ⟨text', texts', htext', hall'⟩ := filtersPredicate_cons hpredicate
      obtain ⟨hiff', hparsed'⟩ := read_filters hread' (spells_texts_of_filters hall')
      obtain ⟨e', he'⟩ := hiff'.2 (forall_of_sameQuestion (fun h hf hg => hf (h.opensSet.1 hg)) hgs hopens)
      obtain ⟨first', more', rfl, hpreds'⟩ := hparsed' e' he'
      refine ⟨_, _, htext', he', ?_⟩
      rw [exprTree_filters hpreds', exprTree_filters hpreds, blanked_filtersTree hg hgs]


/-- Two filters that are read alone, but not behind one another: the key of the second one is the word `any`. -/
theorem filtersPredicate_behind_any :
    let fs : List Filter := [⟨"any", .equal, "y", none⟩]
    (∀ g ∈ (⟨"a", .equal, "it's", none⟩ : Filter) :: fs, ∃ text read,
      filterPredicate .clickHouse g = .ok text ∧ parseExpr .clickHouse text = .ok read) ∧
    ∃ text, filtersPredicate .clickHouse (⟨"a", .equal, "it's", none⟩ :: fs) = .ok text ∧
      ∀ e, parseExpr .clickHouse text ≠ .ok e := by
  intro fs
  have hown : ∀ g ∈ (⟨"a", .equal, "it's", none⟩ : Filter) :: fs, ∃ text read,
      filterPredicate .clickHouse g = .ok text ∧ parseExpr .clickHouse text = .ok read := by
    intro g hg
    simp only [fs, List.mem_cons, List.not_mem_nil, or_false] at hg
    rcases hg with rfl | rfl
    · obtain ⟨read, hread⟩ := parses_of_readable .clickHouse ⟨"a", .equal, "it's", none⟩ rfl
        ⟨by decide +kernel, by decide +kernel, by decide +kernel⟩
      exact ⟨_, read, rfl, hread⟩
    · obtain ⟨read, hread⟩ := parses_of_readable .clickHouse ⟨"any", .equal, "y", none⟩ rfl
        ⟨by decide +kernel, by decide +kernel, by decide +kernel⟩
      exact ⟨_, read, rfl, hread⟩
  refine ⟨hown, ?_⟩
  obtain ⟨text, htext, hiff, -⟩ := filtersPredicate_structure .clickHouse ⟨"a", .equal, "it's", none⟩ fs hown
  refine ⟨text, htext, fun e he => hiff.1 ⟨e, he⟩ ⟨"any", .equal, "y", none⟩ List.mem_cons_self ?_⟩
  exact ⟨by decide, by decide, by decide +kernel⟩

end SqlTemplate.Sql
