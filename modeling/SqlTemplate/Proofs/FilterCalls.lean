import SqlTemplate.Proofs.Constants

/-!
# Filters call no macro

The predicate of a list of filters that is read at all is read as the conjunction of the predicates of the filters, each
of them on a column. No column is named like a macro: a key that starts like one is put in quotes.

* `readable_of_filters`: filters whose predicate is read can each be read.
* `not_hasCall_filters`: nothing that is read from the predicate of filters is a call.
-/

namespace SqlTemplate.Sql

open Macro SqlTemplate.Sql.Parser

variable {dialect : Dialect}

/-! ## Filters behind one another -/

/-- A filter starts with a word that starts no query, and has no parenthesis behind it if it asks for a set. -/
theorem filterTokens_head (dialect : Dialect) (f : Filter) :
    ∃ text quote t ts, filterTokens dialect f = .word text quote :: t :: ts ∧
      keywordOf text quote ∉ ["SELECT", "WITH"] ∧ (keywordOf text quote ∈ amongWords → t ≠ .sign "(") := by
  have hkey : keyKeyword dialect f.key ∉ ["SELECT", "WITH"] := by
    obtain ⟨-, hr⟩ := keyKeyword_unreserved dialect f.key
    have hsubset : ∀ w ∈ ["SELECT", "WITH"], w ∈ reservedForColumnAlias := by decide +kernel
    exact fun h => hr (hsubset _ h)
  -- a column has a point behind its first word, or what the predicate puts there
  have hcolumn : ∀ (t : Token) (ts : List Token), t ≠ .sign "(" →
      ∃ text quote t' ts', columnTokens dialect f.key ++ t :: ts = .word text quote :: t' :: ts' ∧
        keywordOf text quote ∉ ["SELECT", "WITH"] ∧ (keywordOf text quote ∈ amongWords → t' ≠ .sign "(") := by
    intro t ts ht
    unfold columnTokens
    cases (keyWords dialect f.key).2 with
    | nil => exact ⟨_, _, t, ts, rfl, hkey, fun _ => ht⟩
    | cons word words => exact ⟨_, _, .sign ".", _, rfl, hkey, fun _ => by decide⟩
  have hknown := formOf_known f
  unfold filterTokens
  cases hform : formOf f with
  | compare op value =>
    rw [hform] at hknown
    have hne : ∀ p ∈ comparisons, p.1 ≠ "(" := by decide
    exact hcolumn _ _ fun h => hne _ hknown (by simpa using h)
  | isNull negated => cases negated <;> exact hcolumn _ _ (by decide)
  | isIn negated value more => cases negated <;> exact hcolumn _ _ (by decide)
  | isMatch negated value =>
    cases negated
    · refine ⟨_, _, _, _, rfl, ?_, ?_⟩ <;> cases dialect <;> decide +kernel
    · exact ⟨_, _, _, _, rfl, by decide +kernel, fun _ => Token.noConfusion⟩

/-- The right side of `AND` in front of a filter is read as an expression. -/
theorem expr_of_infixExpr_and {g : Grammar} {f : Filter} {left e : Expr} {ls rest r : List Lexeme} {sp : Text.Span}
    (hls : ls.map Lexeme.token = filterTokens dialect f)
    (hok : infixExpr g left 10 (⟨.word "AND" none, sp⟩ :: (ls ++ rest)) = .ok (e, r)) :
    ∃ right, g.expr 10 (ls ++ rest) = .ok (right, r) := by
  obtain ⟨text, quote, t, ts, htokens, -, hopen⟩ := filterTokens_head dialect f
  rw [htokens] at hls
  simp only [List.map_eq_cons_iff] at hls
  obtain ⟨⟨t₁, sp₁⟩, _, rfl, rfl, ⟨t₂, sp₂⟩, ls', rfl, rfl, rfl⟩ := hls
  by_cases hset : ∃ word ∈ amongWords, (Token.word text quote).keyword? = some word
  · obtain ⟨word, hword, hk⟩ := hset
    have hsign : isSign "(" (some ⟨t₂, sp₂⟩) = false := by
      simpa [isSign] using hopen ((keyword?_among text quote).1 ⟨word, hword, hk⟩)
    exact absurd hok (infixExpr_and_refused hword hk hsign ..).ne_ok
  · have hwords : ∀ word ∈ amongWords, (Token.word text quote).keyword? ≠ some word :=
      fun word hword hk => hset ⟨word, hword, hk⟩
    rw [List.cons_append, infixExpr_and_eq hwords] at hok
    obtain ⟨right, mid, hright, hok⟩ := bind_eq_ok hok
    cases hok
    exact ⟨right, hright⟩

theorem length_furtherTokens (dialect : Dialect) (fs : List Filter) : fs.length ≤ (furtherTokens dialect fs).length := by
  induction fs with
  | nil => simp
  | cons f fs ih =>
    simp only [furtherTokens, List.flatMap_cons, List.cons_append, List.length_cons, List.length_append] at ih ⊢
    omega

theorem stops_further {fs : List Filter} {ls : List Lexeme} (closing : Text.Span)
    (hls : ls.map Lexeme.token = furtherTokens dialect fs) : Stops (ls ++ [⟨.sign ")", closing⟩]) := by
  cases fs with
  | nil =>
    simp only [furtherTokens, List.flatMap_nil, List.map_eq_nil_iff] at hls
    subst hls
    exact .closing ..
  | cons f fs =>
    simp only [furtherTokens, List.flatMap_cons, List.cons_append, List.map_eq_cons_iff] at hls
    obtain ⟨⟨t, sp⟩, _, rfl, rfl, -⟩ := hls
    exact .and ..

/-- Filters behind `AND` are readable if the loop over them gets through. -/
theorem readable_of_infixLoop (depth : Nat) (closing : Text.Span) :
    ∀ (fs : List Filter) (ls r : List Lexeme) (fuel : Nat) (left e : Expr),
      ls.map Lexeme.token = furtherTokens dialect fs → fs.length ≤ fuel →
      infixLoop (grammar dialect (depth + 3)) 0 fuel left (ls ++ [⟨.sign ")", closing⟩]) = .ok (e, r) →
      ¬ Stuck dialect r → ∀ g ∈ fs, Readable dialect g.key (formOf g)
  | [], _, _, _, _, _, _, _, _, _ => by simp
  | f :: fs, _, _, 0, _, _, _, hf, _, _ => by simp at hf
  | f :: fs, ls, r, fuel + 1, left, e, hls, hf, hok, hstuck => by
    simp only [furtherTokens, List.flatMap_cons, List.cons_append, List.map_eq_cons_iff, List.map_eq_append_iff] at hls
    obtain ⟨⟨t, sp⟩, _, rfl, rfl, l₁, l₂, rfl, h₁, h₂⟩ := hls
    have hlevel : infixLevel (⟨.word "AND" none, sp⟩ :: (l₁ ++ (l₂ ++ [⟨.sign ")", closing⟩]))) = 10 := rfl
    rw [List.cons_append, List.append_assoc, infixLoop, run_bind_ok (a := _) (r := _) rfl, hlevel,
      if_neg (by omega)] at hok
    obtain ⟨b, mid, hb, hok⟩ := bind_eq_ok hok
    obtain ⟨right, hright⟩ := expr_of_infixExpr_and h₁ hb
    have hs := stops_further closing h₂
    rcases readable_or_stuck depth 10 (formOf_known f) h₁ hs hright with hread | hleft
    · obtain ⟨at_, places, fat, -, hreads⟩ := reads_of_readable hread (formOf_known f) h₁
      obtain ⟨n, -, hthrough⟩ := hreads.exprAbove depth 10 hs (by decide)
      rw [infixLoop_stops hs (Nat.le_refl _)] at hthrough
      rw [show (grammar dialect (depth + 3)).expr 10 _ = _ from hthrough] at hright
      cases hright
      intro g hg
      rcases List.mem_cons.1 hg with rfl | hg
      · exact hread
      · exact readable_of_infixLoop depth closing fs l₂ r fuel b e h₂ (by simpa using hf) hok hstuck g hg
    · rw [infixLoop_stop (Nat.le_of_eq hleft.infixLevel_eq)] at hok
      cases hok
      exact absurd hleft hstuck

/-- What stands between parentheses and is read ends in front of the closing one. -/
theorem expr_of_parenExpr (dialect : Dialect) {g : Grammar} {ts r : List Lexeme} {e : Expr} (hq : comesQuery ts = .ok (false, ts))
    (hok : parenExpr g ts = .ok (e, r)) : ∃ inner mid, g.expr 0 ts = .ok (inner, mid) ∧ ¬ Stuck dialect mid := by
  unfold parenExpr at hok
  rw [run_bind_ok hq] at hok
  obtain ⟨items, mid, hitems, hok⟩ := bind_eq_ok (p := commaSeparated (g.expr 0)) hok
  obtain ⟨inner, mid', hinner, hitems⟩ := bind_eq_ok (p := g.expr 0) hitems
  refine ⟨inner, mid', hinner, ?_⟩
  -- neither a comma nor the closing parenthesis is left
  rintro ⟨⟨token, sp⟩, rest, rfl, rfl | rfl⟩
  · cases hitems
    cases hok
  · cases dialect <;> (cases hitems; cases hok)

/-- Filters whose predicate is read can each be read. -/
theorem readable_of_filters {f : Filter} {fs : List Filter} {text : String}
    (hs : Spells dialect text.toList (filtersTokens dialect f fs)) {e : Expr} (he : parseExpr dialect text = .ok e) :
    ∀ g ∈ f :: fs, Readable dialect g.key (formOf g) := by
  obtain ⟨ls, hls, htokens⟩ := hs.lexemes
  rw [parseExpr_eq_ok hls] at he
  simp only [filtersTokens, List.map_eq_cons_iff, List.map_eq_append_iff, List.map_eq_nil_iff] at htokens
  obtain ⟨⟨t, o⟩, l, rfl, rfl, l₁, l', rfl, h₁, l₂, l₃, rfl, h₂, ⟨t', c⟩, _, rfl, rfl, rfl⟩ := htokens
  have hs := stops_further c h₂
  have hquery : comesQuery (l₁ ++ (l₂ ++ [⟨.sign ")", c⟩])) = .ok (false, l₁ ++ (l₂ ++ [⟨.sign ")", c⟩])) := by
    obtain ⟨word, quote, t, ts, hhead, hword, -⟩ := filterTokens_head dialect f
    rw [hhead] at h₁
    simp only [List.map_eq_cons_iff] at h₁
    obtain ⟨⟨t₁, sp₁⟩, _, rfl, rfl, -⟩ := h₁
    exact comesQuery_word hword _ _
  -- the operand in parentheses, and the expression between them
  obtain ⟨n, mid, hn, he⟩ := bind_eq_ok (show exprAbove (grammar dialect 49) 0 _ = .ok (e, []) from he)
  cases hn
  obtain ⟨operand, mid, hoperand, -⟩ := bind_eq_ok he
  rw [operandAt_opening] at hoperand
  obtain ⟨p, mid', hp, -⟩ := bind_eq_ok hoperand
  obtain ⟨inner, mid', hinner, hstuck⟩ := expr_of_parenExpr dialect hquery hp
  have hinner : exprAbove (grammar dialect 48) 0 (l₁ ++ (l₂ ++ [⟨.sign ")", c⟩])) = .ok (inner, mid') := hinner
  rcases readable_or_stuck 46 0 (formOf_known f) h₁ hs hinner with hread | hleft
  · obtain ⟨at_, places, fat, -, hreads⟩ := reads_of_readable hread (formOf_known f) h₁
    obtain ⟨fuel, hfuel, hthrough⟩ := hreads.exprAbove 46 0 hs (by decide)
    rw [hthrough] at hinner
    have hlen : fs.length ≤ fuel := by
      have hfurther := length_furtherTokens dialect fs
      rw [← h₂, List.length_map] at hfurther
      rw [List.length_append] at hfuel
      omega
    intro g hg
    rcases List.mem_cons.1 hg with rfl | hg
    · exact hread
    · exact readable_of_infixLoop 45 c fs l₂ mid' fuel _ inner h₂ hlen hinner hstuck g hg
  · exact absurd hleft hstuck

/-! ## Columns and predicates -/

/-- A plain word does not start like the name of a macro. -/
theorem isMacroName_of_plain {word : List Char} (h : isPlainWord word = true) : isMacroName (String.ofList word) = false := by
  cases word with
  | nil => decide
  | cons c cs =>
    have hc : c ≠ '$' := by
      rintro rfl
      revert h
      simp [isPlainWord]
    have hstart : macroStart.toList = ['$', '_', '_'] := by decide
    simp [isMacroName, hstart, dropStart?, hc.symm]

/-- The first word of a key is in quotes or does not start like the name of a macro. -/
theorem keyWords_not_macro (dialect : Dialect) (key : String) :
    (keyWords dialect key).1.2.isSome ∨ isMacroName (keyWords dialect key).1.1 = false := by
  unfold keyWords
  split
  · rename_i hplain
    obtain ⟨part, parts, hparts, -⟩ := keyParts_join key.toList
    simp only [isPlainKey, hparts, List.all_cons, Bool.and_eq_true] at hplain
    rw [hparts]
    exact .inr (isMacroName_of_plain hplain.1.1)
  · exact .inl rfl

theorem not_hasCall_keyColumn (dialect : Dialect) (key : String) (at_ : Option Text.Span)
    (places : List (Option Text.Span)) : ¬ HasCall (keyColumn dialect key at_ places) := by
  have hname := keyWords_not_macro dialect key
  unfold keyColumn
  dsimp only
  split
  · exact not_hasCall_of_leaf (callOf_eq_none rfl hname) rfl
  · have hcolumn : ∀ names,
        ¬ HasCall (columnExpr ⟨(keyWords dialect key).1.1, (keyWords dialect key).1.2, at_⟩ names) := by
      intro names
      cases names with
      | nil => exact not_hasCall_of_leaf (callOf_eq_none rfl hname) rfl
      | cons name names => exact not_hasCall_of_leaf rfl rfl
    exact hcolumn _

theorem not_hasCall_formExpr {column : Expr} (hc : ¬ HasCall column) (fat : Option Text.Span) (form : PredicateForm) :
    ¬ HasCall (formExpr dialect column (matchIdent dialect fat) form) := by
  have hmatch : ∀ raw, ¬ HasCall (matchCall (matchIdent dialect fat) column raw) := by
    intro raw
    have hname : isMacroName (matchFunction dialect) = false := by cases dialect <;> decide
    exact not_hasCall_function hname [_, _] (by simp [hc, not_hasCall_literal])
  cases form with
  | compare op value => exact not_hasCall rfl (by simp [formExpr, Expr.parts, textExpr, hc, not_hasCall_literal])
  | isNull negated => exact not_hasCall rfl (by simp [formExpr, Expr.parts, hc])
  | isIn negated value more => exact not_hasCall rfl (by simp [formExpr, Expr.parts, textExpr, hc, not_hasCall_literal])
  | isMatch negated value =>
    cases negated
    · exact hmatch _
    · exact not_hasCall rfl (by simp [formExpr, Expr.parts, hmatch])

theorem not_hasCall_conjunction {first : Expr} {more : List Expr} (h : ¬ HasCall first)
    (hmore : ∀ e ∈ more, ¬ HasCall e) : ¬ HasCall (conjunction first more) := by
  induction more generalizing first with
  | nil => exact h
  | cons e es ih =>
    refine ih (not_hasCall rfl ?_) fun e' he' => hmore e' (List.mem_cons_of_mem _ he')
    simp [Expr.parts, h, hmore e List.mem_cons_self]

/-- If there is a predicate of filters, each of them has one. -/
theorem predicates_of_filtersPredicate {f : Filter} {fs : List Filter} {text : String}
    (h : filtersPredicate dialect (f :: fs) = .ok text) : ∀ g ∈ f :: fs, ∃ text, filterPredicate dialect g = .ok text := by
  have hmap : ∀ (gs : List Filter) (texts : List String), gs.mapM (filterPredicate dialect) = .ok texts →
      ∀ g ∈ gs, ∃ text, filterPredicate dialect g = .ok text := by
    intro gs
    induction gs with
    | nil => simp
    | cons g gs ih =>
      intro texts htexts
      rw [List.mapM_cons] at htexts
      cases hg : filterPredicate dialect g with
      | error e => simp [hg, bind, Except.bind] at htexts
      | ok text =>
        cases hgs : gs.mapM (filterPredicate dialect) with
        | error e => simp [hg, hgs, bind, Except.bind] at htexts
        | ok texts' => simpa [hg] using ih texts' hgs
  rw [filtersPredicate.eq_2 _ _ (by simp)] at h
  cases htexts : (f :: fs).mapM (filterPredicate dialect) with
  | error e => simp [htexts, bind, Except.bind] at h
  | ok texts => exact hmap _ texts htexts

/-- **Filters call no macro**, whatever their keys and values are. -/
theorem not_hasCall_filters {filters : List Filter} {text : String} (ht : filtersPredicate dialect filters = .ok text)
    {x : Expr} (hx : parseExpr dialect text = .ok x) : ¬ HasCall x := by
  cases filters with
  | nil =>
    cases ht
    have hs : Spells dialect "1 = 1".toList [.number "1" false, .sign "=", .number "1" false] := by
      have hright := Spells.number (n := "1") (by simp) (by simp) rfl (.nil dialect)
      have hsign := (spells_comparison (.inr rfl) (show (BinaryOp.eq.toSql, .eq) ∈ comparisons by decide) hright).blank
      exact Spells.number (n := "1") (by simp) (by simp) rfl hsign
    refine not_hasCall_of_spells hs (fun ls hls => ?_) hx
    simp only [List.map_eq_cons_iff, List.map_eq_nil_iff] at hls
    obtain ⟨⟨_, a⟩, _, rfl, rfl, ⟨_, b⟩, _, rfl, rfl, ⟨_, c⟩, _, rfl, rfl, rfl⟩ := hls
    refine ⟨.binary (.literal (.number "1" false)) .eq (.literal (.number "1" false)), ?_, ?_⟩
    · clear hs hx
      cases dialect <;> rfl
    · exact not_hasCall rfl (by simp [Expr.parts, not_hasCall_literal])
  | cons f fs =>
    obtain ⟨first, texts, htext, hall⟩ := filtersPredicate_cons (predicates_of_filtersPredicate ht)
    rw [htext] at ht
    cases ht
    have hs := spells_texts_of_filters hall
    obtain ⟨-, hparsed⟩ := read_filters (readable_of_filters hs hx) hs
    obtain ⟨first, more, rfl, hpreds⟩ := hparsed x hx
    have hcalls : ∀ {g e}, IsPredicateOf dialect g e → ¬ HasCall e := by
      rintro g e ⟨at_, places, fat, -, rfl⟩
      exact not_hasCall_formExpr (not_hasCall_keyColumn _ _ at_ places) fat _
    cases hpreds with
    | cons hfirst hmore =>
      refine not_hasCall rfl ?_
      simp only [Expr.parts, List.mem_singleton, forall_eq]
      refine not_hasCall_conjunction (hcalls hfirst) ?_
      clear hx hparsed hs hall htext
      induction hmore with
      | nil => simp
      | cons hg _ ih => simpa using ⟨hcalls hg, ih⟩

end SqlTemplate.Sql
