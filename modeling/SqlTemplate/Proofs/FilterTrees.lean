import Mathlib.Data.String.Basic
import SqlTemplate.Proofs.FilterTexts
import SqlTemplate.Proofs.Trees

/-!
# The trees of filters

The text of a filter is read as the expression of its form, with the held texts of its values as the only literals. This
needs a column that is read as one (`Readable`), and nothing else.

* `formExpr`: the expression of a form on a column.
* `reads_of_readable`: tokens of a readable filter are read as that expression; `readable_of_read`: no others are read.
-/

namespace SqlTemplate.Sql

open Macro SqlTemplate.Sql.Parser

variable {dialect : Dialect}

/-- The literal of a value. -/
def textExpr (dialect : Dialect) (value : String) : Expr := .literal (.string .single (heldLiteral dialect value))

/-- The expression of a form on a column; the function is the one that matches texts with patterns. -/
def formExpr (dialect : Dialect) (column : Expr) (function : Ident) : PredicateForm → Expr
  | .compare op value => .binary column op (textExpr dialect value)
  | .isNull negated => .is column (if negated then .notNull else .null)
  | .isIn negated value more => .inList column ((value :: more).map (textExpr dialect)) negated
  | .isMatch false value => matchCall function column (heldLiteral dialect value)
  | .isMatch true value => .unary .not (matchCall function column (heldLiteral dialect value))

/-- The first word of a key as a keyword; a word in quotes is none. -/
def keyKeyword (dialect : Dialect) (key : String) : String :=
  keywordOf (keyWords dialect key).1.1 (keyWords dialect key).1.2

/-- Whether a form is a match. -/
def PredicateForm.isMatching : PredicateForm → Bool
  | .isMatch _ _ => true
  | _ => false

/-- Whether the text of a predicate on a key is read: the first word of the key is no special form that gives way to
nothing; a call without parentheses has no point behind it; and an argument starts with no word about repeated
values. -/
structure Readable (dialect : Dialect) (key : String) (form : PredicateForm) : Prop where
  notStubborn : keyKeyword dialect key ∉ stubbornWords dialect
  bareAlone : keyKeyword dialect key ∈ bareWords dialect → (keyWords dialect key).2 = []
  notRepeating : form.isMatching = true → keyKeyword dialect key ∉ repeatWords

/-- A key that needs no quotes has no reserved word. -/
theorem keyKeyword_unreserved (dialect : Dialect) (key : String) :
    keyKeyword dialect key ∉ expressionKeywords ∧ keyKeyword dialect key ∉ reservedForColumnAlias := by
  unfold keyKeyword keyWords
  split
  · rename_i hplain
    obtain ⟨part, parts, hparts, -⟩ := keyParts_join key.toList
    simp only [isPlainKey, hparts, List.all_cons, Bool.and_eq_true, isReserved, Bool.not_eq_true', Bool.or_eq_false_iff,
      List.contains_eq_mem, decide_eq_false_iff_not] at hplain
    simp only [hparts, keywordOf, Token.keyword?, Option.getD_some]
    exact ⟨hplain.2.1.2, hplain.2.1.1⟩
  · exact ⟨by show "" ∉ _; decide, by show "" ∉ _; decide⟩

/-! ## Tokens with their places -/

/-- Tokens of names behind points. -/
theorem pointed_of_tokens : ∀ (words : List String) (ls : List Lexeme),
    ls.map Lexeme.token = (words.flatMap fun word => [.sign ".", .word word none]) →
      ∃ ps, ls = pointed ps ∧ ps.map (fun p => p.2.1) = words
  | [], ls, h => ⟨[], by simpa [pointed] using h, rfl⟩
  | word :: words, ls, h => by
    rw [List.flatMap_cons, List.map_eq_append_iff] at h
    obtain ⟨l₁, l₂, rfl, h₁, h₂⟩ := h
    obtain ⟨ps, rfl, hps⟩ := pointed_of_tokens words l₂ h₂
    simp only [List.map_eq_cons_iff, List.map_eq_nil_iff] at h₁
    obtain ⟨⟨t, sp⟩, l, rfl, rfl, ⟨t', sp'⟩, l', rfl, rfl, rfl⟩ := h₁
    exact ⟨(sp, word, sp') :: ps, by simp [pointed], by simp [hps]⟩

/-- Tokens of texts behind commas. -/
theorem moreTexts_of_tokens : ∀ (more : List String) (ls : List Lexeme),
    ls.map Lexeme.token = (more.flatMap fun v => [.sign ",", PredicateForm.textToken dialect v]) →
      ∃ items, ls = moreTexts items ∧ textExprs items = more.map (textExpr dialect)
  | [], ls, h => ⟨[], by simpa [moreTexts] using h, rfl⟩
  | value :: more, ls, h => by
    rw [List.flatMap_cons, List.map_eq_append_iff] at h
    obtain ⟨l₁, l₂, rfl, h₁, h₂⟩ := h
    obtain ⟨items, rfl, hitems⟩ := moreTexts_of_tokens more l₂ h₂
    simp only [List.map_eq_cons_iff, List.map_eq_nil_iff] at h₁
    obtain ⟨⟨t, sp⟩, l, rfl, rfl, ⟨t', sp'⟩, l', rfl, rfl, rfl⟩ := h₁
    refine ⟨(sp, heldLiteral dialect value, sp') :: items, by simp [moreTexts, PredicateForm.textToken], ?_⟩
    simp only [textExprs] at hitems
    simp [textExprs, textExpr, hitems]

/-- Tokens of a key. -/
theorem column_of_tokens {key : String} {ks : List Lexeme} (h : ks.map Lexeme.token = columnTokens dialect key) :
    ∃ sp ps, ks = ⟨.word (keyWords dialect key).1.1 (keyWords dialect key).1.2, sp⟩ :: pointed ps ∧
      ps.map (fun p => p.2.1) = (keyWords dialect key).2 := by
  rw [columnTokens, List.map_eq_cons_iff] at h
  obtain ⟨⟨t, sp⟩, ls, rfl, rfl, h⟩ := h
  obtain ⟨ps, rfl, hps⟩ := pointed_of_tokens _ ls h
  exact ⟨sp, ps, rfl, hps⟩


/-! ## Reading -/

/-- The column of a key, with places for its names. -/
def keyColumn (dialect : Dialect) (key : String) (at_ : Option Text.Span) (places : List (Option Text.Span)) : Expr :=
  let first : Ident := ⟨(keyWords dialect key).1.1, (keyWords dialect key).1.2, at_⟩
  if keyKeyword dialect key ∈ bareWords dialect then .bareCall [first]
  else columnExpr first (((keyWords dialect key).2.zip places).map fun (word, place) => ⟨word, none, place⟩)

theorem pointedIdents_eq (ps : List (Text.Span × String × Text.Span)) :
    pointedIdents ps =
      ((ps.map fun p => p.2.1).zip (ps.map fun p => some p.2.2)).map fun (word, place) => ⟨word, none, place⟩ := by
  induction ps with
  | nil => rfl
  | cons p ps ih =>
    simp only [pointedIdents] at ih
    simp [pointedIdents, ih]

/-- The tokens of a readable key are a column. -/
theorem column_of_readable {key : String} {form : PredicateForm} (h : Readable dialect key form) {ks : List Lexeme}
    (hks : ks.map Lexeme.token = columnTokens dialect key) :
    ∃ at_ places, places.length = (keyWords dialect key).2.length ∧
      Column dialect ks (keyColumn dialect key at_ places) := by
  obtain ⟨sp, ps, rfl, hps⟩ := column_of_tokens hks
  obtain ⟨hw, hr⟩ := keyKeyword_unreserved dialect key
  refine ⟨some sp, ps.map fun p => some p.2.2, by rw [← hps, List.length_map, List.length_map], ?_⟩
  unfold keyColumn
  split
  · rename_i hb
    have hrest := h.bareAlone hb
    rw [hrest, List.map_eq_nil_iff] at hps
    subst hps
    have hquote : (keyWords dialect key).1.2 = none := by
      cases hq : (keyWords dialect key).1.2 with
      | none => rfl
      | some q =>
        have hempty : keyKeyword dialect key = "" := by
          unfold keyKeyword
          rw [hq]
          rfl
        have hnot : "" ∉ bareWords dialect := by cases dialect <;> decide
        exact absurd (hempty ▸ hb) hnot
    unfold keyKeyword at hb
    rw [hquote] at hb ⊢
    exact .bare _ sp hb
  · rename_i hb
    rw [← hps, ← pointedIdents_eq]
    exact .plain _ _ sp ps hw hr hb h.notStubborn

/-- The name of the matching function, with a place. -/
def matchIdent (dialect : Dialect) (at_ : Option Text.Span) : Ident := ⟨matchFunction dialect, none, at_⟩

theorem notRepeating_head {key : String} {form : PredicateForm} (h : Readable dialect key form)
    (hm : form.isMatching = true) {ks : List Lexeme} (hks : ks.map Lexeme.token = columnTokens dialect key) :
    ∀ l ∈ ks.head?, ∀ word ∈ repeatWords, l.token.keyword? ≠ some word := by
  obtain ⟨sp, ps, rfl, -⟩ := column_of_tokens hks
  intro l hl word hword hk
  obtain rfl := Option.some.inj hl
  refine h.notRepeating hm ?_
  unfold keyKeyword keywordOf
  dsimp only at hk
  rw [hk]
  exact hword

/-- The tokens of a readable predicate are read as the expression of its form. -/
theorem reads_of_readable {key : String} {form : PredicateForm} (h : Readable dialect key form) (hknown : form.Known)
    {ls : List Lexeme} (hls : ls.map Lexeme.token = form.tokens dialect (columnTokens dialect key)) :
    ∃ at_ places fat, places.length = (keyWords dialect key).2.length ∧
      Reads dialect ls (formExpr dialect (keyColumn dialect key at_ places) (matchIdent dialect fat) form) := by
  cases form with
  | compare op value =>
    rw [PredicateForm.tokens, List.map_eq_append_iff] at hls
    obtain ⟨ks, rs, rfl, hks, hrs⟩ := hls
    simp only [List.map_eq_cons_iff, List.map_eq_nil_iff] at hrs
    obtain ⟨⟨t, sp⟩, l, rfl, rfl, ⟨t', sp'⟩, l', rfl, rfl, rfl⟩ := hrs
    obtain ⟨at_, places, hp, hc⟩ := column_of_readable h hks
    exact ⟨at_, places, none, hp, .comparison hc hknown sp sp' _⟩
  | isNull negated =>
    cases negated
    · rw [PredicateForm.tokens, List.map_eq_append_iff] at hls
      obtain ⟨ks, rs, rfl, hks, hrs⟩ := hls
      simp only [List.map_eq_cons_iff, List.map_eq_nil_iff] at hrs
      obtain ⟨⟨t, sp⟩, l, rfl, rfl, ⟨t', sp'⟩, l', rfl, rfl, rfl⟩ := hrs
      obtain ⟨at_, places, hp, hc⟩ := column_of_readable h hks
      exact ⟨at_, places, none, hp, .isNull hc sp sp'⟩
    · rw [PredicateForm.tokens, List.map_eq_append_iff] at hls
      obtain ⟨ks, rs, rfl, hks, hrs⟩ := hls
      simp only [List.map_eq_cons_iff, List.map_eq_nil_iff] at hrs
      obtain ⟨⟨t, sp⟩, l, rfl, rfl, ⟨t', sp'⟩, l', rfl, rfl, ⟨t'', sp''⟩, l'', rfl, rfl, rfl⟩ := hrs
      obtain ⟨at_, places, hp, hc⟩ := column_of_readable h hks
      exact ⟨at_, places, none, hp, .isNotNull hc sp sp' sp''⟩
  | isIn negated value more =>
    cases negated
    · rw [PredicateForm.tokens, List.map_eq_append_iff] at hls
      obtain ⟨ks, rs, rfl, hks, hrs⟩ := hls
      simp only [List.map_eq_cons_iff, List.map_eq_append_iff, List.map_eq_nil_iff] at hrs
      obtain ⟨⟨t, sp⟩, l, rfl, rfl, ⟨t', o⟩, l', rfl, rfl, ⟨t'', sp'⟩, l'', rfl, rfl, ms, cl, rfl, hms, ⟨u, c⟩, _, rfl,
        rfl, rfl⟩ := hrs
      obtain ⟨at_, places, hp, hcol⟩ := column_of_readable h hks
      obtain ⟨items, rfl, hitems⟩ := moreTexts_of_tokens more ms hms
      refine ⟨at_, places, none, hp, ?_⟩
      have hreads := Reads.isIn hcol sp o c (sp', heldLiteral dialect value, sp') items
      rw [show textExprs ((sp', heldLiteral dialect value, sp') :: items) = (value :: more).map (textExpr dialect) by
        rw [List.map_cons, ← hitems]; rfl] at hreads
      exact hreads
    · rw [PredicateForm.tokens, List.map_eq_append_iff] at hls
      obtain ⟨ks, rs, rfl, hks, hrs⟩ := hls
      simp only [List.map_eq_cons_iff, List.map_eq_append_iff, List.map_eq_nil_iff] at hrs
      obtain ⟨⟨t₀, nsp⟩, l₀, rfl, rfl, ⟨t, sp⟩, l, rfl, rfl, ⟨t', o⟩, l', rfl, rfl, ⟨t'', sp'⟩, l'', rfl, rfl, ms, cl, rfl,
        hms, ⟨u, c⟩, _, rfl, rfl, rfl⟩ := hrs
      obtain ⟨at_, places, hp, hcol⟩ := column_of_readable h hks
      obtain ⟨items, rfl, hitems⟩ := moreTexts_of_tokens more ms hms
      refine ⟨at_, places, none, hp, ?_⟩
      have hreads := Reads.isNotIn hcol nsp sp o c (sp', heldLiteral dialect value, sp') items
      rw [show textExprs ((sp', heldLiteral dialect value, sp') :: items) = (value :: more).map (textExpr dialect) by
        rw [List.map_cons, ← hitems]; rfl] at hreads
      exact hreads
  | isMatch negated value =>
    cases negated
    · rw [PredicateForm.tokens] at hls
      simp only [List.map_eq_cons_iff, List.map_eq_append_iff, List.map_eq_nil_iff] at hls
      obtain ⟨⟨t, fsp⟩, l, rfl, rfl, ⟨t', o⟩, l', rfl, rfl, ks, rs, rfl, hks, ⟨t'', comma⟩, l'', rfl, rfl, ⟨u, sp⟩, m, rfl,
        rfl, ⟨u', c⟩, m', rfl, rfl, rfl⟩ := hls
      obtain ⟨at_, places, hp, hcol⟩ := column_of_readable h hks
      exact ⟨at_, places, some fsp, hp, .isMatch hcol (notRepeating_head h rfl hks) fsp o comma sp c _⟩
    · rw [PredicateForm.tokens] at hls
      simp only [List.map_eq_cons_iff, List.map_eq_append_iff, List.map_eq_nil_iff] at hls
      obtain ⟨⟨t₀, nsp⟩, l₀, rfl, rfl, ⟨t, fsp⟩, l, rfl, rfl, ⟨t', o⟩, l', rfl, rfl, ks, rs, rfl, hks, ⟨t'', comma⟩, l'',
        rfl, rfl, ⟨u, sp⟩, m, rfl, rfl, ⟨u', c⟩, m', rfl, rfl, rfl⟩ := hls
      obtain ⟨at_, places, hp, hcol⟩ := column_of_readable h hks
      exact ⟨at_, places, some fsp, hp, .isNoMatch hcol (notRepeating_head h rfl hks) nsp fsp o comma sp c _⟩


/-- A key whose tokens are a column gives a readable predicate, unless it is a match. -/
theorem readable_of_column {key : String} {form : PredicateForm} {sp : Text.Span}
    {ps : List (Text.Span × String × Text.Span)} {c : Expr} (hps : ps.map (fun p => p.2.1) = (keyWords dialect key).2)
    (hc : Column dialect (⟨.word (keyWords dialect key).1.1 (keyWords dialect key).1.2, sp⟩ :: pointed ps) c)
    (hm : form.isMatching = true → keyKeyword dialect key ∉ repeatWords) : Readable dialect key form := by
  generalize hls : (⟨.word (keyWords dialect key).1.1 (keyWords dialect key).1.2, sp⟩ :: pointed ps : List Lexeme) = ls at hc
  cases hc with
  | bare text sp' hw =>
    obtain ⟨hl, hnil⟩ := List.cons.inj hls
    have hstub : ∀ d, ∀ w ∈ bareWords d, w ∉ stubbornWords d := by
      intro d
      cases d <;> decide
    have hkey : keyKeyword dialect key = keywordOf text none := by
      simp only [Lexeme.mk.injEq, Token.word.injEq] at hl
      rw [keyKeyword, hl.1.1, hl.1.2]
    refine ⟨hkey ▸ hstub dialect _ hw, fun _ => ?_, hm⟩
    rw [← hps]
    cases ps with
    | nil => rfl
    | cons p ps => simp [pointed] at hnil
  | plain text quote sp' ps' hw hr hb hs =>
    obtain ⟨hl, -⟩ := List.cons.inj hls
    have hkey : keyKeyword dialect key = keywordOf text quote := by
      simp only [Lexeme.mk.injEq, Token.word.injEq] at hl
      rw [keyKeyword, hl.1.1, hl.1.2]
    exact ⟨hkey ▸ hs, fun h => absurd (hkey ▸ h) hb, hm⟩

/-- A predicate that is read is readable, unless its first word is read as a name and the rest is left. -/
theorem readable_or_stuck (depth level : Nat) {key : String} {form : PredicateForm} (hknown : form.Known)
    {ls rest r : List Lexeme} {e : Expr} (hls : ls.map Lexeme.token = form.tokens dialect (columnTokens dialect key))
    (hs : Stops rest) (hok : exprAbove (grammar dialect (depth + 2)) level (ls ++ rest) = .ok (e, r)) :
    Readable dialect key form ∨ Stuck dialect r := by
  obtain ⟨hw, hr⟩ := keyKeyword_unreserved dialect key
  have hkeyword : ∀ {quote : Option Char}, (keyWords dialect key).1.2 = quote →
      (∀ word ∈ repeatWords, (Token.word (keyWords dialect key).1.1 quote).keyword? ≠ some word) →
      keyKeyword dialect key ∉ repeatWords := by
    intro quote hq hwords hm
    unfold keyKeyword keywordOf at hm
    rw [hq] at hm
    cases quote with
    | some q => exact absurd (show "" ∈ repeatWords from hm) (by decide)
    | none => exact hwords _ hm rfl
  -- a column in front of a comparison, a test or a list
  have hcolumn : ∀ {ks rs : List Lexeme}, ks.map Lexeme.token = columnTokens dialect key → Ends (rs ++ rest) →
      exprAbove (grammar dialect (depth + 2)) level (ks ++ (rs ++ rest)) = .ok (e, r) → form.isMatching = false →
      Readable dialect key form ∨ Stuck dialect r := by
    intro ks rs hks hends hok hm
    obtain ⟨sp, ps, rfl, hps⟩ := column_of_tokens hks
    cases hpoint : isSign "." r.head? with
    | false =>
      obtain ⟨c, hc⟩ := column_of_exprAbove hw hr hends hok hpoint
      exact .inl (readable_of_column hps hc (by simp [hm]))
    | true =>
      cases r with
      | nil => cases hpoint
      | cons l r => exact .inr ⟨l, r, rfl, .inl (by simpa [isSign] using hpoint)⟩
  cases form with
  | compare op value =>
    rw [PredicateForm.tokens, List.map_eq_append_iff] at hls
    obtain ⟨ks, rs, rfl, hks, hrs⟩ := hls
    simp only [List.map_eq_cons_iff, List.map_eq_nil_iff] at hrs
    obtain ⟨⟨t, sp⟩, l, rfl, rfl, ⟨t', sp'⟩, l', rfl, rfl, rfl⟩ := hrs
    rw [List.append_assoc] at hok
    exact hcolumn hks (ends_comparison hknown sp sp' _) hok rfl
  | isNull negated =>
    cases negated
    all_goals
      rw [PredicateForm.tokens, List.map_eq_append_iff] at hls
      obtain ⟨ks, rs, rfl, hks, hrs⟩ := hls
      rw [List.map_eq_cons_iff] at hrs
      obtain ⟨⟨t, sp⟩, l, rfl, rfl, -⟩ := hrs
      rw [List.append_assoc] at hok
      exact hcolumn hks ⟨.is .., rfl⟩ hok rfl
  | isIn negated value more =>
    cases negated
    · rw [PredicateForm.tokens, List.map_eq_append_iff] at hls
      obtain ⟨ks, rs, rfl, hks, hrs⟩ := hls
      rw [List.map_eq_cons_iff] at hrs
      obtain ⟨⟨t, sp⟩, l, rfl, rfl, -⟩ := hrs
      rw [List.append_assoc] at hok
      exact hcolumn hks ⟨.inWord .., rfl⟩ hok rfl
    · rw [PredicateForm.tokens, List.map_eq_append_iff] at hls
      obtain ⟨ks, rs, rfl, hks, hrs⟩ := hls
      rw [List.map_eq_cons_iff] at hrs
      obtain ⟨⟨t, sp⟩, l, rfl, rfl, -⟩ := hrs
      rw [List.append_assoc] at hok
      exact hcolumn hks ⟨.not .., rfl⟩ hok rfl
  | isMatch negated value =>
    cases negated
    · rw [PredicateForm.tokens] at hls
      simp only [List.map_eq_cons_iff, List.map_eq_append_iff, List.map_eq_nil_iff] at hls
      obtain ⟨⟨t, fsp⟩, l, rfl, rfl, ⟨t', o⟩, l', rfl, rfl, ks, rs, rfl, hks, ⟨t'', comma⟩, l'', rfl, rfl, ⟨u, sp⟩, m, rfl,
        rfl, ⟨u', c⟩, m', rfl, rfl, rfl⟩ := hls
      obtain ⟨spk, ps, rfl, hps⟩ := column_of_tokens hks
      simp only [List.cons_append, List.append_assoc, List.nil_append] at hok
      obtain ⟨⟨c, hc⟩, hwords⟩ := column_of_match hw hr hs hok
      exact .inl (readable_of_column hps hc fun _ => hkeyword rfl hwords)
    · rw [PredicateForm.tokens] at hls
      simp only [List.map_eq_cons_iff, List.map_eq_append_iff, List.map_eq_nil_iff] at hls
      obtain ⟨⟨t₀, nsp⟩, l₀, rfl, rfl, ⟨t, fsp⟩, l, rfl, rfl, ⟨t', o⟩, l', rfl, rfl, ks, rs, rfl, hks, ⟨t'', comma⟩, l'',
        rfl, rfl, ⟨u, sp⟩, m, rfl, rfl, ⟨u', c⟩, m', rfl, rfl, rfl⟩ := hls
      obtain ⟨spk, ps, rfl, hps⟩ := column_of_tokens hks
      simp only [List.cons_append, List.append_assoc, List.nil_append] at hok
      rcases column_of_notMatch hw hr hs hok with ⟨⟨c, hc⟩, hwords⟩ | hstuck
      · exact .inl (readable_of_column hps hc fun _ => hkeyword rfl hwords)
      · exact .inr hstuck

/-- A predicate that is read to its end is readable. -/
theorem readable_of_read (depth : Nat) {key : String} {form : PredicateForm} (hknown : form.Known) {ls : List Lexeme}
    {e : Expr} (hls : ls.map Lexeme.token = form.tokens dialect (columnTokens dialect key))
    (hok : exprAbove (grammar dialect (depth + 2)) 0 ls = .ok (e, [])) : Readable dialect key form := by
  rw [← List.append_nil ls] at hok
  rcases readable_or_stuck depth 0 hknown hls .nil hok with h | ⟨_, _, h, -⟩
  · exact h
  · cases h

/-! ## Writing -/

theorem exprTexts_eq (es : List Expr) : exprTexts es = es.map Expr.toSql := by
  induction es with
  | nil => rfl
  | cons e es ih => rw [exprTexts, ih, List.map_cons]

/-- A value is written as the literal that it was read from. -/
theorem textExpr_toSql (dialect : Dialect) (value : String) : (textExpr dialect value).toSql = stringLiteral dialect value := by
  have hread := readQuoted_literal dialect value.toList
  have hbody := quotedBody_of_readQuoted hread '\x00'
  simp only [textExpr, Expr.toSql_literal, Literal.toSql, writeQuoted, heldLiteral, String.toList_ofList, hbody, stringLiteral]

theorem zip_places_toSql : ∀ (words : List String) (places : List (Option Text.Span)), places.length = words.length →
    ((words.zip places).map fun (word, place) => (⟨word, none, place⟩ : Ident)).map Ident.toSql = words
  | [], _, _ => by simp
  | word :: words, [], h => by simp at h
  | word :: words, place :: places, h => by
    have ih := zip_places_toSql words places (by simpa using h)
    simp only [List.map_map] at ih
    simp [Ident.toSql, ih]

theorem intercalate_point (part : List Char) : ∀ parts : List (List Char),
    String.intercalate "." (String.ofList part :: parts.map String.ofList) = String.ofList (part ++ pointedParts parts)
  | [] => by simp [pointedParts]
  | part' :: parts => by
    rw [List.map_cons, String.intercalate_cons_cons, intercalate_point part' parts]
    simp only [pointedParts, List.flatMap_cons, ← String.toList_inj, String.toList_append, String.toList_ofList]
    simp

/-- A column is written as the key that it was read from. -/
theorem keyColumn_toSql {key text : String} {form : PredicateForm} (hk : quoteKey dialect key = .ok text)
    (h : Readable dialect key form) (at_ : Option Text.Span) {places : List (Option Text.Span)}
    (hp : places.length = (keyWords dialect key).2.length) : (keyColumn dialect key at_ places).toSql = text := by
  have hwords : Name.toSql (⟨(keyWords dialect key).1.1, (keyWords dialect key).1.2, at_⟩ ::
      ((keyWords dialect key).2.zip places).map fun (word, place) => ⟨word, none, place⟩) = text := by
    rw [Name.toSql, List.map_cons, zip_places_toSql _ _ hp]
    unfold quoteKey at hk
    unfold keyWords
    split at hk
    · cases hk
    · split at hk
      · rename_i hplain
        cases hk
        rw [if_pos hplain]
        obtain ⟨part, parts, hparts, hkey⟩ := keyParts_join key.toList
        rw [hparts]
        dsimp only [Ident.toSql]
        rw [intercalate_point, ← hkey, String.ofList_toList]
      · rename_i hplain
        cases hk
        rw [if_neg hplain]
        have hbody := quotedBody_of_readQuoted (readQuoted_doubled (q := nameQuote dialect) key.toList) '\x00'
        simp only [Ident.toSql, writeQuoted, String.toList_ofList, hbody, String.intercalate_singleton]
  unfold keyColumn
  split
  · rename_i hb
    rw [h.bareAlone hb] at hwords
    exact hwords
  · cases hrest : ((keyWords dialect key).2.zip places).map
        (fun (word, place) => (⟨word, none, place⟩ : Ident)) with
    | nil =>
      rw [hrest] at hwords
      simpa [columnExpr, Name.toSql] using hwords
    | cons i is =>
      rw [hrest] at hwords
      exact hwords

/-- A predicate is written as its text, with the sign that is written for "different". -/
theorem formExpr_toSql {column : Expr} {at_ : Option Text.Span} (form : PredicateForm) :
    (formExpr dialect column (matchIdent dialect at_) form).toSql = form.text BinaryOp.toSql dialect column.toSql := by
  have hcall (value : String) : (matchCall (matchIdent dialect at_) column (heldLiteral dialect value)).toSql =
      matchFunction dialect ++ "(" ++ column.toSql ++ ", " ++ stringLiteral dialect value ++ ")" := by
    have hliteral := textExpr_toSql dialect value
    rw [textExpr, Expr.toSql_literal] at hliteral
    simp [matchCall, matchArgs, ArgList.toSql, Arg.toSql, argTexts, optArgListText, optPhraseText, Name.toSql,
      matchIdent, Ident.toSql, wordIf, withLead, argLabel, commaJoin, hliteral, String.append_assoc, phraseTexts]
  cases form with
  | compare op value => rw [formExpr, Expr.toSql_binary, textExpr_toSql, PredicateForm.text]
  | isNull negated => cases negated <;> simp [formExpr, Property.toSql, PredicateForm.text, String.append_assoc]
  | isIn negated value more =>
    rw [formExpr, Expr.toSql_inList, exprTexts_eq, List.map_map,
      show Expr.toSql ∘ textExpr dialect = stringLiteral dialect from funext (textExpr_toSql dialect), PredicateForm.text, commaJoin,
      wordIf]
  | isMatch negated value =>
    cases negated
    · rw [formExpr, hcall]
      simp [PredicateForm.text]
    · rw [formExpr, Expr.toSql_unary, hcall]
      simp [PredicateForm.text, UnaryOp.toSql, String.append_assoc]


/-! ## Trees -/

section Trees

open Service.Tree Json

/-- The tree of a key. -/
def keyTree (dialect : Dialect) (key : String) : Value :=
  let first := identTree ⟨(keyWords dialect key).1.1, (keyWords dialect key).1.2, none⟩
  if keyKeyword dialect key ∈ bareWords dialect then callTree (.array [first]) (.string "None")
  else match (keyWords dialect key).2 with
    | [] => node "Identifier" first
    | words => node "CompoundIdentifier" (.array (first :: words.map fun word => identTree ⟨word, none, none⟩))

theorem identTree_zip : ∀ (words : List String) (places : List (Option Text.Span)), places.length = words.length →
    ((words.zip places).map fun (word, place) => (⟨word, none, place⟩ : Ident)).map identTree =
      words.map fun word => identTree ⟨word, none, none⟩
  | [], _, _ => by simp
  | word :: words, [], h => by simp at h
  | word :: words, place :: places, h => by
    have ih := identTree_zip words places (by simpa using h)
    simp only [List.map_map] at ih
    simp [ih]
    rfl

/-- The places of a column do not show in its tree. -/
theorem exprTree_keyColumn {key : String} (at_ : Option Text.Span) {places : List (Option Text.Span)}
    (hp : places.length = (keyWords dialect key).2.length) :
    exprTree (keyColumn dialect key at_ places) = keyTree dialect key := by
  unfold keyColumn keyTree
  split
  · rw [exprTree_bareCall]
    rfl
  · have hmap := identTree_zip _ _ hp
    cases hw : (keyWords dialect key).2 with
    | nil =>
      simp only [List.zip_nil_left, List.map_nil]
      exact exprTree_ident _
    | cons word words =>
      rw [hw] at hmap hp
      cases places with
      | nil => simp at hp
      | cons place places =>
        simp only [List.zip_cons_cons, List.map_cons, columnExpr] at hmap ⊢
        rw [exprTree_compound, List.map_cons, List.map_cons, hmap]
        rfl

/-- The tree of a form, given that of its column. -/
def formTree (dialect : Dialect) (column : Value) : PredicateForm → Value
  | .compare op value => nodeOf "BinaryOp" [("left", column), ("op", (binaryOpValue op).overwrite Value.spans),
      ("right", exprTree (textExpr dialect value))]
  | .isNull negated => node (propertyName (if negated then .notNull else .null)) column
  | .isIn negated value more => nodeOf "InList" [("expr", column),
      ("list", .array ((value :: more).map fun v => exprTree (textExpr dialect v))), ("negated", .bool negated)]
  | .isMatch negated value =>
    let call := callTree (.array [identTree (matchIdent dialect none)]) (argumentsTree [column, exprTree (textExpr dialect value)])
    if negated then nodeOf "UnaryOp" [("op", .string "Not"), ("expr", call)] else call

/-- The tree of a predicate is that of its form. -/
theorem exprTree_formExpr (column : Expr) (at_ : Option Text.Span) (form : PredicateForm) :
    exprTree (formExpr dialect column (matchIdent dialect at_) form) = formTree dialect (exprTree column) form := by
  have hcall (value : String) : exprTree (matchCall (matchIdent dialect at_) column (heldLiteral dialect value)) =
      callTree (.array [identTree (matchIdent dialect none)])
        (argumentsTree [exprTree column, exprTree (textExpr dialect value)]) :=
    exprTree_plainCall [matchIdent dialect at_] [column, textExpr dialect value]
  cases form with
  | compare op value => exact exprTree_binary column _ op
  | isNull negated => exact exprTree_is column _
  | isIn negated value more =>
    rw [formExpr, exprTree_inList, List.map_map, formTree]
    rfl
  | isMatch negated value =>
    cases negated
    · exact hcall value
    · rw [formExpr, exprTree_unary, hcall]
      rfl

/-! ## Literals -/

theorem literals_identTree (name : Ident) : (identTree name).literals = [] := by
  cases hq : name.quote <;>
    simp [-String.lt_iff_ltb, identTree, hq, Value.ofMembers, insertMember, Value.optString]

theorem literals_items {l : List Value} (h : ∀ v ∈ l, v.literals = []) : (Value.array l).literals = [] := by
  rw [Value.literals_array]
  exact List.flatMap_eq_nil_iff.2 h

theorem literals_callTree (names args : Value) :
    (callTree names args).literals = args.literals ++ names.literals := by
  simp [-String.lt_iff_ltb, callTree, nodeOf, node, Value.ofMembers, insertMember]

theorem literals_keyTree (dialect : Dialect) (key : String) : (keyTree dialect key).literals = [] := by
  unfold keyTree
  dsimp only
  split
  · rw [literals_callTree, literals_items (by simp [literals_identTree])]
    rfl
  · split
    · simp [node, literals_identTree]
    · rename_i words hne
      have hitems : (Value.array (identTree ⟨(keyWords dialect key).1.1, (keyWords dialect key).1.2, none⟩ ::
          (keyWords dialect key).2.map fun word => identTree ⟨word, none, none⟩)).literals = [] := by
        refine literals_items fun v hv => ?_
        simp only [List.mem_cons, List.mem_map] at hv
        rcases hv with rfl | ⟨word, -, rfl⟩ <;> exact literals_identTree _
      simpa [node] using hitems

theorem literals_textExpr (value : String) :
    (exprTree (textExpr dialect value)).literals = [heldLiteral dialect value] := by
  rw [textExpr, exprTree_literal]
  simp [node]

theorem literals_binaryOpValue (op : BinaryOp) : (binaryOpValue op).literals = [] := by
  cases op with
  | named parts => simp [binaryOpValue, node]
  | _ => rfl

/-- The literals of a predicate are those of its values. -/
theorem literals_formTree {column : Value} (hc : column.literals = []) (form : PredicateForm) :
    (formTree dialect column form).literals = form.values.map (heldLiteral dialect) := by
  have hcall (value : String) : (callTree (.array [identTree (matchIdent dialect none)])
      (argumentsTree [column, exprTree (textExpr dialect value)])).literals = [heldLiteral dialect value] := by
    rw [literals_callTree, literals_items (by simp [literals_identTree])]
    simp [-String.lt_iff_ltb, argumentsTree, nodeOf, node, Value.ofMembers, insertMember, hc, literals_textExpr]
  cases form with
  | compare op value =>
    rw [formTree, overwrite_binaryOpValue (by simp [Value.spans])]
    simp [-String.lt_iff_ltb, nodeOf, node, Value.ofMembers, insertMember, hc, literals_binaryOpValue,
      literals_textExpr, PredicateForm.values]
  | isNull negated =>
    cases negated <;>
      simp [formTree, node, propertyName, hc, PredicateForm.values]
  | isIn negated value more =>
    simp [-String.lt_iff_ltb, formTree, nodeOf, node, Value.ofMembers, insertMember, hc, PredicateForm.values,
      List.flatMap_map, literals_textExpr, ← List.map_eq_flatMap]
  | isMatch negated value =>
    cases negated
    · exact hcall value
    · simp [-String.lt_iff_ltb, formTree, nodeOf, node, Value.ofMembers, insertMember, hcall, PredicateForm.values]

/-- A form with its values blotted out. -/
def PredicateForm.blank : PredicateForm → PredicateForm
  | .compare op _ => .compare op ""
  | .isNull negated => .isNull negated
  | .isIn negated _ more => .isIn negated "" (more.map fun _ => "")
  | .isMatch negated _ => .isMatch negated ""

theorem blanked_textExpr (dialect : Dialect) (value : String) :
    (exprTree (textExpr dialect value)).blanked = exprTree (textExpr dialect "") := by
  have hempty : heldLiteral dialect "" = "" := by cases dialect <;> rfl
  rw [textExpr, textExpr, exprTree_literal, exprTree_literal, hempty, Value.blanked,
    overwrite_node (by simp [Value.quotedTexts])]
  simp [node, Value.quotedTexts]

theorem blanked_identTree (name : Ident) : (identTree name).blanked = identTree name := by
  rw [identTree, Value.blanked, Value.overwrite_ofMembers]
  cases name.quote <;> simp [Value.quotedTexts, Value.optString]

theorem blanked_callTree (names args : Value) :
    (callTree names args).blanked = callTree names.blanked args.blanked := by
  rw [callTree, Value.blanked, overwrite_nodeOf (by simp [Value.quotedTexts])]
  simp [Value.quotedTexts, callTree, Value.blanked]

theorem blanked_keyTree (dialect : Dialect) (key : String) : (keyTree dialect key).blanked = keyTree dialect key := by
  have hnames (names : List Ident) : (Value.array (names.map identTree)).blanked = .array (names.map identTree) := by
    rw [Value.blanked, Value.overwrite_array, List.map_map]
    exact congrArg Value.array (List.map_congr_left fun name _ => blanked_identTree name)
  unfold keyTree
  dsimp only
  split
  · rw [blanked_callTree]
    exact congrArg (callTree · _) (hnames [_])
  · split
    · rw [Value.blanked, overwrite_node (by simp [Value.quotedTexts])]
      exact congrArg (node _) (blanked_identTree _)
    · rw [Value.blanked, overwrite_node (by simp [Value.quotedTexts])]
      have h := hnames (⟨(keyWords dialect key).1.1, (keyWords dialect key).1.2, none⟩ ::
        (keyWords dialect key).2.map fun word => ⟨word, none, none⟩)
      rw [List.map_cons, List.map_map] at h
      exact congrArg (node _) h

/-- Blotting out the texts of a predicate's tree leaves the tree of its form with its values blotted out. -/
theorem blanked_formTree {column : Value} (hc : column.blanked = column) (form : PredicateForm) :
    (formTree dialect column form).blanked = formTree dialect column form.blank := by
  have hcall (value : String) : (callTree (.array [identTree (matchIdent dialect none)])
      (argumentsTree [column, exprTree (textExpr dialect value)])).blanked =
      callTree (.array [identTree (matchIdent dialect none)]) (argumentsTree [column, exprTree (textExpr dialect "")]) := by
    have hargs : (argumentsTree [column, exprTree (textExpr dialect value)]).blanked =
        argumentsTree [column, exprTree (textExpr dialect "")] := by
      have hv := blanked_textExpr dialect value
      rw [Value.blanked] at hc hv
      rw [argumentsTree, Value.blanked, overwrite_nodeOf (by simp [Value.quotedTexts])]
      simp [Value.quotedTexts, overwrite_node, hc, hv, argumentsTree]
    have hname : (Value.array [identTree (matchIdent dialect none)]).blanked = .array [identTree (matchIdent dialect none)] := by
      rw [Value.blanked, Value.overwrite_array]
      exact congrArg (fun v => Value.array [v]) (blanked_identTree _)
    rw [blanked_callTree, hargs, hname]
  cases form with
  | compare op value =>
    have hop : ((binaryOpValue op).overwrite Value.spans).overwrite Value.quotedTexts =
        (binaryOpValue op).overwrite Value.spans := by
      rw [overwrite_binaryOpValue (by simp [Value.spans]), overwrite_binaryOpValue (by simp [Value.quotedTexts])]
    have hv := blanked_textExpr dialect value
    rw [Value.blanked] at hc hv
    rw [formTree, Value.blanked, overwrite_nodeOf (by simp [Value.quotedTexts])]
    simp [Value.quotedTexts, hc, hop, hv, PredicateForm.blank, formTree]
  | isNull negated =>
    rw [Value.blanked] at hc
    rw [formTree, Value.blanked, overwrite_node (by cases negated <;> simp [Value.quotedTexts, propertyName]), hc]
    rfl
  | isIn negated value more =>
    have hitems : ((value :: more).map fun v => exprTree (textExpr dialect v)).map Value.blanked =
        ("" :: more.map fun _ => "").map fun v => exprTree (textExpr dialect v) := by
      rw [List.map_map, List.map_cons, List.map_cons, List.map_map]
      exact congr (congrArg List.cons (blanked_textExpr dialect value)) (List.map_congr_left fun v _ => blanked_textExpr dialect v)
    have harray : (Value.array ((value :: more).map fun v => exprTree (textExpr dialect v))).overwrite Value.quotedTexts =
        .array (("" :: more.map fun _ => "").map fun v => exprTree (textExpr dialect v)) := by
      rw [Value.overwrite_array]
      exact congrArg Value.array hitems
    rw [Value.blanked] at hc
    rw [formTree, Value.blanked, overwrite_nodeOf (by simp [Value.quotedTexts])]
    generalize Value.array ((value :: more).map fun v => exprTree (textExpr dialect v)) = items at harray ⊢
    simp only [List.map_cons, List.map_nil, harray, hc]
    rfl
  | isMatch negated value =>
    cases negated
    · exact hcall value
    · have hcall := hcall value
      rw [Value.blanked] at hcall
      rw [formTree, Value.blanked]
      simp only [if_true]
      rw [overwrite_nodeOf (by simp [Value.quotedTexts])]
      simp [Value.quotedTexts, hcall, PredicateForm.blank, formTree]

end Trees

end SqlTemplate.Sql
