import SqlTemplate.Proofs.Regrouping

/-!
# Selections

A selection takes expressions from a table, or from none, under a condition or under none. Where these expressions are
trees of operators, its text is read as a selection again, and as the same one if and only if the operators are
bracketed by their levels.

* `Selection`: the selections, as statements.
* `Selection.reads`, `Selection.sound`: what is read from the text of a selection.
-/

namespace SqlTemplate.Sql

/-- A selection of expressions from a table, or from none, under a condition or under none. -/
structure Selection where
  word : Mark
  first : Expr
  more : List Expr
  table : Option Ident
  condition : Option Expr

namespace Selection

/-- The items of a selection. -/
def items (s : Selection) : List Expr := s.first :: s.more

/-- The expressions of a selection. -/
def exprs (s : Selection) : List Expr := s.items ++ s.condition.toList

/-- A table as the source of rows. -/
def sources (table : Option Ident) : List FromItem := table.toList.map fun t => ⟨.table [t] [] none [] false none [], []⟩

/-- The body of a selection. -/
def body (word : Mark) (items : List SelectItem) (table : Option Ident) (condition : Option Expr) : Select :=
  { selectWord := word, distinct := none, top := none, items, into := none, from_ := sources table, lateralViews := [],
    prewhere := none, where_ := condition, groupByAll := false, groupBy := [], groupModifiers := [], clusterBy := [],
    distributeBy := [], sortBy := [], having := none, windows := [], qualify := none, windowsFirst := false,
    connectBy := none }

/-- A selection as a statement. -/
def statement (s : Selection) : Statement :=
  .query (Parser.Query.ofBody (.select (body s.word (s.items.map (.expr · none)) s.table s.condition)))

end Selection

namespace Parser

open Service.Tree Json

variable {dialect : Dialect} {g : Grammar} {ls rest r : List Lexeme} {depth fuel : Nat}

/-! ## Sources -/

/-- The words that start a source of rows that is no table. -/
def sourceWords : List String := ["LATERAL", "TABLE", "UNNEST"]

theorem acceptWord_false {l : Lexeme} {w : String} (h : l.token.keyword? ≠ some w) (rest : List Lexeme) :
    acceptWord w (l :: rest) = .ok (false, l :: rest) := by
  rw [acceptWord_cons, if_neg (by simpa using h)]

/-- What comes behind the table of a selection. -/
inductive BehindTable : List Lexeme → Prop
  | nil : BehindTable []
  | condition (sp : Text.Span) (rest : List Lexeme) : BehindTable (⟨.word "WHERE" none, sp⟩ :: rest)

variable {text : String}

theorem namedRelation_table (h : BehindTable rest) (sp : Text.Span) :
    namedRelation g (⟨.word text none, sp⟩ :: rest) =
      .ok (.table [⟨text, none, some sp⟩] [] none [] false none [], rest) := by
  obtain ⟨dialect, connecting, expr, relating, query, statement⟩ := g
  cases h with
  | nil => cases dialect <;> rfl
  | condition sp' rest => cases rest <;> cases dialect <;> rfl

theorem joins_none {relation : Parser Relation} (h : BehindTable rest) (fuel : Nat) :
    joins g relation fuel rest = .ok ([], rest) := by
  cases h <;> cases fuel <;> rfl

theorem plainRelation_table (hw : ∀ w ∈ sourceWords, (Token.word text none).keyword? ≠ some w) (h : BehindTable rest)
    (sp : Text.Span) :
    plainRelation g (⟨.word text none, sp⟩ :: rest) =
      .ok (.table [⟨text, none, some sp⟩] [] none [] false none [], rest) := by
  have hno {w : String} (hs : w ∈ sourceWords) := acceptWord_false (l := ⟨.word text none, sp⟩) (hw w hs) rest
  have hparen (w : String) : comesWithParen w (⟨.word text none, sp⟩ :: rest) =
      .ok (false, ⟨.word text none, sp⟩ :: rest) := by
    cases h with
    | nil => rfl
    | condition =>
      show Except.ok (isWord _ _ && isSign "(" _, _) = _
      simp [isSign]
  have hwithParen (w : String) : acceptWithParen w (⟨.word text none, sp⟩ :: rest) =
      .ok (false, ⟨.word text none, sp⟩ :: rest) := by
    unfold acceptWithParen
    rw [run_bind_ok (hparen w)]
    rfl
  have hunnest (b : Bool) : acceptWordIf b "UNNEST" (⟨.word text none, sp⟩ :: rest) =
      .ok (false, ⟨.word text none, sp⟩ :: rest) := by
    cases b with
    | false => rfl
    | true => exact hno (by decide)
  unfold plainRelation
  rw [run_bind_ok (hno (by decide)), if_neg (by decide), run_bind_ok (hno (by decide)), if_neg (by decide),
    run_bind_ok (hparen _), if_neg (by simp), run_bind_ok (hunnest _), if_neg (by decide),
    run_bind_ok (hwithParen _), if_neg (by decide), run_bind_ok (hwithParen _), if_neg (by decide)]
  exact namedRelation_table h sp

/-- A name is read as a table. -/
theorem fromItems_table (hw : ∀ w ∈ sourceWords, (Token.word text none).keyword? ≠ some w) (h : BehindTable rest)
    (sp : Text.Span) :
    commaSeparated (fromItem g) (⟨.word text none, sp⟩ :: rest) =
      .ok ([⟨.table [⟨text, none, some sp⟩] [] none [] false none [], []⟩], rest) := by
  have hrelation (fuel : Nat) : relationAt g (fuel + 1) (⟨.word text none, sp⟩ :: rest) =
      .ok (.table [⟨text, none, some sp⟩] [] none [] false none [], rest) := by
    rw [relationAt, run_bind_ok (a := false) (r := ⟨.word text none, sp⟩ :: rest) rfl, if_neg (by decide)]
    exact plainRelation_table hw h sp
  have hone : fromItem g (⟨.word text none, sp⟩ :: rest) =
      .ok (⟨.table [⟨text, none, some sp⟩] [] none [] false none [], []⟩, rest) := by
    unfold fromItem
    rw [run_bind_ok (a := rest.length + 1) (r := ⟨.word text none, sp⟩ :: rest) rfl, run_bind_ok (hrelation _),
      run_bind_ok (a := rest.length) (r := rest) rfl, run_bind_ok (joins_none h _)]
    rfl
  unfold commaSeparated
  rw [run_bind_ok hone]
  cases h <;> rfl

/-! ## Items -/

/-- What comes behind the items of a selection. -/
inductive BehindItems : List Lexeme → Prop
  | nil : BehindItems []
  | table (sp : Text.Span) (rest : List Lexeme) : BehindItems (⟨.word "FROM" none, sp⟩ :: rest)
  | condition (sp : Text.Span) (rest : List Lexeme) : BehindItems (⟨.word "WHERE" none, sp⟩ :: rest)

/-- What comes behind an item of a selection. -/
inductive BehindItem : List Lexeme → Prop
  | item (sp : Text.Span) (rest : List Lexeme) : BehindItem (⟨.sign ",", sp⟩ :: rest)
  | nil : BehindItem []
  | table (sp : Text.Span) (rest : List Lexeme) : BehindItem (⟨.word "FROM" none, sp⟩ :: rest)
  | condition (sp : Text.Span) (rest : List Lexeme) : BehindItem (⟨.word "WHERE" none, sp⟩ :: rest)

theorem BehindItems.behindItem (h : BehindItems rest) : BehindItem rest := by
  cases h with
  | nil => exact .nil
  | table sp rest => exact .table sp rest
  | condition sp rest => exact .condition sp rest

theorem BehindItem.closes (h : BehindItem rest) : Closes dialect rest := by
  cases h with
  | item => exact closes_cons (.sign (by decide))
  | nil => exact closes_nil
  | table | condition => exact closes_cons (.word (by decide))

theorem BehindItem.infixLevel (h : BehindItem rest) : infixLevel rest = 0 := by
  cases h <;> rfl

theorem BehindItem.noAlias (h : BehindItem rest) : optionalAlias reservedForColumnAlias rest = .ok (none, rest) := by
  cases h <;> rfl

theorem item_opens (h : Opens (ls.map Lexeme.token)) :
    item g ls = (do return .expr (← g.expr 0) : Parser Item) ls := by
  obtain ⟨⟨t, ht, -, hstar, -⟩, hpoint⟩ := h
  unfold item
  rw [run_bind_ok (a := ls) (r := ls) rfl]
  split
  · cases ht
    exact absurd rfl hstar
  · exact absurd rfl hpoint
  · rfl

/-- An item is an expression, which is not the word `from`. -/
theorem selectItem_ok {x : Expr} (hopens : Opens (ls.map Lexeme.token)) (hread : g.expr 0 ls = .ok (x, rest))
    (hfrom : x.namesFrom = false) (hrest : BehindItem rest) : selectItem g ls = .ok (.expr x none, rest) := by
  have hitem : item g ls = .ok (.expr x, rest) := by
    rw [item_opens hopens, run_bind_ok hread]
    rfl
  unfold selectItem
  rw [run_bind_ok hitem]
  dsimp only
  split
  · rename_i text _
    have hne : Text.lowerAscii text ≠ "from" := by simpa [Expr.namesFrom] using hfrom
    rw [if_neg hne, run_bind_ok hrest.noAlias]
    rfl
  · rw [run_bind_ok hrest.noAlias]
    rfl

theorem selectItem_inv {i : SelectItem} (hopens : Opens (ls.map Lexeme.token)) (hok : selectItem g ls = .ok (i, r)) :
    ∃ x mid label, g.expr 0 ls = .ok (x, mid) ∧ x.namesFrom = false ∧ i = .expr x label ∧
      optionalAlias reservedForColumnAlias mid = .ok (label, r) := by
  unfold selectItem at hok
  obtain ⟨found, mid, hitem, hok⟩ := bind_eq_ok hok
  rw [item_opens hopens] at hitem
  obtain ⟨x, mid', hread, hitem⟩ := bind_eq_ok hitem
  cases hitem
  dsimp only at hok
  split at hok
  · rename_i text _
    split at hok
    · cases hok
    · rename_i hne
      obtain ⟨label, mid', hlabel, hok⟩ := bind_eq_ok hok
      cases hok
      exact ⟨_, _, label, hread, by simpa [Expr.namesFrom] using hne, rfl, hlabel⟩
  · rename_i hname
    obtain ⟨label, mid', hlabel, hok⟩ := bind_eq_ok hok
    cases hok
    refine ⟨_, _, label, hread, ?_, rfl, hlabel⟩
    unfold Expr.namesFrom
    split
    · exact absurd rfl (hname _ _)
    · rfl

/-! ## Trees of operators as items -/

variable {e x : Expr} {ts : List Token} {n : Nat}

/-- What is read as an expression from the tokens of a tree takes all of them. -/
theorem OperatorTree.expr_sound (h : OperatorTree dialect e ts n) (hls : ls.map Lexeme.token = ts)
    (hrest : Closes dialect rest) (hzero : infixLevel rest = 0)
    (hok : (grammar dialect depth).expr 0 (ls ++ rest) = .ok (x, r)) :
    r = rest ∧ x.Bracketed ∧ x.Whole ∧ x.nests = e.nests ∧ (e.Bracketed → n < depth) := by
  have hdue : Due dialect (ls.map Lexeme.token) e.nests := by simpa [hls] using h.due .nil
  obtain ⟨⟨⟨left, m, rfl, hleft, hk⟩, -, hb, hw, -⟩, -, hstop⟩ :=
    grammar_sound dialect depth (by decide) hdue hrest hzero hok
  obtain ⟨rfl, rfl⟩ := (hleft.infixLevel_lt hzero).2 (Nat.le_zero.1 hstop)
  refine ⟨rfl, hb, hw, hk.symm, fun hbe => ?_⟩
  by_contra hdeep
  have hdeep : depth < n + 1 := by omega
  obtain ⟨fault, hfault⟩ := (h.readsFirst hbe hls).deeper_fails hdeep h.leftLevel_pos hrest
    (by rw [hzero]; exact Nat.zero_le _)
  rw [hfault] at hok
  cases hok

/-- A tree whose operators are bracketed is read as an expression. -/
theorem OperatorTree.expr_reads (h : OperatorTree dialect e ts n) (hls : ls.map Lexeme.token = ts) (hb : e.Bracketed)
    (hn : n < depth) (hrest : Closes dialect rest) (hzero : infixLevel rest = 0) :
    ∃ x, exprTree x = exprTree e ∧ (grammar dialect depth).expr 0 (ls ++ rest) = .ok (x, rest) :=
  (h.readsFirst hb hls).deeper hn h.leftLevel_pos hrest (by rw [hzero]; exact Nat.zero_le _) (by rw [hzero])

/-- What has been read from the tokens of a tree. -/
structure Read (depth : Nat) (e : Expr) (need : Nat) (x : Expr) : Prop where
  bracketed : x.Bracketed
  whole : x.Whole
  nests : x.nests = e.nests
  deep : e.Bracketed → need < depth

theorem OperatorTree.item_opens (h : OperatorTree dialect e ts n) (hls : ls.map Lexeme.token = ts)
    (hrest : BehindItem rest) : Opens ((ls ++ rest).map Lexeme.token) := by
  rw [List.map_append, hls]
  refine h.opens.append ?_
  cases hrest <;> simp

theorem OperatorTree.item_sound {i : SelectItem} (h : OperatorTree dialect e ts n) (hls : ls.map Lexeme.token = ts)
    (hrest : BehindItem rest) (hok : selectItem (grammar dialect depth) (ls ++ rest) = .ok (i, r)) :
    ∃ x, i = .expr x none ∧ r = rest ∧ Read depth e n x ∧ x.namesFrom = false := by
  obtain ⟨x, mid, label, hread, hfrom, rfl, hlabel⟩ := selectItem_inv (h.item_opens hls hrest) hok
  obtain ⟨rfl, hb, hw, hn, hd⟩ := h.expr_sound hls hrest.closes hrest.infixLevel hread
  rw [hrest.noAlias] at hlabel
  cases hlabel
  exact ⟨x, rfl, rfl, ⟨hb, hw, hn, hd⟩, hfrom⟩

theorem OperatorTree.item_reads (h : OperatorTree dialect e ts n) (hls : ls.map Lexeme.token = ts) (hb : e.Bracketed)
    (hn : n < depth) (hfrom : e.namesFrom = false) (hrest : BehindItem rest) :
    ∃ x, exprTree x = exprTree e ∧ selectItem (grammar dialect depth) (ls ++ rest) = .ok (.expr x none, rest) := by
  obtain ⟨x, htree, hread⟩ := h.expr_reads hls hb hn hrest.closes hrest.infixLevel
  refine ⟨x, htree, selectItem_ok (h.item_opens hls hrest) hread ?_ hrest⟩
  by_contra hx
  rw [namesFrom_of_tree h.whole htree (by simpa using hx)] at hfrom
  cases hfrom

/-- The tokens of items, each behind a comma. -/
def listTokens (tokens : Expr → List Token) (es : List Expr) : List Token := es.flatMap fun e => .sign "," :: tokens e

variable {es : List Expr} {tokens : Expr → List Token} {need : Expr → Nat}

theorem behindItem_list (hls : ls.map Lexeme.token = listTokens tokens es) (hrest : BehindItems rest) :
    BehindItem (ls ++ rest) := by
  cases es with
  | nil =>
    obtain rfl := List.map_eq_nil_iff.1 hls
    exact hrest.behindItem
  | cons e es =>
    obtain ⟨sp, ls, rfl, -⟩ := cons_of_tokens hls
    exact .item sp _

theorem repeatWhile_stop {p : Parser SelectItem} (hrest : BehindItems rest) (fuel : Nat) :
    repeatWhile (acceptSign ",") p fuel rest = .ok ([], rest) := by
  cases hrest <;> cases fuel <;> rfl

/-- The tokens of a list with one more item in front. -/
theorem listTokens_cons (hls : ls.map Lexeme.token = listTokens tokens (e :: es)) :
    ∃ sp us vs, ls = ⟨.sign ",", sp⟩ :: (us ++ vs) ∧ us.map Lexeme.token = tokens e ∧
      vs.map Lexeme.token = listTokens tokens es := by
  obtain ⟨sp, ls', rfl, hinside⟩ := cons_of_tokens hls
  obtain ⟨us, vs, rfl, hus, hvs⟩ := List.map_eq_append_iff.1 hinside
  exact ⟨sp, us, vs, rfl, hus, hvs⟩

theorem list_reads (hts : ∀ e ∈ es, OperatorTree dialect e (tokens e) (need e))
    (hstand : ∀ e ∈ es, e.Bracketed ∧ need e < depth ∧ e.namesFrom = false)
    (hls : ls.map Lexeme.token = listTokens tokens es) (hrest : BehindItems rest) (hfuel : es.length ≤ fuel) :
    ∃ xs : List Expr, xs.map exprTree = es.map exprTree ∧
      repeatWhile (acceptSign ",") (selectItem (grammar dialect depth)) fuel (ls ++ rest) =
        .ok (xs.map (.expr · none), rest) := by
  induction es generalizing ls fuel with
  | nil =>
    obtain rfl := List.map_eq_nil_iff.1 hls
    exact ⟨[], rfl, repeatWhile_stop hrest fuel⟩
  | cons e es ih =>
    obtain ⟨sp, us, vs, rfl, hus, hvs⟩ := listTokens_cons hls
    rw [List.forall_mem_cons] at hts hstand
    obtain ⟨⟨hb, hn, hfrom⟩, hstand⟩ := hstand
    cases fuel with
    | zero => cases hfuel
    | succ fuel =>
      obtain ⟨x, hx, hread⟩ := hts.1.item_reads hus hb hn hfrom (behindItem_list hvs hrest)
      obtain ⟨xs, hxs, hreads⟩ := ih hts.2 hstand hvs (Nat.le_of_succ_le_succ hfuel)
      refine ⟨x :: xs, by rw [List.map_cons, List.map_cons, hx, hxs], ?_⟩
      rw [List.cons_append, List.append_assoc, repeatWhile,
        run_bind_ok (a := true) (r := us ++ (vs ++ rest)) (by rw [acceptSign_cons, if_pos (by simp)]), if_pos rfl,
        run_bind_ok hread, run_bind_ok hreads]
      rfl

theorem list_sound {is : List SelectItem} (hts : ∀ e ∈ es, OperatorTree dialect e (tokens e) (need e))
    (hls : ls.map Lexeme.token = listTokens tokens es) (hrest : BehindItems rest) (hfuel : es.length ≤ fuel)
    (hok : repeatWhile (acceptSign ",") (selectItem (grammar dialect depth)) fuel (ls ++ rest) = .ok (is, r)) :
    r = rest ∧ ∃ xs : List Expr, is = xs.map (.expr · none) ∧
      List.Forall₂ (fun e x => Read depth e (need e) x ∧ x.namesFrom = false) es xs := by
  induction es generalizing ls fuel is with
  | nil =>
    obtain rfl := List.map_eq_nil_iff.1 hls
    rw [List.nil_append, repeatWhile_stop hrest] at hok
    cases hok
    exact ⟨rfl, [], rfl, .nil⟩
  | cons e es ih =>
    obtain ⟨sp, us, vs, rfl, hus, hvs⟩ := listTokens_cons hls
    rw [List.forall_mem_cons] at hts
    cases fuel with
    | zero => cases hfuel
    | succ fuel =>
      rw [List.cons_append, List.append_assoc, repeatWhile,
        run_bind_ok (a := true) (r := us ++ (vs ++ rest)) (by rw [acceptSign_cons, if_pos (by simp)]), if_pos rfl] at hok
      obtain ⟨i, mid, hitem, hok⟩ := bind_eq_ok hok
      obtain ⟨x, rfl, rfl, hx, hfrom⟩ := hts.1.item_sound hus (behindItem_list hvs hrest) hitem
      obtain ⟨js, mid, hitems, hok⟩ := bind_eq_ok hok
      cases hok
      obtain ⟨rfl, xs, rfl, hxs⟩ := ih hts.2 hvs (Nat.le_of_succ_le_succ hfuel) hitems
      exact ⟨rfl, x :: xs, rfl, .cons ⟨hx, hfrom⟩ hxs⟩

/-! ## Statements -/

/-- The tokens of the table of a selection. -/
def tableTokens : Option Ident → List Token
  | none => []
  | some t => [.word "FROM" none, .word t.text none]

/-- The tokens of the condition of a selection. -/
def conditionTokens (tokens : Expr → List Token) : Option Expr → List Token
  | none => []
  | some c => .word "WHERE" none :: tokens c

/-- A table that is named by one plain word. -/
structure IsTable (t : Ident) : Prop where
  quote : t.quote = none
  plain : Macro.isPlainWord t.text.toList = true
  noSource : ∀ w ∈ sourceWords, (Token.word t.text none).keyword? ≠ some w

variable {word : Mark} {is : List SelectItem} {table : Option Ident} {condition : Option Expr} {us vs ws : List Lexeme}

theorem Opens.selectDistinct (h : Opens (ls.map Lexeme.token)) : selectDistinct g ls = .ok (none, ls) := by
  obtain ⟨⟨t, ht, hlead, -, -⟩, -⟩ := h
  cases ls with
  | nil => cases ht
  | cons l ls =>
    cases ht
    have hrepeats : repeats (l :: ls) = .ok (none, l :: ls) := by
      unfold repeats
      rw [run_bind_ok (a := some l) (r := l :: ls) rfl, run_bind_ok (acceptWord_false (hlead "ALL" (by decide)) ls),
        run_bind_ok (acceptWord_false (hlead "DISTINCT" (by decide)) ls)]
      rfl
    unfold Parser.selectDistinct
    rw [run_bind_ok hrepeats]
    rfl

theorem Opens.topClause (h : Opens (ls.map Lexeme.token)) : optionalClause "TOP" (topClause g) ls = .ok (none, ls) := by
  obtain ⟨⟨t, ht, hlead, -, -⟩, -⟩ := h
  cases ls with
  | nil => cases ht
  | cons l ls =>
    cases ht
    unfold optionalClause
    rw [run_bind_ok (acceptWord_false (hlead "TOP" (by decide)) ls)]
    rfl

/-- What the condition of a selection is read as, where nothing comes behind it. -/
inductive ReadsCondition (g : Grammar) : List Lexeme → Option Expr → Prop
  | none : ReadsCondition g [] none
  | some {us : List Lexeme} {x : Expr} (sp : Text.Span) (h : g.expr 0 us = .ok (x, [])) :
      ReadsCondition g (⟨.word "WHERE" .none, sp⟩ :: us) (some x)

theorem ReadsCondition.behindTable (h : ReadsCondition g ws condition) : BehindTable ws := by
  cases h with
  | none => exact .nil
  | some sp _ => exact .condition sp _

/-- The table is read where it stands, and its place is noted. -/
theorem fromClause_ok (htable : ∀ t ∈ table, IsTable t) (hvs : vs.map Lexeme.token = tableTokens table)
    (hws : BehindTable ws) :
    ∃ found table', optionalClause "FROM" (commaSeparated (fromItem g)) (vs ++ ws) = .ok (found, ws) ∧
      found.getD [] = Selection.sources table' ∧ table'.map identTree = table.map identTree := by
  cases table with
  | none =>
    obtain rfl := List.map_eq_nil_iff.1 hvs
    exact ⟨none, none, by cases hws <;> rfl, rfl, rfl⟩
  | some t =>
    obtain ⟨sp, vs', rfl, hname⟩ := cons_of_tokens hvs
    obtain ⟨sp', vs'', rfl, hend⟩ := cons_of_tokens hname
    obtain rfl := List.map_eq_nil_iff.1 hend
    obtain ⟨hquote, -, hsource⟩ := htable t rfl
    refine ⟨some (Selection.sources (some ⟨t.text, none, some sp'⟩)), some ⟨t.text, none, some sp'⟩, ?_, rfl, ?_⟩
    · show (acceptWord "FROM" >>= _) _ = _
      rw [run_bind_ok (a := true) (r := ⟨.word t.text none, sp'⟩ :: ws) rfl, if_pos rfl,
        run_bind_ok (fromItems_table hsource hws sp')]
      rfl
    · simp [identTree, hquote]

theorem intoClause_none (hvs : vs.map Lexeme.token = tableTokens table) (hws : BehindTable ws) :
    optionalClause "INTO" intoClause (vs ++ ws) = .ok (none, vs ++ ws) := by
  cases table with
  | none =>
    obtain rfl := List.map_eq_nil_iff.1 hvs
    cases hws <;> rfl
  | some t =>
    obtain ⟨sp, vs', rfl, -⟩ := cons_of_tokens hvs
    rfl

/-- A selection whose items and condition have been read. -/
theorem select_ok (word : Mark) (hopens : Opens (ls.map Lexeme.token))
    (hitems : commaSeparated (selectItem g) ls = .ok (is, vs ++ ws))
    (htable : ∀ t ∈ table, IsTable t) (hvs : vs.map Lexeme.token = tableTokens table)
    (hws : ReadsCondition g ws condition) :
    ∃ table', table'.map identTree = table.map identTree ∧
      select g word ls = .ok (Selection.body word is table' condition, []) := by
  obtain ⟨found, table', hfrom, hfound, hsame⟩ := fromClause_ok (g := g) htable hvs hws.behindTable
  refine ⟨table', hsame, ?_⟩
  unfold select
  rw [run_bind_ok hopens.selectDistinct, run_bind_ok hopens.topClause, run_bind_ok hitems,
    run_bind_ok (intoClause_none hvs hws.behindTable), run_bind_ok hfrom]
  obtain ⟨dialect, connecting, expr, relating, query, statement⟩ := g
  cases hws with
  | none =>
    rw [hfound]
    cases dialect <;> rfl
  | @some us x sp h =>
    have hwhere : optionalClause "WHERE" (expr 0) (⟨.word "WHERE" none, sp⟩ :: us) = .ok (some x, []) := by
      show (acceptWord "WHERE" >>= _) _ = _
      rw [run_bind_ok (a := true) (r := us) rfl, if_pos rfl, run_bind_ok h]
      rfl
    rw [run_bind_ok (a := us.length + 1) (r := ⟨.word "WHERE" none, sp⟩ :: us) rfl,
      run_bind_ok (a := []) (r := ⟨.word "WHERE" none, sp⟩ :: us) rfl,
      run_bind_ok (a := none) (r := ⟨.word "WHERE" none, sp⟩ :: us) rfl, run_bind_ok hwhere, hfound]
    cases dialect <;> rfl

/-- Without its items nothing is read. -/
theorem select_error {fault : Fault} (hopens : Opens (ls.map Lexeme.token))
    (hitems : commaSeparated (selectItem g) ls = .error fault) : select g word ls = .error fault := by
  unfold select
  rw [run_bind_ok hopens.selectDistinct, run_bind_ok hopens.topClause, run_bind_error hitems]

/-- Without its condition nothing is read. -/
theorem select_condition_error {fault : Fault} {sp : Text.Span} (hopens : Opens (ls.map Lexeme.token))
    (hitems : commaSeparated (selectItem g) ls = .ok (is, vs ++ ⟨.word "WHERE" none, sp⟩ :: us))
    (htable : ∀ t ∈ table, IsTable t) (hvs : vs.map Lexeme.token = tableTokens table)
    (hfault : g.expr 0 us = .error fault) : select g word ls = .error fault := by
  have hbehind : BehindTable (⟨.word "WHERE" none, sp⟩ :: us) := .condition sp us
  obtain ⟨found, table', hfrom, -, -⟩ := fromClause_ok (g := g) htable hvs hbehind
  have hwhere : optionalClause "WHERE" (g.expr 0) (⟨.word "WHERE" none, sp⟩ :: us) = .error fault := by
    show (acceptWord "WHERE" >>= _) _ = _
    rw [run_bind_ok (a := true) (r := us) rfl, if_pos rfl, run_bind_error hfault]
  unfold select
  rw [run_bind_ok hopens.selectDistinct, run_bind_ok hopens.topClause, run_bind_ok hitems,
    run_bind_ok (intoClause_none hvs hbehind), run_bind_ok hfrom,
    run_bind_ok (a := us.length + 1) (r := ⟨.word "WHERE" none, sp⟩ :: us) rfl,
    run_bind_ok (a := []) (r := ⟨.word "WHERE" none, sp⟩ :: us) rfl,
    run_bind_ok (a := none) (r := ⟨.word "WHERE" none, sp⟩ :: us) rfl, run_bind_error hwhere]

/-- The body of a query that is a selection and ends with the text. -/
theorem query_select {select' : Select} {sp : Text.Span}
    (h : select (grammar dialect depth) ⟨"SELECT", sp⟩ ls = .ok (select', [])) :
    query (grammar dialect depth) (bodyCommand (grammar dialect depth)) (⟨.word "SELECT" none, sp⟩ :: ls) =
      .ok (Query.ofBody (.select select'), []) := by
  have hplain : plainBody (grammar dialect depth) (⟨.word "SELECT" none, sp⟩ :: ls) = .ok (.select select', []) := by
    unfold plainBody
    rw [run_bind_ok (a := some ⟨"SELECT", sp⟩) (r := ls) rfl]
    dsimp only
    rw [run_bind_ok h]
    rfl
  have hbody : body (grammar dialect depth) (⟨.word "SELECT" none, sp⟩ :: ls) = .ok (.select select', []) := by
    unfold body intersections
    rw [run_bind, run_bind_ok hplain]
    rfl
  unfold query
  rw [run_bind_ok (a := (none, false, [])) (r := ⟨.word "SELECT" none, sp⟩ :: ls) rfl]
  dsimp only
  rw [run_bind_ok (a := none) (r := ⟨.word "SELECT" none, sp⟩ :: ls) rfl]
  dsimp only
  rw [run_bind_ok hbody]
  rfl

theorem query_error {fault : Fault} {sp : Text.Span}
    (h : select (grammar dialect depth) ⟨"SELECT", sp⟩ ls = .error fault) :
    query (grammar dialect depth) (bodyCommand (grammar dialect depth)) (⟨.word "SELECT" none, sp⟩ :: ls) =
      .error fault := by
  have hplain : plainBody (grammar dialect depth) (⟨.word "SELECT" none, sp⟩ :: ls) = .error fault := by
    unfold plainBody
    rw [run_bind_ok (a := some ⟨"SELECT", sp⟩) (r := ls) rfl]
    dsimp only
    rw [run_bind_error h]
  have hbody : body (grammar dialect depth) (⟨.word "SELECT" none, sp⟩ :: ls) = .error fault := by
    unfold body intersections
    rw [run_bind, run_bind_error hplain]
  unfold query
  rw [run_bind_ok (a := (none, false, [])) (r := ⟨.word "SELECT" none, sp⟩ :: ls) rfl]
  dsimp only
  rw [run_bind_ok (a := none) (r := ⟨.word "SELECT" none, sp⟩ :: ls) rfl]
  dsimp only
  rw [run_bind_error hbody]

/-- A text that starts with `SELECT` is read as a query. -/
theorem statement_select (sp : Text.Span) :
    (grammar dialect (depth + 2)).statement (⟨.word "SELECT" none, sp⟩ :: ls) =
      (do return .query (← query (grammar dialect depth) (bodyCommand (grammar dialect depth))) : Parser Statement)
        (⟨.word "SELECT" none, sp⟩ :: ls) := by
  show statement (grammar dialect (depth + 1)) _ = _
  unfold statement
  rw [run_bind_ok (a := ⟨.word "SELECT" none, sp⟩ :: ls) (r := ⟨.word "SELECT" none, sp⟩ :: ls) rfl,
    run_bind_ok (a := some ⟨.word "SELECT" none, sp⟩) (r := ls) rfl]
  show (do
    set (⟨.word "SELECT" none, sp⟩ :: ls : List Lexeme)
    return .query (← (grammar dialect (depth + 1)).query) : Parser Statement) ls = _
  rw [run_bind_ok (a := ⟨⟩) (r := ⟨.word "SELECT" none, sp⟩ :: ls) rfl]
  rfl

/-- One statement that takes the whole text. -/
theorem statements_one {p : Parser Statement} {statement' : Statement} (sp : Text.Span) (fuel : Nat)
    (h : p (⟨.word "SELECT" none, sp⟩ :: ls) = .ok (statement', [])) :
    statements p (fuel + 1) false (⟨.word "SELECT" none, sp⟩ :: ls) = .ok ([statement'], []) := by
  rw [statements_cons, if_neg (by simp [isSign]), if_neg (by simp), if_neg (by decide), run_bind_ok h]
  cases fuel <;> rfl

theorem statements_error {p : Parser Statement} {fault : Fault} (sp : Text.Span) (fuel : Nat)
    (h : p (⟨.word "SELECT" none, sp⟩ :: ls) = .error fault) :
    statements p (fuel + 1) false (⟨.word "SELECT" none, sp⟩ :: ls) = .error fault := by
  rw [statements_cons, if_neg (by simp [isSign]), if_neg (by simp), if_neg (by decide), run_bind_error h]

/-- How many levels are left for the expressions of a selection. -/
def selectionDepth : Nat := maxDepth - 2

theorem parseStatements_ok {select' : Select} {text : String} {sp : Text.Span}
    (hlex : lexemes dialect text = .ok (⟨.word "SELECT" none, sp⟩ :: ls))
    (h : select (grammar dialect selectionDepth) ⟨"SELECT", sp⟩ ls = .ok (select', [])) :
    parseStatements dialect text = .ok [.query (Query.ofBody (.select select'))] := by
  have hstatement : (grammar dialect maxDepth).statement (⟨.word "SELECT" none, sp⟩ :: ls) =
      .ok (.query (Query.ofBody (.select select')), []) := by
    rw [show maxDepth = selectionDepth + 2 from rfl, statement_select, run_bind_ok (query_select h)]
    rfl
  rw [parseStatements_eq hlex, statements_one sp _ hstatement]

theorem parseStatements_error {fault : Fault} {text : String} {sp : Text.Span}
    (hlex : lexemes dialect text = .ok (⟨.word "SELECT" none, sp⟩ :: ls))
    (h : select (grammar dialect selectionDepth) ⟨"SELECT", sp⟩ ls = .error fault) :
    ∃ failure, parseStatements dialect text = .error failure := by
  have hstatement : (grammar dialect maxDepth).statement (⟨.word "SELECT" none, sp⟩ :: ls) = .error fault := by
    rw [show maxDepth = selectionDepth + 2 from rfl, statement_select, run_bind_error (query_error h)]
  exact ⟨_, by rw [parseStatements_eq hlex, statements_error sp _ hstatement]⟩

/-! ## Texts -/

/-- The tokens of a selection. -/
def selectionTokens (tokens : Expr → List Token) (s : Selection) : List Token :=
  .word "SELECT" none :: (tokens s.first ++ (listTokens tokens s.more ++
    (tableTokens s.table ++ conditionTokens tokens s.condition)))

theorem ofBody_toSql (b : Body) : (Query.ofBody b).toSql = b.toSql := by
  show "" ++ b.toSql ++ "" ++ "" ++ "" ++ "" ++ "" ++ "" ++ ("" ++ "" ++ "") ++ "" = _
  simp

theorem table_toSql (t : Ident) : (Relation.table [t] [] none [] false none []).toSql = t.toSql := by
  show Name.toSql [t] ++ "" ++ "" ++ "" ++ "" ++ "" = _
  simp [Name.toSql]

theorem sources_toSql (table : Option Ident) :
    listWithLead " FROM " (fromTexts (Selection.sources table)) = withLead " FROM " (table.map Ident.toSql) := by
  cases table with
  | none => rfl
  | some t =>
    show " FROM " ++ commaJoin [(Relation.table [t] [] none [] false none []).toSql ++ ""] = _
    rw [table_toSql]
    simp [commaJoin, withLead]

theorem selectItemTexts_exprs (es : List Expr) : selectItemTexts (es.map (.expr · none)) = es.map Expr.toSql := by
  induction es with
  | nil => rfl
  | cons e es ih =>
    show (e.toSql ++ "") :: selectItemTexts (es.map (.expr · none)) = _
    rw [ih, String.append_empty, List.map_cons]

theorem selection_toSql (s : Selection) :
    s.statement.toSql = "SELECT " ++ (commaJoin (s.items.map Expr.toSql) ++
      (withLead " FROM " (s.table.map Ident.toSql) ++ withLead " WHERE " (s.condition.map Expr.toSql))) := by
  have hcondition : optExprText s.condition = s.condition.map Expr.toSql := by cases s.condition <;> rfl
  show (Query.ofBody _).toSql = _
  rw [ofBody_toSql]
  show "SELECT" ++ "" ++ "" ++ " " ++ commaJoin (selectItemTexts _) ++ "" ++ listWithLead " FROM " (fromTexts _) ++ "" ++ "" ++
    withLead " WHERE " (optExprText s.condition) ++ "" ++ "" ++ "" ++ "" ++ "" ++ ("" ++ "") ++ "" = _
  rw [selectItemTexts_exprs, sources_toSql, hcondition]
  simp [String.append_assoc]

/-- Items with commas between them spell their tokens. -/
theorem spells_items {cs : List Char} {us : List Token} (he : OperatorTree dialect e (tokens e) (need e))
    (hes : ∀ e ∈ es, OperatorTree dialect e (tokens e) (need e)) (hcs : endsOperand cs = true)
    (hs : Spells dialect cs us) :
    Spells dialect ((commaJoin (e.toSql :: es.map Expr.toSql)).toList ++ cs)
      (tokens e ++ (listTokens tokens es ++ us)) := by
  induction es generalizing e with
  | nil => simpa [commaJoin, listTokens] using he.spells hcs hs
  | cons e' es ih =>
    rw [List.forall_mem_cons] at hes
    have hmore := spells_comma (ih hes.1 hes.2)
    have := he.spells rfl hmore
    simpa [commaJoin, String.intercalate_cons_cons, listTokens] using this

theorem spells_condition (hc : ∀ c ∈ condition, OperatorTree dialect c (tokens c) (need c)) :
    endsOperand (withLead " WHERE " (condition.map Expr.toSql)).toList = true ∧
      Spells dialect (withLead " WHERE " (condition.map Expr.toSql)).toList (conditionTokens tokens condition) := by
  cases condition with
  | none => exact ⟨rfl, .nil dialect⟩
  | some c =>
    have hspells := (hc c rfl).spells rfl (.nil dialect)
    rw [List.append_nil, List.append_nil] at hspells
    have := (spells_keyword (w := "WHERE") (by decide) hspells).blank
    exact ⟨by simp [withLead, endsOperand], by simpa [withLead, conditionTokens] using this⟩

theorem spells_table {cs : List Char} {us : List Token} (htable : ∀ t ∈ table, IsTable t) (hcs : endsOperand cs = true)
    (hs : Spells dialect cs us) :
    endsOperand ((withLead " FROM " (table.map Ident.toSql)).toList ++ cs) = true ∧
      Spells dialect ((withLead " FROM " (table.map Ident.toSql)).toList ++ cs) (tableTokens table ++ us) := by
  cases table with
  | none => exact ⟨hcs, hs⟩
  | some t =>
    obtain ⟨hquote, hplain, -⟩ := htable t rfl
    have htext : t.toSql = t.text := by simp [Ident.toSql, hquote]
    have := (spells_keyword (w := "FROM") (by decide) (hs.word hplain (endsWord_of_endsOperand hcs))).blank
    exact ⟨by simp [withLead, endsOperand], by simpa [withLead, tableTokens, htext] using this⟩

variable {s : Selection}

/-- The text of a selection spells its tokens. -/
theorem selection_spells (hts : ∀ e ∈ s.exprs, OperatorTree dialect e (tokens e) (need e))
    (htable : ∀ t ∈ s.table, IsTable t) : Spells dialect s.statement.toSql.toList (selectionTokens tokens s) := by
  obtain ⟨hitems, hcondition⟩ := List.forall_mem_append.1 hts
  obtain ⟨hfirst, hmore⟩ := List.forall_mem_cons.1 hitems
  have hcondition : ∀ c ∈ s.condition, OperatorTree dialect c (tokens c) (need c) :=
    fun c hc => hcondition c (by simpa using hc)
  obtain ⟨hend, hspells⟩ := spells_condition hcondition
  obtain ⟨hend, hspells⟩ := spells_table htable hend hspells
  have := spells_keyword (w := "SELECT") (by decide) (spells_items hfirst hmore hend hspells)
  rw [selection_toSql]
  simpa [selectionTokens, Selection.items] using this

/-! ## What is read from the text of a selection -/

theorem length_le_listTokens (hls : ls.map Lexeme.token = listTokens tokens es) : es.length ≤ ls.length := by
  induction es generalizing ls with
  | nil => exact Nat.zero_le _
  | cons e es ih =>
    obtain ⟨sp, us, vs, rfl, -, hvs⟩ := listTokens_cons hls
    have := ih hvs
    simp only [List.length_cons, List.length_append]
    omega

/-- The items of a selection, the first of which stands behind no comma. -/
theorem items_reads (hts : ∀ a ∈ e :: es, OperatorTree dialect a (tokens a) (need a))
    (hstand : ∀ a ∈ e :: es, a.Bracketed ∧ need a < depth ∧ a.namesFrom = false)
    (hus : us.map Lexeme.token = tokens e) (hls : ls.map Lexeme.token = listTokens tokens es) (hrest : BehindItems rest) :
    ∃ x xs, exprTree x = exprTree e ∧ xs.map exprTree = es.map exprTree ∧
      commaSeparated (selectItem (grammar dialect depth)) (us ++ (ls ++ rest)) =
        .ok ((x :: xs).map (.expr · none), rest) := by
  rw [List.forall_mem_cons] at hts hstand
  obtain ⟨⟨hb, hn, hfrom⟩, hstand⟩ := hstand
  obtain ⟨x, hx, hread⟩ := hts.1.item_reads hus hb hn hfrom (behindItem_list hls hrest)
  have hfuel : es.length ≤ (ls ++ rest).length := by
    have := length_le_listTokens hls
    rw [List.length_append]
    omega
  obtain ⟨xs, hxs, hreads⟩ := list_reads hts.2 hstand hls hrest hfuel
  refine ⟨x, xs, hx, hxs, ?_⟩
  unfold commaSeparated
  rw [run_bind_ok hread, run_bind_ok (a := (ls ++ rest).length) (r := ls ++ rest) rfl, run_bind_ok hreads]
  rfl

theorem items_sound (hts : ∀ a ∈ e :: es, OperatorTree dialect a (tokens a) (need a))
    (hus : us.map Lexeme.token = tokens e) (hls : ls.map Lexeme.token = listTokens tokens es) (hrest : BehindItems rest)
    (hok : commaSeparated (selectItem (grammar dialect depth)) (us ++ (ls ++ rest)) = .ok (is, r)) :
    r = rest ∧ ∃ x xs, is = (x :: xs).map (.expr · none) ∧
      List.Forall₂ (fun e x => Read depth e (need e) x ∧ x.namesFrom = false) (e :: es) (x :: xs) := by
  rw [List.forall_mem_cons] at hts
  unfold commaSeparated at hok
  obtain ⟨i, mid, hitem, hok⟩ := bind_eq_ok hok
  obtain ⟨x, rfl, rfl, hx, hfrom⟩ := hts.1.item_sound hus (behindItem_list hls hrest) hitem
  rw [run_bind_ok (a := (ls ++ rest).length) (r := ls ++ rest) rfl] at hok
  obtain ⟨js, mid, hitems, hok⟩ := bind_eq_ok hok
  cases hok
  have hfuel : es.length ≤ (ls ++ rest).length := by
    have := length_le_listTokens hls
    rw [List.length_append]
    omega
  obtain ⟨rfl, xs, rfl, hxs⟩ := list_sound hts.2 hls hrest hfuel hitems
  exact ⟨rfl, x, xs, rfl, .cons ⟨hx, hfrom⟩ hxs⟩

/-- Whether the expressions of a selection are read as they are: their operators are bracketed, they are not too deep, and
no item is the word `from`. -/
structure Stands (need : Expr → Nat) (s : Selection) : Prop where
  bracketed : ∀ e ∈ s.exprs, e.Bracketed
  shallow : ∀ e ∈ s.exprs, need e < selectionDepth
  items : ∀ e ∈ s.items, e.namesFrom = false

/-- Two selections that differ in places only. -/
structure Same (s s' : Selection) : Prop where
  items : s.items.map exprTree = s'.items.map exprTree
  table : s.table.map identTree = s'.table.map identTree
  condition : s.condition.map exprTree = s'.condition.map exprTree

/-- The parts of the tokens of a selection. -/
theorem selectionTokens_parts (hls : ls.map Lexeme.token = selectionTokens tokens s) :
    ∃ sp us vs ws zs, ls = ⟨.word "SELECT" none, sp⟩ :: (us ++ (vs ++ (ws ++ zs))) ∧
      us.map Lexeme.token = tokens s.first ∧ vs.map Lexeme.token = listTokens tokens s.more ∧
      ws.map Lexeme.token = tableTokens s.table ∧ zs.map Lexeme.token = conditionTokens tokens s.condition := by
  obtain ⟨sp, ls₁, rfl, h₁⟩ := cons_of_tokens hls
  obtain ⟨us, ls₂, rfl, hus, h₂⟩ := List.map_eq_append_iff.1 h₁
  obtain ⟨vs, ls₃, rfl, hvs, h₃⟩ := List.map_eq_append_iff.1 h₂
  obtain ⟨ws, zs, rfl, hws, hzs⟩ := List.map_eq_append_iff.1 h₃
  exact ⟨sp, us, vs, ws, zs, rfl, hus, hvs, hws, hzs⟩

theorem behindTable_condition (hzs : ls.map Lexeme.token = conditionTokens tokens condition) : BehindTable ls := by
  cases condition with
  | none =>
    obtain rfl := List.map_eq_nil_iff.1 hzs
    exact .nil
  | some c =>
    obtain ⟨sp, us, rfl, -⟩ := cons_of_tokens hzs
    exact .condition sp us

theorem behindItems_table (hws : ws.map Lexeme.token = tableTokens table) (h : BehindTable ls) :
    BehindItems (ws ++ ls) := by
  cases table with
  | none =>
    obtain rfl := List.map_eq_nil_iff.1 hws
    cases h with
    | nil => exact .nil
    | condition sp rest => exact .condition sp rest
  | some t =>
    obtain ⟨sp, ws', rfl, -⟩ := cons_of_tokens hws
    exact .table sp _

/-- **A selection that stands is read from its own text.** -/
theorem Stands.reads (h : Stands need s) (hts : ∀ e ∈ s.exprs, OperatorTree dialect e (tokens e) (need e))
    (htable : ∀ t ∈ s.table, IsTable t) :
    ∃ s' : Selection, parseStatements dialect s.statement.toSql = .ok [s'.statement] ∧ Same s' s := by
  obtain ⟨ls, hlex, hls⟩ := (selection_spells hts htable).lexemes
  obtain ⟨sp, us, vs, ws, zs, rfl, hus, hvs, hws, hzs⟩ := selectionTokens_parts hls
  have hbehind := behindTable_condition hzs
  have hmem : ∀ e ∈ s.items, e ∈ s.exprs := fun e he => List.mem_append_left _ he
  have hstand : ∀ e ∈ s.items, e.Bracketed ∧ need e < selectionDepth ∧ e.namesFrom = false :=
    fun e he => ⟨h.bracketed e (hmem e he), h.shallow e (hmem e he), h.items e he⟩
  obtain ⟨x, xs, hx, hxs, hitems⟩ :=
    items_reads (fun e he => hts e (hmem e he)) hstand hus hvs (behindItems_table hws hbehind)
  obtain ⟨c, hc, hcondition⟩ : ∃ c : Option Expr, c.map exprTree = s.condition.map exprTree ∧
      ReadsCondition (grammar dialect selectionDepth) zs c := by
    have hmem' : ∀ c ∈ s.condition, c ∈ s.exprs := fun c hc => List.mem_append_right _ (by simpa using hc)
    cases hsc : s.condition with
    | none =>
      rw [hsc] at hzs
      obtain rfl := List.map_eq_nil_iff.1 hzs
      exact ⟨none, rfl, .none⟩
    | some c =>
      rw [hsc] at hzs hmem'
      obtain ⟨sp', zs', rfl, hzs'⟩ := cons_of_tokens hzs
      have hc := hmem' c rfl
      obtain ⟨y, hy, hread⟩ := (hts c hc).expr_reads hzs' (h.bracketed c hc) (h.shallow c hc) closes_nil rfl
      rw [List.append_nil] at hread
      exact ⟨some y, congrArg some hy, .some sp' hread⟩
  have hopens : Opens ((us ++ (vs ++ (ws ++ zs))).map Lexeme.token) :=
    (hts s.first (hmem _ List.mem_cons_self)).item_opens hus (behindItem_list hvs (behindItems_table hws hbehind))
  obtain ⟨table', htable', hselect⟩ := select_ok ⟨"SELECT", sp⟩ hopens hitems htable hws hcondition
  refine ⟨⟨⟨"SELECT", sp⟩, x, xs, table', c⟩, parseStatements_ok hlex hselect, ⟨?_, htable', hc⟩⟩
  simp [Selection.items, hx, hxs]

/-- **What is read from the text of a selection is a selection of bracketed expressions**, with as many parentheses. -/
theorem selection_sound {found : List Statement} (hts : ∀ e ∈ s.exprs, OperatorTree dialect e (tokens e) (need e))
    (htable : ∀ t ∈ s.table, IsTable t) (hok : parseStatements dialect s.statement.toSql = .ok found) :
    ∃ s' : Selection, found = [s'.statement] ∧
      List.Forall₂ (fun e x => Read selectionDepth e (need e) x ∧ x.namesFrom = false) s.items s'.items ∧
      List.Forall₂ (fun e x => Read selectionDepth e (need e) x) s.condition.toList s'.condition.toList := by
  obtain ⟨ls, hlex, hls⟩ := (selection_spells hts htable).lexemes
  obtain ⟨sp, us, vs, ws, zs, rfl, hus, hvs, hws, hzs⟩ := selectionTokens_parts hls
  have hbehind := behindTable_condition hzs
  have hbehindItems := behindItems_table hws hbehind
  have hmem : ∀ e ∈ s.items, e ∈ s.exprs := fun e he => List.mem_append_left _ he
  have hopens : Opens ((us ++ (vs ++ (ws ++ zs))).map Lexeme.token) :=
    (hts s.first (hmem _ List.mem_cons_self)).item_opens hus (behindItem_list hvs hbehindItems)
  cases hitems : commaSeparated (selectItem (grammar dialect selectionDepth)) (us ++ (vs ++ (ws ++ zs))) with
  | error fault =>
    obtain ⟨failure, hfailure⟩ := parseStatements_error hlex (select_error hopens hitems)
    rw [hfailure] at hok
    cases hok
  | ok found' =>
    obtain ⟨is, mid⟩ := found'
    obtain ⟨rfl, x, xs, rfl, hread⟩ := items_sound (fun e he => hts e (hmem e he)) hus hvs hbehindItems hitems
    cases hsc : s.condition with
    | none =>
      rw [hsc] at hzs
      obtain rfl := List.map_eq_nil_iff.1 hzs
      obtain ⟨table', -, hselect⟩ := select_ok ⟨"SELECT", sp⟩ hopens hitems htable hws .none
      rw [parseStatements_ok hlex hselect] at hok
      cases hok
      exact ⟨⟨⟨"SELECT", sp⟩, x, xs, table', none⟩, rfl, hread, .nil⟩
    | some c =>
      rw [hsc] at hzs
      obtain ⟨sp', zs', rfl, hzs'⟩ := cons_of_tokens hzs
      have hc := hts c (List.mem_append_right _ (by simp [hsc]))
      cases hcond : (grammar dialect selectionDepth).expr 0 zs' with
      | error fault =>
        obtain ⟨failure, hfailure⟩ :=
          parseStatements_error hlex (select_condition_error hopens hitems htable hws hcond)
        rw [hfailure] at hok
        cases hok
      | ok found'' =>
        obtain ⟨y, r⟩ := found''
        rw [← List.append_nil zs'] at hcond
        obtain ⟨rfl, hb, hw, hn, hd⟩ := hc.expr_sound hzs' closes_nil rfl hcond
        rw [List.append_nil] at hcond
        obtain ⟨table', -, hselect⟩ := select_ok ⟨"SELECT", sp⟩ hopens hitems htable hws (.some sp' hcond)
        rw [parseStatements_ok hlex hselect] at hok
        cases hok
        exact ⟨⟨⟨"SELECT", sp⟩, x, xs, table', some y⟩, rfl, hread, .cons ⟨hb, hw, hn, hd⟩ .nil⟩

end Parser

end SqlTemplate.Sql
