import SqlTemplate.Proofs.FilterStructure
import SqlTemplate.Proofs.Selections
import SqlTemplate.Proofs.Substitution

/-!
# Reading a written template

What comes of a template is written without further parentheses. Where its expressions are trees of operators, the text
is read as the statement that was written if and only if the operators are bracketed by their levels. An expression that
a macro stands for may bring operators of its own, and these are not set apart from the ones around the call.

* `read_back_iff`: a selection is read from its text as it is.
* `expansion_read_back_iff`: a template whose calls are replaced by their expansions.
* `rounding_transparent_iff`: a template whose calls round nothing and are replaced by their arguments.
-/

namespace SqlTemplate

open Sql Macro Sql.Parser

namespace Sql

/-- The selection with other expressions. -/
def Selection.map (f : Expr → Expr) (s : Selection) : Selection :=
  { s with first := f s.first, more := s.more.map f, condition := s.condition.map f }

theorem Selection.items_map (f : Expr → Expr) (s : Selection) : (s.map f).items = s.items.map f := rfl

theorem Selection.condition_map (f : Expr → Expr) (s : Selection) : (s.map f).condition = s.condition.map f := rfl

theorem Selection.map_congr {f g : Expr → Expr} {s : Selection} (h : ∀ e ∈ s.exprs, f e = g e) : s.map f = s.map g := by
  obtain ⟨hitems, hcondition⟩ := List.forall_mem_append.1 h
  obtain ⟨hfirst, hmore⟩ := List.forall_mem_cons.1 hitems
  have hc : s.condition.map f = s.condition.map g := Option.map_congr fun c hc => hcondition c (by simpa using hc)
  rw [map, map, hfirst, List.map_congr_left hmore, hc]

theorem mapSelectItems_exprs (f : Expr → Expr) (es : List Expr) :
    mapSelectItems f (es.map (.expr · none)) = (es.map f).map (.expr · none) := by
  induction es with
  | nil => rfl
  | cons e es ih => exact congrArg (SelectItem.expr (f e) none :: ·) ih

theorem Selection.mapExprs_statement (f : Expr → Expr) (s : Selection) :
    s.statement.mapExprs f = (s.map f).statement := by
  have hsources : mapFrom f (sources s.table) = sources s.table := by cases s.table <;> rfl
  have hbody : (Selection.body s.word (s.items.map (.expr · none)) s.table s.condition).mapExprs f =
      Selection.body s.word ((s.items.map f).map (.expr · none)) s.table (s.condition.map f) := by
    rw [Selection.body, Select.mapExprs, mapSelectItems_exprs, hsources]
    rfl
  rw [statement, Statement.mapExprs, Query.ofBody, Query.mapExprs, Body.mapExprs, hbody]
  rfl

/-- A statement is a selection in one way only. -/
theorem Selection.statement_inj {s s' : Selection} (h : s.statement = s'.statement) : s = s' := by
  obtain ⟨word, first, more, table, condition⟩ := s
  obtain ⟨word', first', more', table', condition'⟩ := s'
  have hbody := Body.select.inj (Query.mk.inj (Statement.query.inj h)).2.2.2.1
  have hparts := Select.mk.inj hbody
  obtain rfl := hparts.1
  obtain rfl := hparts.2.2.2.2.2.2.2.2.1
  have hitems : first :: more = first' :: more' :=
    List.map_injective_iff.2 (fun _ _ h => (SelectItem.expr.inj h).1) hparts.2.2.2.1
  obtain ⟨rfl, rfl⟩ := List.cons.inj hitems
  have hsources := hparts.2.2.2.2.2.1
  cases table <;> cases table' <;> simp_all [sources]

namespace Parser

open Service.Tree

variable {dialect : Dialect} {s s' u : Selection} {tokens : Expr → List Token} {need : Expr → Nat}

/-- What is true of a member and of the one in its place is true of all members. -/
theorem forall_mem_of_forall₂ {α β : Type} {R : α → β → Prop} {P : α → Prop} {as : List α} {bs : List β}
    (h : List.Forall₂ R as bs) (hP : ∀ a b, R a b → P a) : ∀ a ∈ as, P a := by
  induction h with
  | nil => simp
  | cons hab _ ih =>
    rw [List.forall_mem_cons]
    exact ⟨hP _ _ hab, ih⟩

/-- Of two trees, one is the other with some parentheses more. -/
structure Wrapped (u e : Expr) : Prop where
  whole : e.Whole → u.Whole
  nests : e.nests ≤ u.nests
  alike : u.nests = e.nests → Alike u e

theorem Alike.refl (e : Expr) : Alike e e := ⟨Iff.rfl, rfl, rfl, rfl, rfl⟩

theorem Wrapped.refl (e : Expr) : Wrapped e e := ⟨id, Nat.le_refl _, fun _ => .refl e⟩

theorem Wrapped.nested {u e : Expr} (h : Wrapped u e) : Wrapped (.nested u) e where
  whole := h.whole
  nests := Nat.le_succ_of_le h.nests
  alike hn := by
    have := h.nests
    simp only [Expr.nests] at hn
    omega

/-- An expression with some parentheses more in its parts. -/
theorem wrapped_mapParts {f g : Expr → Expr} {e : Expr} (h : ∀ p ∈ e.parts, Wrapped (f p) (g p)) :
    Wrapped (e.mapParts f) (e.mapParts g) := by
  have plain {x y : Expr} (hx : isComposed x = false) (hy : isComposed y = false) (hfrom : x.namesFrom = y.namesFrom) :
      Wrapped x y := by
    have halike := alike_of_plain hx hy hfrom
    exact ⟨fun _ => (isPiece_of_plain hx).whole, halike.nests.symm.le, fun _ => halike⟩
  cases e with
  | nested a =>
    have ha := h a (by simp [Expr.parts])
    refine ⟨ha.whole, Nat.succ_le_succ ha.nests, fun hn => ?_⟩
    have halike := ha.alike (Nat.succ.inj hn)
    exact ⟨halike.bracketed, rfl, rfl, hn, rfl⟩
  | unary op a =>
    have ha := h a (by simp [Expr.parts])
    refine ⟨ha.whole, ha.nests, fun hn => ?_⟩
    have halike := ha.alike hn
    exact ⟨and_congr halike.bracketed (by rw [halike.leftLevel]), rfl, congrArg (min multiplyLevel) halike.rightLevel, hn,
      rfl⟩
  | binary a op b =>
    have ha := h a (by simp [Expr.parts])
    have hb := h b (by simp [Expr.parts])
    refine ⟨And.imp ha.whole hb.whole, Nat.add_le_add ha.nests hb.nests, fun hn => ?_⟩
    have hn' : (f a).nests + (f b).nests = (g a).nests + (g b).nests := hn
    have hna := ha.nests
    have hnb := hb.nests
    have halike := ha.alike (by omega)
    have halike' := hb.alike (by omega)
    exact ⟨and_congr halike.bracketed (and_congr halike'.bracketed (by rw [halike.rightLevel, halike'.leftLevel])),
      congrArg (min op.level) halike.leftLevel, congrArg (min op.level) halike'.rightLevel, hn, rfl⟩
  | is a property =>
    have ha := h a (by simp [Expr.parts])
    refine ⟨ha.whole, ha.nests, fun hn => ?_⟩
    have halike := ha.alike hn
    exact ⟨and_congr halike.bracketed (by rw [halike.rightLevel]), congrArg (min isLevel) halike.leftLevel, rfl, hn, rfl⟩
  | between a low high negated =>
    have ha := h a (by simp [Expr.parts])
    have hlow := h low (by simp [Expr.parts])
    have hhigh := h high (by simp [Expr.parts])
    refine ⟨And.imp ha.whole (And.imp hlow.whole hhigh.whole),
      Nat.add_le_add (Nat.add_le_add ha.nests hlow.nests) hhigh.nests, fun hn => ?_⟩
    have hn' : (f a).nests + (f low).nests + (f high).nests = (g a).nests + (g low).nests + (g high).nests := hn
    have hna := ha.nests
    have hnlow := hlow.nests
    have hnhigh := hhigh.nests
    have halike := ha.alike (by omega)
    have halikeLow := hlow.alike (by omega)
    have halikeHigh := hhigh.alike (by omega)
    refine ⟨?_, congrArg (min comparisonLevel) halike.leftLevel, congrArg (min comparisonLevel) halikeHigh.rightLevel, hn,
      rfl⟩
    exact and_congr halike.bracketed (and_congr halikeLow.bracketed (and_congr halikeHigh.bracketed
      (by rw [halike.rightLevel, halikeLow.leftLevel, halikeLow.rightLevel, halikeHigh.leftLevel])))
  | phrase p => exact ⟨False.elim, Nat.le_refl _, fun _ => ⟨Iff.rfl, rfl, rfl, rfl, rfl⟩⟩
  | _ => exact plain rfl rfl rfl

/-- A tree that is read from the tokens of another one, which has no more parentheses, is that one. -/
theorem Read.alike {e x u : Expr} {n depth : Nat} (h : Read depth e n x) (he : e.Whole) (hu : Wrapped u e)
    (htree : exprTree x = exprTree u) : Alike x e := by
  have hxu := alike_of_exprTree_eq h.whole (hu.whole he) htree
  have hue := hu.alike (hxu.nests.symm.trans h.nests)
  exact ⟨hxu.bracketed.trans hue.bracketed, hxu.leftLevel.trans hue.leftLevel, hxu.rightLevel.trans hue.rightLevel,
    hxu.nests.trans hue.nests, hxu.namesFrom.trans hue.namesFrom⟩

theorem alike_lists {R : Expr → Expr → Prop} {es xs us : List Expr} {depth : Nat}
    (hR : ∀ e x, R e x → Read depth e (need e) x) (hread : List.Forall₂ R es xs)
    (htree : xs.map exprTree = us.map exprTree) (hwrapped : List.Forall₂ Wrapped us es) (hwhole : ∀ e ∈ es, e.Whole) :
    List.Forall₂ (fun e x => R e x ∧ Alike x e) es xs := by
  induction hread generalizing us with
  | nil => exact .nil
  | @cons e x es xs hex _ ih =>
    cases hwrapped with
    | cons hue hwrapped =>
      rw [List.map_cons, List.map_cons, List.cons.injEq] at htree
      rw [List.forall_mem_cons] at hwhole
      exact .cons ⟨hex, (hR e x hex).alike hwhole.1 hue htree.1⟩ (ih htree.2 hwrapped hwhole.2)

/-- If the text of a selection is read as it was written, or with some parentheses more, then it stands. -/
theorem stands_of_same (hts : ∀ e ∈ s.exprs, OperatorTree dialect e (tokens e) (need e))
    (htable : ∀ t ∈ s.table, IsTable t) (hok : parseStatements dialect s.statement.toSql = .ok [s'.statement])
    (hsame : Same s' u) (hitems : List.Forall₂ Wrapped u.items s.items)
    (hcondition : List.Forall₂ Wrapped u.condition.toList s.condition.toList) : Stands need s := by
  obtain ⟨found, hfound, hread, hreadCondition⟩ := selection_sound hts htable hok
  obtain rfl := Selection.statement_inj (List.cons.inj hfound).1
  have hwhole : ∀ e ∈ s.exprs, e.Whole := fun e he => (hts e he).whole
  obtain ⟨hwholeItems, hwholeCondition⟩ := List.forall_mem_append.1 hwhole
  have htree : s'.condition.toList.map exprTree = u.condition.toList.map exprTree := by
    have := hsame.condition
    cases hs : s'.condition <;> cases hu : u.condition <;> simp_all
  have halike := alike_lists (fun _ _ h => h.1) hread hsame.items hitems hwholeItems
  have halikeCondition := alike_lists (fun _ _ h => h) hreadCondition htree hcondition hwholeCondition
  have hbracketed : ∀ e ∈ s.exprs, e.Bracketed ∧ need e < selectionDepth := by
    refine List.forall_mem_append.2 ⟨?_, ?_⟩
    · refine forall_mem_of_forall₂ halike fun e x h => ?_
      have hb := h.2.bracketed.1 h.1.1.bracketed
      exact ⟨hb, h.1.1.deep hb⟩
    · refine forall_mem_of_forall₂ halikeCondition fun e x h => ?_
      have hb := h.2.bracketed.1 h.1.bracketed
      exact ⟨hb, h.1.deep hb⟩
  exact ⟨fun e he => (hbracketed e he).1, fun e he => (hbracketed e he).2,
    forall_mem_of_forall₂ halike fun e x h => h.2.namesFrom.symm.trans h.1.2⟩

/-- **A selection is read from its text as it was written if and only if it stands.** -/
theorem read_back_iff (hts : ∀ e ∈ s.exprs, OperatorTree dialect e (tokens e) (need e))
    (htable : ∀ t ∈ s.table, IsTable t) :
    (∃ s' : Selection, parseStatements dialect s.statement.toSql = .ok [s'.statement] ∧ Same s' s) ↔ Stands need s := by
  refine ⟨fun ⟨s', hok, hsame⟩ => ?_, fun h => h.reads hts htable⟩
  exact stands_of_same hts htable hok hsame (List.forall₂_same.2 fun e _ => .refl e)
    (List.forall₂_same.2 fun e _ => .refl e)

end Parser

end Sql

/-! ## Templates that are selections -/

variable {dialect : Dialect} {request rounded : Request} {polls : Polls} {template text : String} {s : Selection}
  {tokens : Expr → List Token} {need : Expr → Nat}

/-- What comes of a template that is a selection. -/
theorem interpolate_selection (hparse : parseStatements dialect template = .ok [s.statement])
    (hrounded : request.rounded = .ok rounded) (htext : interpolate dialect request polls template = .ok text) :
    text = (s.map (rewriteExpr (expansionOf dialect rounded))).statement.toSql := by
  obtain ⟨_, -, htext⟩ := Outcome.bind_eq_ok.1 htext
  obtain ⟨statements, hread, htext⟩ := Outcome.bind_eq_ok.1 htext
  obtain rfl : statements = [s.statement] := by
    rw [hparse] at hread
    exact (Except.ok.inj hread).symm
  obtain ⟨result, hresult, hwritten⟩ := Outcome.bind_eq_ok.1 htext
  have hexpanded : expandStatements dialect rounded polls.rest [s.statement] = .ok result := by
    rw [expandRounded, hrounded] at hresult
    exact hresult
  obtain ⟨-, -, hmap⟩ := expandStatements_eq_ok.1 hexpanded
  have hone : renderStatements [(s.map (rewriteExpr (expansionOf dialect rounded))).statement] =
      (s.map (rewriteExpr (expansionOf dialect rounded))).statement.toSql := String.intercalate_singleton
  rw [List.map_cons, List.map_nil, rewriteStatement_eq_mapExprs, Selection.mapExprs_statement] at hmap
  rw [← hone, ← hmap]
  exact (Except.ok.inj hwritten).symm

/-- The range of a request is rounded, and the rest of it stays. -/
theorem rounded_of_interpolate (h : interpolate dialect request polls template = .ok text) :
    ∃ rounded, request.rounded = .ok rounded ∧ rounded.round = request.round := by
  obtain ⟨_, -, h⟩ := Outcome.bind_eq_ok.1 h
  obtain ⟨statements, -, h⟩ := Outcome.bind_eq_ok.1 h
  obtain ⟨result, hresult, -⟩ := Outcome.bind_eq_ok.1 h
  obtain ⟨rounded, hrounded, -⟩ := Outcome.bind_eq_ok.1 hresult
  refine ⟨rounded, hrounded, ?_⟩
  obtain ⟨range, -, hrange⟩ := Outcome.bind_eq_ok.1 hrounded
  cases hrange
  rfl

/-- A request without filters and without a unit to round to. -/
def plainRequest : Request := ⟨⟨.epoch, .epoch, Time.Instant.le_refl _⟩, [], .zero, .zero⟩

/-- The selection of `a = $__adHocFilter()`. -/
def comparedFilter : Selection :=
  ⟨⟨"SELECT", ⟨⟨1, 1⟩, ⟨1, 7⟩⟩⟩,
    .binary (.ident ⟨"a", none, some ⟨⟨1, 8⟩, ⟨1, 9⟩⟩⟩) .eq
      (.call [⟨"$__adHocFilter", none, some ⟨⟨1, 12⟩, ⟨1, 26⟩⟩⟩] none ⟨none, [], []⟩ ⟨false, none⟩ none none),
    [], none, none⟩

theorem parse_comparedFilter : parseStatements .generic "SELECT a = $__adHocFilter()" = .ok [comparedFilter.statement] := by
  have hlex : lexemes .generic "SELECT a = $__adHocFilter()" =
      .ok [⟨.word "SELECT" none, ⟨⟨1, 1⟩, ⟨1, 7⟩⟩⟩, ⟨.word "a" none, ⟨⟨1, 8⟩, ⟨1, 9⟩⟩⟩,
        ⟨.sign "=", ⟨⟨1, 10⟩, ⟨1, 11⟩⟩⟩, ⟨.word "$__adHocFilter" none, ⟨⟨1, 12⟩, ⟨1, 26⟩⟩⟩,
        ⟨.sign "(", ⟨⟨1, 26⟩, ⟨1, 27⟩⟩⟩, ⟨.sign ")", ⟨⟨1, 27⟩, ⟨1, 28⟩⟩⟩] := by decide +kernel
  rw [parseStatements_eq hlex]
  rfl

/-- What stands for no filters is `1 = 1`, without parentheses. -/
theorem expand_noFilters (i : Invocation) (h : i.kind = .adHocFilter) :
    expand .generic plainRequest i =
      .ok (.binary (.literal (.number "1" false)) .eq (.literal (.number "1" false))) := by
  have hlex : lexemes .generic "1 = 1" = .ok [⟨.number "1" false, ⟨⟨1, 1⟩, ⟨1, 2⟩⟩⟩, ⟨.sign "=", ⟨⟨1, 3⟩, ⟨1, 4⟩⟩⟩,
      ⟨.number "1" false, ⟨⟨1, 5⟩, ⟨1, 6⟩⟩⟩] := by decide +kernel
  refine expand_eq_ok.2 (.inr ⟨"1 = 1", ?_, (parseExpr_eq_ok hlex).2 rfl⟩)
  unfold render
  rw [h]
  rfl

/-- What stands in the place of a call that rounds nothing: its argument, in parentheses where it is said. -/
def unrounded (wrap : Invocation → Bool) (i : Invocation) (e : Expr) : Expr :=
  match i.args with
  | [] => e
  | a :: _ => if wrap i then .nested a else a

/-- A duration of less than one millisecond rounds nothing. -/
theorem expansionOf_round (h : request.round.millis = 0) {i : Invocation} (hi : i.kind = .round) (e : Expr) :
    expansionOf dialect request i e = unrounded (fun _ => false) i e := by
  have htext (value : String) : roundText? dialect request.round value = none := by
    simp [roundText?, roundUnit?, h]
  unfold expansionOf expand render
  rw [hi]
  cases hargs : i.args with
  | nil => simp [Invocation.arg, hargs, unrounded, bind, Except.bind]
  | cons a as => simp [Invocation.arg, hargs, htext, unrounded, bind, Except.bind, pure, Except.pure]

/-- Where the calls are replaced by the same expressions, the same comes of it. -/
theorem rewriteExpr_congr {c c' : Invocation → Expr → Expr} {kind : Kind}
    (hc : ∀ i e, i.kind = kind → c i e = c' i e) {e : Expr}
    (he : ∀ n i, Within n e → callOf n = some (.ok i) → i.kind = kind) : rewriteExpr c e = rewriteExpr c' e := by
  let t : Trail (substituter c) c' :=
    { holds := fun x a es => (∀ p ∈ es, ∀ n i, Within n p → callOf n = some (.ok i) → i.kind = kind) → x = a
      pure := fun a _ => rfl
      bind := by
        intro α β x f a b es es' hx hf hes
        obtain ⟨hes, hes'⟩ := List.forall_mem_append.1 hes
        obtain rfl := hx hes
        exact hf hes'
      ctes := fun cs _ => rfl
      expr := by
        intro e hinside hes
        have he := hes e List.mem_cons_self
        have hinside : rewriteInside c e = rewriteInside c' e :=
          hinside fun p hp n i hn => he n i (.inside hp hn)
        show rewriteExpr c e = _
        rw [rewriteExpr_eq, rewriteExpr_eq, hinside]
        rcases hcall : callOf e with _ | message | i
        · rw [replaced, replaced, (callOf_rewriteInside c' e).1 hcall]
        · obtain ⟨message', h'⟩ := (callOf_rewriteInside c' e).2.2 message hcall
          rw [replaced, replaced, h']
        · rw [replaced, replaced, (callOf_rewriteInside c' e).2.1 i hcall]
          exact hc _ _ (he e i .here hcall) }
  exact t.walkExpr_trail e (by simpa using he)

/-- Putting some arguments in parentheses gives some parentheses more. -/
theorem wrapped_unrounded (wrap : Invocation → Bool) (e : Expr) :
    Wrapped (rewriteExpr (unrounded wrap) e) (rewriteExpr (unrounded fun _ => false) e) := by
  induction e using parts_induction with
  | h e ih =>
    have hinside : Wrapped (rewriteInside (unrounded wrap) e) (rewriteInside (unrounded fun _ => false) e) := by
      rw [rewriteInside_eq_mapParts, rewriteInside_eq_mapParts]
      exact wrapped_mapParts ih
    rw [rewriteExpr_eq, rewriteExpr_eq, replaced, replaced]
    rcases hcall : callOf e with _ | message | i
    · rw [(callOf_rewriteInside _ e).1 hcall, (callOf_rewriteInside _ e).1 hcall]
      exact hinside
    · obtain ⟨m₁, h₁⟩ := (callOf_rewriteInside (unrounded wrap) e).2.2 message hcall
      obtain ⟨m₂, h₂⟩ := (callOf_rewriteInside (unrounded fun _ => false) e).2.2 message hcall
      rw [h₁, h₂]
      exact hinside
    · rw [(callOf_rewriteInside _ e).2.1 i hcall, (callOf_rewriteInside _ e).2.1 i hcall]
      cases hargs : i.args with
      | nil =>
        simp only [unrounded, Invocation.rewrite, hargs, List.map_nil]
        exact hinside
      | cons a as =>
        have ha := ih a (args_subset_parts hcall a (hargs ▸ List.mem_cons_self))
        simp only [unrounded, Invocation.rewrite, hargs, List.map_cons, Bool.false_eq_true, if_false]
        split
        · exact ha.nested
        · exact ha

/-- The selection of `$__round(a + 1) * 2`. -/
def roundedSum : Selection :=
  ⟨⟨"SELECT", ⟨⟨1, 1⟩, ⟨1, 7⟩⟩⟩,
    .binary
      (.call [⟨"$__round", none, some ⟨⟨1, 8⟩, ⟨1, 16⟩⟩⟩] none
        ⟨none, [.expr none (.binary (.ident ⟨"a", none, some ⟨⟨1, 17⟩, ⟨1, 18⟩⟩⟩) .plus (.literal (.number "1" false)))], []⟩
        ⟨false, none⟩ none none)
      .multiply (.literal (.number "2" false)),
    [], none, none⟩

theorem parse_roundedSum : parseStatements .generic "SELECT $__round(a + 1) * 2" = .ok [roundedSum.statement] := by
  have hlex : lexemes .generic "SELECT $__round(a + 1) * 2" =
      .ok [⟨.word "SELECT" none, ⟨⟨1, 1⟩, ⟨1, 7⟩⟩⟩, ⟨.word "$__round" none, ⟨⟨1, 8⟩, ⟨1, 16⟩⟩⟩,
        ⟨.sign "(", ⟨⟨1, 16⟩, ⟨1, 17⟩⟩⟩, ⟨.word "a" none, ⟨⟨1, 17⟩, ⟨1, 18⟩⟩⟩, ⟨.sign "+", ⟨⟨1, 19⟩, ⟨1, 20⟩⟩⟩,
        ⟨.number "1" false, ⟨⟨1, 21⟩, ⟨1, 22⟩⟩⟩, ⟨.sign ")", ⟨⟨1, 22⟩, ⟨1, 23⟩⟩⟩, ⟨.sign "*", ⟨⟨1, 24⟩, ⟨1, 25⟩⟩⟩,
        ⟨.number "2" false, ⟨⟨1, 26⟩, ⟨1, 27⟩⟩⟩] := by decide +kernel
  rw [parseStatements_eq hlex]
  rfl

end SqlTemplate
