import SqlTemplate.Interpolation
import SqlTemplate.Proofs.Calls

/-!
# Expanding a template

The statements that come of a template are those in which every call is replaced by its expansion, and they come of it
if and only if every expression in it can be expanded: its parts can, and if it is a call, it is a well-formed one and
its macro, with the arguments expanded, stands for an expression.

* `Expandable`: the expressions that can be expanded; `expandable_iff` goes through the parts.
* `expandStatements_eq_ok`: the statements that come of a template.
-/

namespace SqlTemplate

open Sql Macro

variable (dialect : Dialect) (request : Request)

/-- What stands in the place of a call; the call itself if its macro stands for nothing. -/
def expansionOf (i : Invocation) (e : Expr) : Expr :=
  match expand dialect request i with
  | .ok x => x
  | .error _ => e

/-- The walk through an expression comes to the one in which the calls are replaced by their expansions. -/
def Expandable (e : Expr) : Prop :=
  walkExpr (expander dialect request) e = .ok (rewriteExpr (expansionOf dialect request) e)

/-- The computation can only come to a value, and does so if the expressions that it walks can be expanded. -/
def Expands {α : Type} (x : Outcome α) (a : α) (es : List Expr) : Prop :=
  (∀ b, x = .ok b → b = a) ∧ (x = .ok a ↔ ∀ p ∈ es, Expandable dialect request p)

variable {dialect request}

theorem Outcome.bind_eq_ok {α β : Type} {x : Outcome α} {f : α → Outcome β} {b : β} :
    x >>= f = .ok b ↔ ∃ a, x = .ok a ∧ f a = .ok b := by
  cases x with
  | error e => exact ⟨fun h => (nomatch h), fun ⟨_, h, _⟩ => nomatch h⟩
  | ok a => exact ⟨fun h => ⟨a, rfl, h⟩, fun ⟨_, h, hf⟩ => by cases h; exact hf⟩

theorem Outcome.ok_of_toOption {ε α : Type} {x : Except ε α} {a : α} (h : x.toOption = some a) : x = .ok a := by
  cases x with
  | error => cases h
  | ok => exact congrArg Except.ok (Option.some.inj h)

theorem Expands.bind {α β : Type} {x : Outcome α} {f : α → Outcome β} {a : α} {b : β} {es es' : List Expr}
    (hx : Expands dialect request x a es) (hf : Expands dialect request (f a) b es') :
    Expands dialect request (x >>= f) b (es ++ es') := by
  refine ⟨fun b' h => ?_, ?_⟩
  · obtain ⟨a', ha, hb⟩ := Outcome.bind_eq_ok.1 h
    rw [hx.1 a' ha] at hb
    exact hf.1 b' hb
  · rw [Outcome.bind_eq_ok]
    constructor
    · rintro ⟨a', ha, hb⟩ p hp
      obtain rfl := hx.1 a' ha
      rcases List.mem_append.1 hp with hp | hp
      · exact hx.2.1 ha p hp
      · exact hf.2.1 hb p hp
    · intro h
      refine ⟨a, hx.2.2 fun p hp => h p (List.mem_append_left _ hp), ?_⟩
      exact hf.2.2 fun p hp => h p (List.mem_append_right _ hp)

/-- A macro stands for an expression of its own or for the one that its text is read as. -/
theorem expand_eq_ok {i : Invocation} {x : Expr} :
    expand dialect request i = .ok x ↔ render dialect i request = .ok (.expr x) ∨
      ∃ text, render dialect i request = .ok (.sql text) ∧ parseExpr dialect text = .ok x := by
  unfold expand
  rcases render dialect i request with e | text | e
  · simp
  · simp only [Except.ok.injEq, reduceCtorEq, Fragment.sql.injEq, false_or, exists_eq_left']
    rcases parseExpr dialect text with (e | report) | e <;> simp
  · simp

/-- Only a macro that rounds nothing stands for an expression of its own, which is its argument. -/
theorem mem_args_of_render {i : Invocation} {x : Expr} (h : render dialect i request = .ok (.expr x)) : x ∈ i.args := by
  have hsql : ∀ {y : Except RenderError String}, (Fragment.sql <$> y) ≠ .ok (.expr x) := by
    rintro (e | text) <;> simp [Functor.map, Except.map]
  unfold render at h
  split at h
  · exact absurd h hsql
  · exact absurd h hsql
  · exact absurd h hsql
  · cases harg : i.args[0]? with
    | none => simp [Invocation.arg, harg, bind, Except.bind] at h
    | some value =>
      simp only [Invocation.arg, harg, bind, Except.bind, pure, Except.pure, Except.ok.injEq] at h
      split at h <;> cases h
      exact List.mem_of_getElem? harg
  · cases h

/-- Placeholders stay as they are. -/
theorem expander_ctes (cs : List Cte) : (expander dialect request).ctes cs = .ok () := by
  induction cs with
  | nil => rfl
  | cons cte cs ih =>
    rcases hplace : placeholderOf cte with _ | s | placeholder
    · simpa [Visitor.ctes, hplace] using ih
    · have hquiet : (expander dialect request).malformed s = .ok () := by
        simp [expander, target_of_placeholderOf hplace, pure, Except.pure]
      simp only [Visitor.ctes, hplace, hquiet]
      exact ih
    · simp only [Visitor.ctes, hplace]
      exact ih

variable (dialect request) in
/-- What a visit puts in the place of an expression. -/
theorem expander_expr (e x : Expr) :
    (expander dialect request).expr e = .ok x ↔
      x = replaced (expansionOf dialect request) e ∧ (∀ s, callOf e ≠ some (.error s)) ∧
        ∀ i, callOf e = some (.ok i) → ∃ x, expand dialect request i = .ok x := by
  unfold Visitor.expr replaced
  rcases hcall : callOf e with _ | s | i
  · simp [pure, Except.pure, eq_comm]
  · simp [expander, target_of_callOf hcall, bind, Except.bind]
  · show expand dialect request i = .ok x ↔ _
    cases hx : expand dialect request i <;> simp [expansionOf, hx, eq_comm]

variable (dialect request) in
/-- What a walk through a template comes to. -/
def expanding : Trail (expander dialect request) (expansionOf dialect request) where
  holds := Expands dialect request
  pure a := ⟨fun b h => by cases h; rfl, by simp [pure, Except.pure]⟩
  bind := Expands.bind
  ctes cs := ⟨fun _ _ => rfl, by simp [expander_ctes]⟩
  expr e h := by
    refine ⟨fun b hb => ?_, by simp [Expandable]⟩
    rw [walkExpr_eq, Outcome.bind_eq_ok] at hb
    obtain ⟨e₁, he₁, hb⟩ := hb
    rw [h.1 e₁ he₁] at hb
    rw [((expander_expr dialect request _ b).1 hb).1, rewriteExpr_eq]

/-- An expression can be expanded if its parts can, and if it is a call, its macro stands for an expression. -/
theorem expandable_iff (e : Expr) :
    Expandable dialect request e ↔ (∀ p ∈ e.parts, Expandable dialect request p) ∧
      (∀ s, callOf e ≠ some (.error s)) ∧ ∀ i, callOf e = some (.ok i) →
        ∃ x, expand dialect request (i.rewrite (expansionOf dialect request)) = .ok x := by
  have hinside := (expanding dialect request).walkInside_trail e
  obtain ⟨hnone, hok, herror⟩ := callOf_rewriteInside (expansionOf dialect request) e
  have hvisit := expander_expr dialect request (rewriteInside (expansionOf dialect request) e)
    (rewriteExpr (expansionOf dialect request) e)
  have hcall : ((∀ s, callOf (rewriteInside (expansionOf dialect request) e) ≠ some (.error s)) ∧
      ∀ i, callOf (rewriteInside (expansionOf dialect request) e) = some (.ok i) → ∃ x, expand dialect request i = .ok x) ↔
      (∀ s, callOf e ≠ some (.error s)) ∧ ∀ i, callOf e = some (.ok i) →
        ∃ x, expand dialect request (i.rewrite (expansionOf dialect request)) = .ok x := by
    rcases hcall : callOf e with _ | s | i
    · simp [hnone hcall]
    · obtain ⟨s', hs'⟩ := herror s hcall
      simp [hs']
    · simp [hok i hcall]
  rw [Expandable, walkExpr_eq, Outcome.bind_eq_ok, ← hinside.2, ← hcall]
  constructor
  · rintro ⟨e₁, he₁, hx⟩
    obtain rfl := hinside.1 e₁ he₁
    exact ⟨he₁, (hvisit.1 hx).2⟩
  · rintro ⟨he₁, hx⟩
    exact ⟨_, he₁, hvisit.2 ⟨rewriteExpr_eq _ e, hx⟩⟩

theorem Expandable.within {n e : Expr} (h : Expandable dialect request e) (hn : Within n e) :
    Expandable dialect request n := by
  induction hn with
  | here => exact h
  | inside hp _ ih => exact ih (((expandable_iff _).1 h).1 _ hp)

theorem walkExprs_of_expandable {es : List Expr} (h : ∀ e ∈ es, Expandable dialect request e) :
    walkExprs (expander dialect request) es = .ok (es.map (rewriteExpr (expansionOf dialect request))) := by
  have hes := ((expanding dialect request).walkExprs_trail es).2.2 h
  rw [hes, exprs_walkExprs]

/-- A call that is left in an expanded expression has come from the text of a macro that was called in it. -/
theorem call_of_expanded {e n : Expr} (h : Expandable dialect request e)
    (hn : Within n (rewriteExpr (expansionOf dialect request) e)) (hcall : callOf n ≠ none) :
    ∃ e₀ i text x, Within e₀ e ∧ callOf e₀ = some (.ok i) ∧
      render dialect (i.rewrite (expansionOf dialect request)) request = .ok (.sql text) ∧
      parseExpr dialect text = .ok x ∧ Within x (rewriteExpr (expansionOf dialect request) e) ∧ Within n x := by
  induction e using parts_induction generalizing n with
  | h e ih =>
    obtain ⟨hparts, herror, hexpands⟩ := (expandable_iff e).1 h
    obtain ⟨hnone, hok, -⟩ := callOf_rewriteInside (expansionOf dialect request) e
    rw [rewriteExpr_eq, replaced] at hn ⊢
    rcases hkind : callOf e with _ | s | i
    · -- no call: the one that is left stands in some part
      rw [hnone hkind] at hn ⊢
      cases hn with
      | here => exact absurd (hnone hkind) hcall
      | inside hp hn =>
        rw [parts_rewriteInside] at hp
        obtain ⟨p, hpart, rfl⟩ := List.mem_map.1 hp
        obtain ⟨e₀, i, text, x, he₀, hi, ht, hx, hxp, hnx⟩ := ih p hpart (hparts p hpart) hn hcall
        refine ⟨e₀, i, text, x, .inside hpart he₀, hi, ht, hx, .inside ?_ hxp, hnx⟩
        rw [parts_rewriteInside]
        exact hp
    · exact absurd hkind (herror s)
    · rw [hok i hkind] at hn ⊢
      obtain ⟨x, hx⟩ := hexpands i hkind
      simp only [expansionOf, hx] at hn ⊢
      rcases expand_eq_ok.1 hx with harg | ⟨text, htext, hread⟩
      · -- the argument itself, which is a part that is expanded
        obtain ⟨p, hp, rfl⟩ := List.mem_map.1 (mem_args_of_render harg)
        have hpart := args_subset_parts hkind p hp
        obtain ⟨e₀, i, text, x, he₀, hi, ht, hx, hxp, hnx⟩ := ih p hpart (hparts p hpart) hn hcall
        exact ⟨e₀, i, text, x, .inside hpart he₀, hi, ht, hx, hxp, hnx⟩
      · exact ⟨e, i, text, x, .here, hkind, htext, hread, .here, hn⟩

/-- If a call is left in an expanded expression, some macro whose arguments hold none has a text that is read as an
expression with a call. -/
theorem call_of_plain_args {e : Expr} (h : Expandable dialect request e)
    (hcall : HasCall (rewriteExpr (expansionOf dialect request) e)) :
    ∃ e₀ i text x, Within e₀ e ∧ callOf e₀ = some (.ok i) ∧
      (∀ a ∈ i.args, ¬ HasCall (rewriteExpr (expansionOf dialect request) a)) ∧
      render dialect (i.rewrite (expansionOf dialect request)) request = .ok (.sql text) ∧
      parseExpr dialect text = .ok x ∧ HasCall x := by
  induction e using parts_induction with
  | h e ih =>
    obtain ⟨hparts, herror, hexpands⟩ := (expandable_iff e).1 h
    obtain ⟨hnone, hok, -⟩ := callOf_rewriteInside (expansionOf dialect request) e
    by_cases hinside : ∃ p ∈ e.parts, HasCall (rewriteExpr (expansionOf dialect request) p)
    · obtain ⟨p, hp, hleft⟩ := hinside
      obtain ⟨e₀, i, text, x, he₀, hx⟩ := ih p hp (hparts p hp) hleft
      exact ⟨e₀, i, text, x, .inside hp he₀, hx⟩
    · -- then the expression is a call whose arguments hold none
      have hplain : ∀ p ∈ e.parts, ¬ HasCall (rewriteExpr (expansionOf dialect request) p) :=
        fun p hp hleft => hinside ⟨p, hp, hleft⟩
      rw [rewriteExpr_eq, replaced] at hcall
      rcases hkind : callOf e with _ | s | i
      · rw [hnone hkind, hasCall_iff, parts_rewriteInside] at hcall
        rcases hcall with hself | ⟨p', hp', hleft⟩
        · exact absurd (hnone hkind) hself
        · obtain ⟨p, hp, rfl⟩ := List.mem_map.1 hp'
          exact absurd hleft (hplain p hp)
      · exact absurd hkind (herror s)
      · have hargs := fun a ha => hplain a (args_subset_parts hkind a ha)
        rw [hok i hkind] at hcall
        obtain ⟨x, hx⟩ := hexpands i hkind
        simp only [expansionOf, hx] at hcall
        rcases expand_eq_ok.1 hx with harg | ⟨text, htext, hread⟩
        · obtain ⟨a, ha, rfl⟩ := List.mem_map.1 (mem_args_of_render harg)
          exact absurd hcall (hargs a ha)
        · exact ⟨e, i, text, x, .here, hkind, hargs, htext, hread, hcall⟩

/-! ## Statements -/

/-- **What comes of expanding statements** that are not stopped: those in which the calls are replaced by their
expansions, if all their expressions can be expanded. -/
theorem expandStatements_eq_ok {polls : Polls} {statements result : List Statement} :
    expandStatements dialect request polls statements = .ok result ↔
      (∀ n ≤ statements.length, polls n = .ok ()) ∧
      (∀ s ∈ statements, ∀ p ∈ s.exprs, Expandable dialect request p) ∧
      result = statements.map (rewriteStatement (expansionOf dialect request)) := by
  have hask : ∀ polls : Polls, polls.ask = .ok () ↔ polls 0 = .ok () := by
    intro polls
    unfold Polls.ask Outcome.lift
    cases polls 0 <;> simp
  induction statements generalizing polls result with
  | nil =>
    rw [expandStatements, Outcome.bind_eq_ok]
    simp [hask, pure, Except.pure, eq_comm]
  | cons s ss ih =>
    have hs := (expanding dialect request).walkStatement_trail s
    rw [expandStatements, Outcome.bind_eq_ok]
    simp only [Outcome.bind_eq_ok]
    constructor
    · rintro ⟨_, hpoll, s', hs', ss', hss', hresult⟩
      cases hresult
      obtain ⟨hpolls, hexprs, rfl⟩ := ih.1 hss'
      obtain rfl := hs.1 s' hs'
      refine ⟨fun n hn => ?_, fun s' hs'' p hp => ?_, rfl⟩
      · cases n with
        | zero => exact (hask polls).1 hpoll
        | succ n => exact hpolls n (by simpa using hn)
      · rcases List.mem_cons.1 hs'' with rfl | hs''
        · exact hs.2.1 hs' p hp
        · exact hexprs s' hs'' p hp
    · rintro ⟨hpolls, hexprs, rfl⟩
      refine ⟨(), (hask polls).2 (hpolls 0 (Nat.zero_le _)), _, hs.2.2 (hexprs s List.mem_cons_self), _, ?_, rfl⟩
      refine ih.2 ⟨fun n hn => hpolls (n + 1) (by simpa using hn), fun s' hs' => ?_, rfl⟩
      exact hexprs s' (List.mem_cons_of_mem _ hs')

/-- An expression in a template whose statements are expanded is expanded itself. -/
theorem expandable_of_standsIn {statements : List Statement}
    (h : ∀ s ∈ statements, ∀ p ∈ s.exprs, Expandable dialect request p) {e : Expr} (he : StandsIn e statements) :
    Expandable dialect request e := by
  obtain ⟨s, hs, p, hp, hn⟩ := he
  exact (h s hs p hp).within hn

end SqlTemplate
