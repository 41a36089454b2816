import SqlTemplate.Proofs.FilterCalls

/-!
# Calls that are left

The statements that come of a template hold no macro call, whatever stands in the arguments of its macros and whatever
the filters ask for, with one exception: the text of a macro with arguments, in which these are written again, may be
read as an expression that holds a call. A call that is left stands in such an expression.

* `ReadBack`: the expressions that are read from the texts of the calls of a template.
* `no_call_left_iff`: when no call is left.
-/

namespace SqlTemplate

open Sql Macro

variable {dialect : Dialect} {request : Request}

/-- The text of a macro without arguments, and that of filters, is read without calls. -/
theorem not_hasCall_of_text {i : Invocation} (hi : i.args = [] ∨ i.kind = .adHocFilter) {text : String}
    (ht : render dialect i request = .ok (.sql text)) {x : Expr} (hx : parseExpr dialect text = .ok x) :
    ¬ HasCall x := by
  have hmap : ∀ {y : Except RenderError String}, Fragment.sql <$> y = .ok (.sql text) → y = .ok text := by
    rintro (e | text') h <;> cases h
    rfl
  have hmissing : ∀ index, i.args = [] → i.arg index = .error (.missingArgument (index + 1)) := by
    intro index hargs
    simp [Invocation.arg, hargs]
  unfold render at ht
  split at ht
  · rename_i filter hkind
    have hargs : i.args = [] := hi.resolve_right (by simp [hkind])
    have ht := hmap ht
    cases filter with
    | start precision =>
      cases ht
      exact not_hasCall_timeValue _ _ _ hx
    | stop precision =>
      cases ht
      exact not_hasCall_timeValue _ _ _ hx
    | _ => simp [timeFilterText, hmissing _ hargs, bind, Except.bind] at ht
  · rename_i interval hkind
    have hargs : i.args = [] := hi.resolve_right (by simp [hkind])
    have ht := hmap ht
    cases interval with
    | bucket precision => simp [intervalText, hmissing _ hargs, bind, Except.bind] at ht
    | seconds =>
      cases ht
      exact not_hasCall_number _ _ hx
    | millis =>
      cases ht
      exact not_hasCall_number _ _ hx
  · exact not_hasCall_filters (hmap ht) hx
  · rename_i hkind
    have hargs : i.args = [] := hi.resolve_right (by simp [hkind])
    simp [hmissing _ hargs, bind, Except.bind] at ht
  · cases ht

/-- A macro is called somewhere in the statements, `args` are its arguments expanded, and its text, in which these are
written, is read as the expression `x`. -/
def ReadBack (dialect : Dialect) (request : Request) (statements : List Statement) (i : Invocation) (args : List Expr)
    (x : Expr) : Prop :=
  ∃ e text, StandsIn e statements ∧ callOf e = some (.ok i) ∧
    walkExprs (expander dialect request) i.args = .ok args ∧
    render dialect { i with args } request = .ok (.sql text) ∧ parseExpr dialect text = .ok x

/-- The text of a call that stands in an expanded expression is read back. -/
theorem readBack_of_within {statements : List Statement} {s : Statement} {e p x : Expr} {i : Invocation} {text : String}
    (hexprs : ∀ s ∈ statements, ∀ p ∈ s.exprs, Expandable dialect request p) (hs : s ∈ statements) (hp : p ∈ s.exprs)
    (he : Within e p) (hi : callOf e = some (.ok i))
    (ht : render dialect (i.rewrite (expansionOf dialect request)) request = .ok (.sql text))
    (hx : parseExpr dialect text = .ok x) :
    ReadBack dialect request statements i (i.args.map (rewriteExpr (expansionOf dialect request))) x := by
  have hexpandable : ∀ a ∈ i.args, Expandable dialect request a := by
    have hpart := (expandable_iff e).1 ((hexprs s hs p hp).within he)
    exact fun a ha => hpart.1 a (args_subset_parts hi a ha)
  exact ⟨e, text, ⟨s, hs, p, hp, he⟩, hi, walkExprs_of_expandable hexpandable, ht, hx⟩

/-- **When no call is left**: if none is read back from the text of a macro with arguments, other than a filter. A call
that is left comes from a macro whose arguments hold none, when they are written and read again. -/
theorem no_call_left_iff (dialect : Dialect) (request : Request) (polls : Polls) (statements result : List Statement)
    (h : expandRounded dialect request polls statements = .ok result) :
    ∃ rounded, request.rounded = .ok rounded ∧
      ((∀ s ∈ sites result, ¬ s.IsCall) ↔ ∀ i args x, ReadBack dialect rounded statements i args x → args ≠ [] →
        i.kind ≠ .adHocFilter → StandsIn x result → ¬ HasCall x) ∧
      ((∃ s ∈ sites result, s.IsCall) → ∃ i args x, ReadBack dialect rounded statements i args x ∧ args ≠ [] ∧
        i.kind ≠ .adHocFilter ∧ (∀ a ∈ args, ¬ HasCall a) ∧ HasCall x) := by
  obtain ⟨rounded, hrounded, hexpand⟩ := Outcome.bind_eq_ok.1 h
  refine ⟨rounded, hrounded, ?_⟩
  obtain ⟨-, hexprs, rfl⟩ := expandStatements_eq_ok.1 hexpand
  have hsites := exists_call_site_iff (statements.map (rewriteStatement (expansionOf dialect rounded)))
  -- a call that is left stands in the expansion of an expression of the template
  have hleft : (∃ s ∈ sites (statements.map (rewriteStatement (expansionOf dialect rounded))), s.IsCall) →
      ∃ s ∈ statements, ∃ p ∈ s.exprs, ∃ n, Within n (rewriteExpr (expansionOf dialect rounded) p) ∧ callOf n ≠ none := by
    intro hs
    obtain ⟨n, ⟨s', hs', p', hp', hn⟩, hcall⟩ := hsites.1 hs
    obtain ⟨s, hs, rfl⟩ := List.mem_map.1 hs'
    rw [exprs_rewriteStatement] at hp'
    obtain ⟨p, hp, rfl⟩ := List.mem_map.1 hp'
    exact ⟨s, hs, p, hp, n, hn, hcall⟩
  -- the macro that it comes from has arguments
  have hargs : ∀ {i : Invocation} {text : String} {x : Expr},
      render dialect (i.rewrite (expansionOf dialect rounded)) rounded = .ok (.sql text) →
      parseExpr dialect text = .ok x → HasCall x →
      i.args.map (rewriteExpr (expansionOf dialect rounded)) ≠ [] ∧ i.kind ≠ .adHocFilter := by
    intro i text x ht hx hcall
    refine ⟨fun hi => not_hasCall_of_text (.inl hi) ht hx hcall, fun hi => ?_⟩
    have hkind : (i.rewrite (expansionOf dialect rounded)).kind = .adHocFilter := hi
    exact not_hasCall_of_text (.inr hkind) ht hx hcall
  refine ⟨⟨?_, ?_⟩, ?_⟩
  · intro hnone i args x _ _ _ hx ⟨n, hn, hcall⟩
    obtain ⟨s, hs, hscall⟩ := hsites.2 ⟨n, hx.within hn, hcall⟩
    exact hnone s hs hscall
  · intro hread s₀ hs₀ hscall
    obtain ⟨s, hs, p, hp, n, hn, hcall⟩ := hleft ⟨s₀, hs₀, hscall⟩
    obtain ⟨e, i, text, x, he, hi, ht, hx, hxp, hnx⟩ := call_of_expanded (hexprs s hs p hp) hn hcall
    have hx' : HasCall x := ⟨n, hnx, hcall⟩
    refine hread i _ x (readBack_of_within hexprs hs hp he hi ht hx) (hargs ht hx hx').1 (hargs ht hx hx').2 ?_ hx'
    refine ⟨_, List.mem_map_of_mem hs, _, ?_, hxp⟩
    rw [exprs_rewriteStatement]
    exact List.mem_map_of_mem hp
  · intro hs
    obtain ⟨s, hs, p, hp, hcall⟩ := hleft hs
    obtain ⟨e, i, text, x, he, hi, hplain, ht, hx, hx'⟩ := call_of_plain_args (hexprs s hs p hp) hcall
    refine ⟨i, _, x, readBack_of_within hexprs hs hp he hi ht hx, (hargs ht hx hx').1, (hargs ht hx hx').2, ?_, hx'⟩
    simpa using hplain

/-- A template in which a name in quotes behind a colon is written without them, and read back as a sum with a call. -/
theorem call_left_of_quoted_placeholder :
    ∃ statements result rounded i args x,
      parseStatements .clickHouse "SELECT $__timeFilter(:\"a + $__interval_s\")" = .ok statements ∧
      expandRounded .clickHouse ⟨⟨.epoch, .epoch, by decide⟩, [], .zero, .zero⟩ (fun _ => .ok ()) statements = .ok result ∧
      (∃ s ∈ sites result, s.IsCall) ∧ ReadBack .clickHouse rounded statements i args x ∧ (∀ a ∈ args, ¬ HasCall a) ∧
      HasCall x := by
  have hrun : (match parseStatements .clickHouse "SELECT $__timeFilter(:\"a + $__interval_s\")" with
      | .ok statements =>
        match expandRounded .clickHouse ⟨⟨.epoch, .epoch, by decide⟩, [], .zero, .zero⟩ (fun _ => .ok ()) statements with
        | .ok result => decide (∃ s ∈ sites result, s.IsCall)
        | .error _ => false
      | .error _ => false) = true := by decide +kernel
  split at hrun
  · rename_i statements hparse
    split at hrun
    · rename_i result hexpand
      have hcall := of_decide_eq_true hrun
      obtain ⟨rounded, -, -, horigin⟩ := no_call_left_iff _ _ _ _ _ hexpand
      obtain ⟨i, args, x, hread, -, -, hplain, hx⟩ := horigin hcall
      exact ⟨statements, result, rounded, i, args, x, hparse, hexpand, hcall, hread, hplain, hx⟩
    · cases hrun
  · cases hrun

end SqlTemplate
