import SqlTemplate.Proofs.Walks

/-!
# Calls in a tree

Whether an expression is a macro call depends on its name and on how its arguments are written, not on what stands in
them: replacing calls inside an expression leaves a call a call, with its arguments replaced. A walk that notes the
sites of statements finds a call if and only if some expression that stands in them is one.

* `callOf_rewriteInside`: the calls of a replaced tree.
* `exists_call_site_iff`: the calls that a walk finds.
-/

namespace SqlTemplate.Macro

open Sql

/-- The site is a call, whether it can stand as it was written or not. -/
def Site.IsCall : Site → Prop
  | .call _ _ => True
  | .cte _ => False
  | .malformed error => error.target = .call

instance : (s : Site) → Decidable s.IsCall
  | .call _ _ => .isTrue trivial
  | .cte _ => .isFalse id
  | .malformed error => inferInstanceAs (Decidable (error.target = .call))

/-- A macro call stands in the expression. -/
def HasCall (e : Expr) : Prop := ∃ n, Within n e ∧ callOf n ≠ none

theorem hasCall_iff (e : Expr) : HasCall e ↔ callOf e ≠ none ∨ ∃ p ∈ e.parts, HasCall p := by
  constructor
  · rintro ⟨n, hn, hcall⟩
    cases hn with
    | here => exact .inl hcall
    | inside hp hn => exact .inr ⟨_, hp, n, hn, hcall⟩
  · rintro (hcall | ⟨p, hp, n, hn, hcall⟩)
    · exact ⟨e, .here, hcall⟩
    · exact ⟨n, .inside hp hn, hcall⟩

theorem not_hasCall {e : Expr} (h : callOf e = none) (hparts : ∀ p ∈ e.parts, ¬ HasCall p) : ¬ HasCall e := by
  rw [hasCall_iff]
  rintro (hcall | ⟨p, hp, hcall⟩)
  · exact hcall h
  · exact hparts p hp hcall

/-- An expression without parts, like a constant. -/
theorem not_hasCall_of_leaf {e : Expr} (h : callOf e = none) (hparts : e.parts = []) : ¬ HasCall e :=
  not_hasCall h (by simp [hparts])

theorem not_hasCall_literal (value : Literal) : ¬ HasCall (.literal value) := not_hasCall_of_leaf rfl rfl

/-! ## Recognising calls -/

/-- A name that does not start like those of macros calls none. -/
theorem callOf_eq_none {e : Expr} {name : Ident} {args : Except String (List Expr)}
    (h : candidate? e = some (name, args)) (hname : name.quote.isSome ∨ isMacroName name.text = false) :
    callOf e = none := by
  rcases hname with hname | hname <;> simp [callOf, h, hname]

/-- A function whose name is that of no macro holds a call only in its arguments. -/
theorem not_hasCall_function {function : Ident} (hname : isMacroName function.text = false) (args : List Expr)
    (hargs : ∀ e ∈ args, ¬ HasCall e) :
    ¬ HasCall (.call [function] none ⟨none, args.map (.expr none), []⟩ ⟨false, none⟩ none none) := by
  refine not_hasCall (callOf_eq_none rfl (.inr hname)) ?_
  rw [parts_call_plain]
  exact hargs

variable (c : Invocation → Expr → Expr)

/-- Arguments in which every call is replaced. -/
def rewriteArgs (args : List Arg) : List Arg := walkArgs (substituter c) args

/-- Arguments are those of a macro, or not, before and after the calls in them are replaced. -/
theorem macroArgs_rewrite (args : List Arg) :
    (∀ es, args.mapM plainArg = .ok es → (rewriteArgs c args).mapM plainArg = .ok (es.map (rewriteExpr c))) ∧
    (∀ message, args.mapM plainArg = .error message →
      ∃ message', (rewriteArgs c args).mapM plainArg = .error message') := by
  induction args with
  | nil => exact ⟨fun es h => by cases h; rfl, fun _ h => nomatch h⟩
  | cons a as ih =>
    have hwalk : rewriteArgs c (a :: as) = walkArg (substituter c) a :: rewriteArgs c as := rfl
    rw [hwalk, List.mapM_cons, List.mapM_cons]
    rcases a with ⟨_ | label, value⟩ | ⟨label, qualifier⟩
    · have hplain : plainArg (walkArg (substituter c) (.expr none value)) = .ok (rewriteExpr c value) := rfl
      rw [show plainArg (.expr none value) = .ok value from rfl, hplain]
      cases hrest : as.mapM plainArg with
      | ok es =>
        rw [ih.1 es hrest]
        exact ⟨fun _ h => by cases h; rfl, fun _ h => nomatch h⟩
      | error message =>
        obtain ⟨message', h'⟩ := ih.2 message hrest
        rw [h']
        exact ⟨fun _ h => (nomatch h), fun _ _ => ⟨message', rfl⟩⟩
    · exact ⟨fun _ h => (nomatch h), fun _ _ => ⟨_, rfl⟩⟩
    · exact ⟨fun _ h => (nomatch h), fun _ _ => ⟨_, rfl⟩⟩

/-- What an invocation is once the calls in its arguments are replaced. -/
def Invocation.rewrite (i : Invocation) : Invocation := { i with args := i.args.map (rewriteExpr c) }

/-- A name with arguments, or with an error in them, is a macro call before and after their calls are replaced. -/
theorem candidate?_rewriteInside (e : Expr) :
    (candidate? e = none → candidate? (rewriteInside c e) = none) ∧
    (∀ name es, candidate? e = some (name, .ok es) →
      candidate? (rewriteInside c e) = some (name, .ok (es.map (rewriteExpr c)))) ∧
    (∀ name message, candidate? e = some (name, .error message) →
      ∃ message', candidate? (rewriteInside c e) = some (name, .error message')) := by
  cases e with
  | ident name => exact ⟨fun h => (nomatch h), fun _ _ h => by cases h; rfl, fun _ _ h => nomatch h⟩
  | bareCall names =>
    rcases names with _ | ⟨name, _ | ⟨name', names⟩⟩
    · exact ⟨fun _ => rfl, fun _ _ h => (nomatch h), fun _ _ h => nomatch h⟩
    · exact ⟨fun h => (nomatch h), fun _ _ h => by cases h; rfl, fun _ _ h => nomatch h⟩
    · exact ⟨fun _ => rfl, fun _ _ h => (nomatch h), fun _ _ h => nomatch h⟩
  | queryCall names query =>
    rcases names with _ | ⟨name, _ | ⟨name', names⟩⟩
    · exact ⟨fun _ => rfl, fun _ _ h => (nomatch h), fun _ _ h => nomatch h⟩
    · exact ⟨fun h => (nomatch h), fun _ _ h => (nomatch h), fun _ _ h => by cases h; exact ⟨_, rfl⟩⟩
    · exact ⟨fun _ => rfl, fun _ _ h => (nomatch h), fun _ _ h => nomatch h⟩
  | call names parameters args style window withinGroup =>
    rcases names with _ | ⟨name, _ | ⟨name', names⟩⟩
    · exact ⟨fun _ => rfl, fun _ _ h => (nomatch h), fun _ _ h => nomatch h⟩
    · obtain ⟨repeats, args, clauses⟩ := args
      obtain ⟨hok, herror⟩ := macroArgs_rewrite c args
      refine ⟨fun h => (nomatch h), fun name' es h => ?_, fun name' message h => ?_⟩
      · simp only [candidate?, macroArgs, Option.some.injEq, Prod.mk.injEq] at h
        obtain ⟨rfl, h⟩ := h
        exact congrArg (fun args => some (name, args)) (hok es h)
      · simp only [candidate?, macroArgs, Option.some.injEq, Prod.mk.injEq] at h
        obtain ⟨rfl, h⟩ := h
        obtain ⟨message', h'⟩ := herror message h
        exact ⟨message', congrArg (fun args => some (name, args)) h'⟩
    · exact ⟨fun _ => rfl, fun _ _ h => (nomatch h), fun _ _ h => nomatch h⟩
  | _ => exact ⟨fun _ => rfl, fun _ _ h => (nomatch h), fun _ _ h => nomatch h⟩

/-- Whether a name with arguments is a macro depends on their number only. -/
theorem invocationOf_rewrite (name : Ident) (es : List Expr) :
    (invocationOf name (.ok es) = none → invocationOf name (.ok (es.map (rewriteExpr c))) = none) ∧
    (∀ i, invocationOf name (.ok es) = some (.ok i) →
      invocationOf name (.ok (es.map (rewriteExpr c))) = some (.ok (i.rewrite c))) ∧
    (∀ s, invocationOf name (.ok es) = some (.error s) →
      invocationOf name (.ok (es.map (rewriteExpr c))) = some (.error s)) := by
  simp only [invocationOf, List.length_map]
  cases resolve name.text es.length with
  | found entry => exact ⟨fun h => (nomatch h), fun i h => by cases h; rfl, fun _ h => nomatch h⟩
  | mismatch expected => exact ⟨fun h => (nomatch h), fun _ h => (nomatch h), fun _ h => h⟩
  | unknown => exact ⟨fun h => h, fun _ h => (nomatch h), fun _ h => nomatch h⟩

/-- An expression is a call before and after the calls inside it are replaced, and its arguments are replaced then. -/
theorem callOf_rewriteInside (e : Expr) :
    (callOf e = none → callOf (rewriteInside c e) = none) ∧
    (∀ i, callOf e = some (.ok i) → callOf (rewriteInside c e) = some (.ok (i.rewrite c))) ∧
    (∀ s, callOf e = some (.error s) → ∃ s', callOf (rewriteInside c e) = some (.error s')) := by
  obtain ⟨hnone, hok, herror⟩ := candidate?_rewriteInside c e
  unfold callOf
  rcases hcandidate : candidate? e with _ | ⟨name, message | es⟩
  · rw [hnone hcandidate]
    exact ⟨fun _ => rfl, fun _ h => (nomatch h), fun _ h => nomatch h⟩
  · obtain ⟨message', h'⟩ := herror name message hcandidate
    rw [h']
    dsimp only
    split
    · exact ⟨fun _ => rfl, fun _ h => (nomatch h), fun _ h => nomatch h⟩
    · simp only [invocationOf]
      split
      · exact ⟨fun h => (nomatch h), fun _ h => (nomatch h), fun _ _ => ⟨_, rfl⟩⟩
      · exact ⟨fun _ => rfl, fun _ h => (nomatch h), fun _ h => nomatch h⟩
  · rw [hok name es hcandidate]
    dsimp only
    split
    · exact ⟨fun _ => rfl, fun _ h => (nomatch h), fun _ h => nomatch h⟩
    · obtain ⟨hnone, hok, herror⟩ := invocationOf_rewrite c name es
      exact ⟨hnone, hok, fun s h => ⟨s, herror s h⟩⟩

theorem callOf_rewriteInside_eq_none {e : Expr} : callOf (rewriteInside c e) = none ↔ callOf e = none := by
  obtain ⟨hnone, hok, herror⟩ := callOf_rewriteInside c e
  refine ⟨fun h => ?_, hnone⟩
  rcases hcall : callOf e with _ | s | i
  · rfl
  · obtain ⟨s', h'⟩ := herror s hcall
    rw [h'] at h
    cases h
  · rw [hok i hcall] at h
    cases h

/-- Each argument that a macro gets is one of the call. -/
theorem mem_of_plainArgs {args : List Arg} {es : List Expr} (h : args.mapM plainArg = .ok es) {a : Expr} (ha : a ∈ es) :
    Arg.expr none a ∈ args := by
  induction args generalizing es with
  | nil =>
    cases h
    cases ha
  | cons arg args ih =>
    rw [List.mapM_cons] at h
    rcases arg with ⟨_ | label, value⟩ | ⟨label, qualifier⟩
    · cases hrest : args.mapM plainArg with
      | error message =>
        rw [hrest] at h
        cases h
      | ok rest =>
        rw [hrest] at h
        cases h
        rcases List.mem_cons.1 ha with rfl | ha
        · exact List.mem_cons_self
        · exact List.mem_cons_of_mem _ (ih hrest ha)
    · cases h
    · cases h

/-- What is listed for a member is listed for all of them. -/
theorem mem_listed {α β : Type} {own : α → List β} (listed : List α → List β)
    (hcons : ∀ a as, listed (a :: as) = own a ++ listed as) {a : α} {b : β} (hb : b ∈ own a) :
    ∀ {as : List α}, a ∈ as → b ∈ listed as
  | c :: as, h => by
    rw [hcons]
    rcases List.mem_cons.1 h with rfl | h
    · exact List.mem_append_left _ hb
    · exact List.mem_append_right _ (mem_listed listed hcons hb h)

/-- A call is recognised by its name and its arguments. -/
theorem candidate?_of_callOf {e : Expr} {i : Invocation} (h : callOf e = some (.ok i)) :
    ∃ name, candidate? e = some (name, .ok i.args) := by
  unfold callOf at h
  rcases hcandidate : candidate? e with _ | ⟨name, message | es⟩ <;> rw [hcandidate] at h
  · cases h
  · dsimp only at h
    split at h
    · cases h
    · simp only [invocationOf] at h
      split at h <;> cases h
  · dsimp only at h
    split at h
    · cases h
    · simp only [invocationOf] at h
      split at h <;> cases h
      exact ⟨name, rfl⟩

/-- The arguments of a call stand right below it. -/
theorem args_subset_parts {e : Expr} {i : Invocation} (h : callOf e = some (.ok i)) : ∀ a ∈ i.args, a ∈ e.parts := by
  obtain ⟨name, hcandidate⟩ := candidate?_of_callOf h
  intro a ha
  generalize i.args = es at hcandidate ha
  cases e with
  | call names parameters args style window withinGroup =>
    rcases names with _ | ⟨name', _ | ⟨name'', names⟩⟩
    · cases hcandidate
    · obtain ⟨repeats, args, clauses⟩ := args
      simp only [candidate?, macroArgs, Option.some.injEq, Prod.mk.injEq] at hcandidate
      have hmem := mem_listed argExprs (fun _ _ => rfl) List.mem_cons_self (mem_of_plainArgs hcandidate.2 ha)
      simp [Expr.parts, ArgList.exprs, hmem]
    · cases hcandidate
  | ident name' =>
    cases hcandidate
    cases ha
  | bareCall names =>
    rcases names with _ | ⟨name', _ | ⟨name'', names⟩⟩ <;> cases hcandidate
    cases ha
  | queryCall names query =>
    rcases names with _ | ⟨name', _ | ⟨name'', names⟩⟩ <;> cases hcandidate
  | _ => cases hcandidate

/-- The error of a call that cannot stand as it was written is about a call. -/
theorem target_of_callOf {e : Expr} {s : ShapeError} (h : callOf e = some (.error s)) : s.target = .call := by
  unfold callOf at h
  rcases hcandidate : candidate? e with _ | ⟨name, message | es⟩ <;> rw [hcandidate] at h
  · cases h
  all_goals
    dsimp only at h
    split at h
    · cases h
    · simp only [invocationOf] at h
      split at h <;> cases h
      rfl

theorem target_of_placeholderOf {cte : Cte} {s : ShapeError} (h : placeholderOf cte = some (.error s)) :
    s.target = .cte := by
  unfold placeholderOf at h
  dsimp only at h
  split at h
  · cases h
  · split at h
    · cases h
    · split at h <;> cases h
      rfl

/-! ## The sites of statements -/

/-- What a computation that notes sites adds to them: calls if they stand in the expressions that it walks. -/
def Notes {α : Type} (x : StateM (List Site) α) (a : α) (es : List Expr) : Prop :=
  ∀ log, ∃ seen, x log = (a, seen ++ log) ∧ ((∃ s ∈ seen, s.IsCall) ↔ ∃ p ∈ es, HasCall p)

theorem Notes.bind {α β : Type} {x : StateM (List Site) α} {f : α → StateM (List Site) β} {a : α} {b : β}
    {es es' : List Expr} (hx : Notes x a es) (hf : Notes (f a) b es') : Notes (x >>= f) b (es ++ es') := by
  intro log
  obtain ⟨seen, hseen, hiff⟩ := hx log
  obtain ⟨seen', hseen', hiff'⟩ := hf (seen ++ log)
  refine ⟨seen' ++ seen, ?_, ?_⟩
  · show f (x log).1 (x log).2 = _
    rw [hseen, List.append_assoc]
    exact hseen'
  · simp only [List.mem_append, or_and_right, exists_or, hiff, hiff']
    exact or_comm

/-- The placeholders of a query are no calls. -/
theorem notes_ctes (cs : List Cte) : Notes (recorder.ctes cs) () [] := by
  induction cs with
  | nil => exact fun log => ⟨[], rfl, by simp⟩
  | cons cte cs ih =>
    rcases hplace : placeholderOf cte with _ | s | placeholder
    · simpa [Visitor.ctes, hplace] using ih
    · have hnote : Notes (recorder.malformed s) () [] :=
        fun log => ⟨[.malformed s], rfl, by simp [Site.IsCall, target_of_placeholderOf hplace]⟩
      simpa [Visitor.ctes, hplace] using hnote.bind ih
    · have hnote : Notes (recorder.cte placeholder) () [] :=
        fun log => ⟨[.cte placeholder], rfl, by simp [Site.IsCall]⟩
      simpa [Visitor.ctes, hplace] using hnote.bind ih

/-- An expression is noted if it is a call, after the calls inside it. -/
theorem notes_expr (e : Expr)
    (h : Notes (walkInside recorder e) (rewriteInside (fun _ e => e) e) e.parts) :
    Notes (walkExpr recorder e) (rewriteExpr (fun _ e => e) e) [e] := by
  rw [walkExpr_eq, rewriteExpr_eq]
  intro log
  obtain ⟨seen, hseen, hiff⟩ := h log
  have hrun : (walkInside recorder e >>= recorder.expr) log =
      recorder.expr (rewriteInside (fun _ e => e) e) (seen ++ log) := by
    show recorder.expr (walkInside recorder e log).1 (walkInside recorder e log).2 = _
    rw [hseen]
  have hcalls := callOf_rewriteInside_eq_none (fun _ e => e) (e := e)
  simp only [List.mem_singleton, exists_eq_left, hasCall_iff e, ← hiff, ne_eq, ← hcalls]
  rw [hrun]
  rcases hcall : callOf (rewriteInside (fun _ e => e) e) with _ | s | i
  · refine ⟨seen, ?_, by simp⟩
    simp only [Visitor.expr, replaced, hcall]
    rfl
  · refine ⟨.malformed s :: seen, ?_, by simp [Site.IsCall, target_of_callOf hcall]⟩
    simp only [Visitor.expr, replaced, hcall]
    rfl
  · refine ⟨.call i (rewriteInside (fun _ e => e) e) :: seen, ?_, by simp [Site.IsCall]⟩
    simp only [Visitor.expr, replaced, hcall]
    rfl

/-- What a walk notes. -/
def noting : Trail recorder (fun _ e => e) where
  holds := Notes
  pure _ := fun log => ⟨[], rfl, by simp⟩
  bind := Notes.bind
  ctes := notes_ctes
  expr := notes_expr

/-- **A walk finds the calls that stand in statements.** -/
theorem exists_call_site_iff (statements : List Statement) :
    (∃ s ∈ sites statements, s.IsCall) ↔ ∃ n, StandsIn n statements ∧ callOf n ≠ none := by
  have hnotes : ∀ ss : List Statement, ∃ ss', Notes (walkStatements recorder ss) ss' (ss.flatMap Statement.exprs) := by
    intro ss
    induction ss with
    | nil => exact ⟨[], noting.pure _⟩
    | cons s ss ih =>
      obtain ⟨ss', ih⟩ := ih
      exact ⟨_, noting.bind (noting.walkStatement_trail s) (noting.last ih (fun ss => _ :: ss))⟩
  obtain ⟨ss', h⟩ := hnotes statements
  obtain ⟨seen, hseen, hiff⟩ := h []
  have hsites : sites statements = seen.reverse := by
    show ((walkStatements recorder statements) []).2.reverse = _
    rw [hseen, List.append_nil]
  simp only [hsites, List.mem_reverse, hiff, List.mem_flatMap, StandsIn, HasCall]
  constructor
  · rintro ⟨p, ⟨s, hs, hp⟩, n, hn, hcall⟩
    exact ⟨n, ⟨s, hs, p, hp, hn⟩, hcall⟩
  · rintro ⟨n, ⟨s, hs, p, hp, hn⟩, hcall⟩
    exact ⟨p, ⟨s, hs, hp⟩, n, hn, hcall⟩

end SqlTemplate.Macro
