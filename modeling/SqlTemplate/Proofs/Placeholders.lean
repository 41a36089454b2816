import SqlTemplate.Proofs.Calls
import SqlTemplate.Proofs.Declaring
import SqlTemplate.Proofs.NodeMaps

/-!
# The placeholders of a tree

Replacing the calls of a tree leaves its placeholders where they are and changes their bodies only, unless they stand
inside a call. What comes in the place of an outermost call may bring placeholders of its own.

* `placeholdersWithin`: the placeholders at a node and below it.
* `collectPlaceholders_mapBody`: placeholders with other bodies are collected alike.
* `placeholders_map`: the placeholders of a node whose calls are replaced.
* `standsIn_of_site`: the calls that a walk finds stand in the statements.
-/

namespace SqlTemplate

open Sql

namespace Macro

/-! ## Placeholders within a node -/

/-- The placeholders at a node and below it in the order of a walk, with those that cannot stand. -/
def placeholdersWithin (n : Node) : List (Except ShapeError Placeholder) := (sitesWithin n).filterMap Site.placeholder?

theorem placeholder?_callSite (e : Expr) : (callSite? e).bind Site.placeholder? = none := by
  unfold callSite?
  rcases hcall : callOf e with _ | s | i
  · rfl
  · simp [Site.ofCall, Site.placeholder?, target_of_callOf hcall]
  · rfl

theorem placeholder?_cteSite (cte : Cte) : (cteSite? cte).bind Site.placeholder? = placeholderOf cte := by
  unfold cteSite?
  rcases hplace : placeholderOf cte with _ | s | p
  · rfl
  · simp [Site.placeholder?, target_of_placeholderOf hplace]
  · rfl

theorem placeholdersWithin_expr (e : Expr) :
    placeholdersWithin (.expr e) = e.children.flatMap placeholdersWithin := by
  have hcall : (callSite? e).toList.filterMap Site.placeholder? = [] := by
    have hnone := placeholder?_callSite e
    rcases hsite : callSite? e with _ | site
    · rfl
    · rw [hsite] at hnone
      simpa using hnone
  rw [placeholdersWithin, sitesWithin_expr, List.filterMap_append, hcall, List.append_nil, List.filterMap_flatMap]
  rfl

theorem placeholdersWithin_query (q : Query) :
    placeholdersWithin (.query q) = q.ctes.filterMap placeholderOf ++ q.children.flatMap placeholdersWithin := by
  rw [placeholdersWithin, sitesWithin_query, List.filterMap_append, List.filterMap_filterMap, List.filterMap_flatMap]
  simp only [placeholder?_cteSite]
  rfl

/-- The placeholders of statements are those within their outermost nodes. -/
theorem placeholderSites_eq (statements : List Statement) :
    placeholderSites statements = statements.flatMap fun s => s.nodes.flatMap placeholdersWithin := by
  rw [placeholderSites, sites_eq_flatMap, List.filterMap_flatMap]
  refine congrArg (List.flatMap · statements) (funext fun s => ?_)
  rw [List.filterMap_flatMap]
  rfl

/-- A placeholder stands somewhere in the expression, well-formed or not. -/
def HoldsPlaceholder (e : Expr) : Prop := placeholdersWithin (.expr e) ≠ []

/-! ## Placeholders with other bodies -/

variable (f : Expr → Expr)

/-- The placeholder with other expressions in its body. -/
def Placeholder.mapBody (p : Placeholder) : Placeholder := { p with cte := p.cte.mapExprs f }

/-- The declaration with other expressions in its body. -/
def Declaration.mapBody (d : Declaration) : Declaration := { d with body := d.body.mapExprs f }

/-- Declarations with other expressions in their bodies. -/
def Extraction.mapBodies (x : Extraction) : Extraction := ⟨x.declarations.map (.mapBody f), x.duplicates⟩

/-- A named query is the same placeholder whatever its body is. -/
theorem placeholderOf_mapExprs (cte : Cte) :
    placeholderOf (cte.mapExprs f) = (placeholderOf cte).map (Except.map (.mapBody f)) := by
  obtain ⟨⟨name, columns⟩, query, source, closing⟩ := cte
  unfold placeholderOf
  simp only [Cte.mapExprs, TableAlias.mapExprs]
  by_cases hquote : name.quote.isSome
  · simp [hquote]
  · simp only [hquote, Bool.false_eq_true, if_false]
    cases dropStart? macroStart.toList name.text.toList with
    | none => rfl
    | some rest =>
      dsimp only
      cases placeholderFault? name.text (String.ofList rest) with
      | none => simp [Except.map, Placeholder.mapBody, Cte.mapExprs, TableAlias.mapExprs]
      | some message => rfl

theorem cte_of_placeholderOf {cte : Cte} {p : Placeholder} (h : placeholderOf cte = some (.ok p)) : p.cte = cte := by
  unfold placeholderOf at h
  dsimp only at h
  split at h
  · cases h
  · split at h
    · cases h
    · split at h <;> cases h
      rfl

theorem mapBody_declaration (source : Option String) (p : Placeholder) :
    (p.mapBody f).declaration source = (p.declaration source).mapBody f := by
  obtain ⟨name, ⟨⟨label, columns⟩, query, from_, closing⟩, location⟩ := p
  simp [Placeholder.mapBody, Placeholder.declaration, Placeholder.written, Declaration.mapBody, Cte.mapExprs,
    TableAlias.mapExprs]

theorem insertDeclaration_mapBody (d : Declaration) (ds : List Declaration) :
    Extraction.insertDeclaration (d.mapBody f) (ds.map (.mapBody f)) =
      (Extraction.insertDeclaration d ds).map (.mapBody f) := by
  induction ds with
  | nil => rfl
  | cons e ds ih =>
    rw [List.map_cons, Extraction.insertDeclaration, Extraction.insertDeclaration, ih]
    show (if d.name < e.name then _ else if d.name = e.name then _ else _) = _
    split
    · rfl
    · split <;> rfl

theorem add_mapBody (x : Extraction) (d : Declaration) :
    (x.mapBodies f).add (d.mapBody f) = (x.add d).mapBodies f := by
  have hknown : ((x.mapBodies f).get? (d.mapBody f).name).isSome = (x.get? d.name).isSome := by
    simp only [Extraction.get?, Extraction.mapBodies, List.find?_map, Option.isSome_map]
    rfl
  rw [Extraction.add, Extraction.add, hknown]
  simp only [Extraction.mapBodies, insertDeclaration_mapBody]
  rfl

/-- Collects the declarations of placeholders, up to the first one that cannot stand. -/
def collectPlaceholders (source : Option String) (x : Extraction) :
    List (Except ShapeError Placeholder) → Except ShapeError Extraction
  | [] => .ok x
  | .ok p :: rest => collectPlaceholders source (x.add (p.declaration source)) rest
  | .error e :: _ => .error e

/-- Only placeholders count among the sites. -/
theorem collect_eq (source : Option String) (x : Extraction) (found : List Site) :
    collect source x found = collectPlaceholders source x (found.filterMap Site.placeholder?) := by
  induction found generalizing x with
  | nil => rfl
  | cons site found ih =>
    cases site with
    | call i e => exact ih x
    | cte p => exact ih _
    | malformed e =>
      by_cases htarget : e.target = .cte
      · rw [collect, if_pos htarget, List.filterMap_cons, Site.placeholder?, if_pos htarget]
        rfl
      · rw [collect, if_neg htarget, ih, List.filterMap_cons, Site.placeholder?, if_neg htarget]

/-- Nothing is extracted where there is no placeholder. -/
theorem extract_of_none {source : Option String} {statements : List Statement} (h : placeholderSites statements = []) :
    extractPlaceholders source statements = .ok .empty := by
  have hcollect := collect_eq source .empty (sites statements)
  rw [← placeholderSites, h] at hcollect
  rw [extractPlaceholders, extract, hcollect]
  rfl

/-- Placeholders with other bodies are collected alike. -/
theorem collectPlaceholders_mapBody (source : Option String) (x : Extraction) (ps : List (Except ShapeError Placeholder)) :
    collectPlaceholders source (x.mapBodies f) (ps.map (Except.map (.mapBody f))) =
      (collectPlaceholders source x ps).map (.mapBodies f) := by
  induction ps generalizing x with
  | nil => rfl
  | cons p ps ih =>
    cases p with
    | error e => rfl
    | ok p =>
      rw [List.map_cons, collectPlaceholders, ← ih, ← add_mapBody, ← mapBody_declaration]
      rfl

/-! ## Placeholders of an expanded node -/

/-- The sites within a node below another one are within that one. -/
theorem sitesWithin_of_child {n c : Node} (hc : c ∈ n.children) {site : Site} (h : site ∈ sitesWithin c) :
    site ∈ sitesWithin n := by
  have hbelow : site ∈ n.children.flatMap sitesWithin := List.mem_flatMap.2 ⟨c, hc, h⟩
  cases n with
  | expr e =>
    rw [sitesWithin_expr]
    exact List.mem_append_left _ hbelow
  | query q =>
    rw [sitesWithin_query]
    exact List.mem_append_right _ hbelow

/-- A call that stands at a node or below it, and in no other call. -/
inductive Outermost : Node → Invocation → Expr → Prop
  | here {e : Expr} {i : Invocation} (h : callOf e = some (.ok i)) : Outermost (.expr e) i e
  | inside {n c : Node} {e : Expr} {i : Invocation} (hn : ∀ e i, n = .expr e → callOf e ≠ some (.ok i))
    (hc : c ∈ n.children) (h : Outermost c i e) : Outermost n i e

theorem expr_of_callSite {e d : Expr} {i : Invocation} (h : callSite? e = some (.call i d)) : d = e := by
  unfold callSite? at h
  rcases hcall : callOf e with _ | s | j <;> rw [hcall] at h <;> cases h
  rfl

theorem not_call_of_ctes (cs : List Cte) (i : Invocation) (e : Expr) : Site.call i e ∉ cs.filterMap cteSite? := by
  intro h
  obtain ⟨cte, -, hsite⟩ := List.mem_filterMap.1 h
  unfold cteSite? at hsite
  rcases hplace : placeholderOf cte with _ | s | p <;> rw [hplace] at hsite <;> cases hsite

/-- The sites within a call are among those of the node in which it stands. -/
theorem sitesWithin_of_call {n : Node} {i : Invocation} {e : Expr} (h : Site.call i e ∈ sitesWithin n) :
    ∀ site ∈ sitesWithin (.expr e), site ∈ sitesWithin n := by
  induction n using node_induction with
  | h n ih =>
    have hbelow : Site.call i e ∈ n.children.flatMap sitesWithin → ∀ site ∈ sitesWithin (.expr e), site ∈ sitesWithin n := by
      intro h site hsite
      obtain ⟨c, hc, h⟩ := List.mem_flatMap.1 h
      exact sitesWithin_of_child hc (ih c hc h site hsite)
    cases n with
    | expr e₀ =>
      rw [sitesWithin_expr] at h
      rcases List.mem_append.1 h with h | h
      · exact hbelow h
      · obtain rfl := expr_of_callSite (by simpa using h)
        exact fun _ hsite => hsite
    | query q =>
      rw [sitesWithin_query] at h
      rcases List.mem_append.1 h with h | h
      · exact absurd h (not_call_of_ctes q.ctes i e)
      · exact hbelow h

theorem Outermost.callOf {n : Node} {i : Invocation} {e : Expr} (h : Outermost n i e) : callOf e = some (.ok i) := by
  induction h with
  | here h => exact h
  | inside _ _ _ ih => exact ih

theorem Outermost.site {n : Node} {i : Invocation} {e : Expr} (h : Outermost n i e) : Site.call i e ∈ sitesWithin n := by
  induction h with
  | here h =>
    rw [sitesWithin_expr]
    exact List.mem_append_right _ (by simp [callSite?, h, Site.ofCall])
  | inside _ hc _ ih => exact sitesWithin_of_child hc ih

/-- Lists of which each is part of another one. -/
theorem flatMap_sublist {α β : Type} {A B : α → List β} {P : α → Prop} {xs : List α}
    (h : ∀ x ∈ xs, (A x).Sublist (B x) ∧ (A x = B x ↔ P x)) :
    (xs.flatMap A).Sublist (xs.flatMap B) ∧ (xs.flatMap A = xs.flatMap B ↔ ∀ x ∈ xs, P x) := by
  induction xs with
  | nil => simp
  | cons x xs ih =>
    obtain ⟨hfirst, hiff⟩ := h x List.mem_cons_self
    obtain ⟨hrest, hiffs⟩ := ih fun y hy => h y (List.mem_cons_of_mem _ hy)
    rw [List.flatMap_cons, List.flatMap_cons, List.forall_mem_cons, ← hiff, ← hiffs]
    refine ⟨hfirst.append hrest, fun heq => ?_, fun ⟨h₁, h₂⟩ => by rw [h₁, h₂]⟩
    -- neither part is longer than its counterpart, so both are as long
    have hlength := congrArg List.length heq
    rw [List.length_append, List.length_append] at hlength
    have h₁ := hfirst.length_le
    have h₂ := hrest.length_le
    exact ⟨hfirst.eq_of_length (by omega), hrest.eq_of_length (by omega)⟩

section

variable {c : Invocation → Expr → Expr}

/-- The nodes below an expression that is no call are those of before, with the calls in them replaced. -/
theorem children_rewriteExpr {e : Expr} (h : ∀ i, callOf e ≠ some (.ok i)) :
    (rewriteExpr c e).children = e.children.map (Node.map (rewriteExpr c)) := by
  obtain ⟨hnone, -, herror⟩ := callOf_rewriteInside c e
  have hkept : rewriteExpr c e = rewriteInside c e := by
    rw [rewriteExpr_eq, replaced]
    rcases hcall : callOf e with _ | s | i
    · rw [hnone hcall]
    · obtain ⟨s', hs'⟩ := herror s hcall
      rw [hs']
    · exact absurd hcall (h i)
  rw [hkept, rewriteInside_eq_mapParts, Expr.children_mapParts]

theorem ctes_mapBody (q : Query) :
    (q.mapExprs f).ctes.filterMap placeholderOf = (q.ctes.filterMap placeholderOf).map (Except.map (.mapBody f)) := by
  rw [Query.ctes_mapExprs, List.filterMap_map, List.map_filterMap]
  exact congrArg (List.filterMap · q.ctes) (funext fun cte => placeholderOf_mapExprs f cte)

/-- **The placeholders of an expanded node** are those of the node with their bodies expanded, among others that stand in
what comes in the place of its outermost calls; provided that none stands inside a call. -/
theorem placeholders_map (n : Node) (hcalls : ∀ i e, Site.call i e ∈ sitesWithin n → ¬ HoldsPlaceholder e) :
    ((placeholdersWithin n).map (Except.map (.mapBody (rewriteExpr c)))).Sublist
        (placeholdersWithin (n.map (rewriteExpr c))) ∧
      ((placeholdersWithin n).map (Except.map (.mapBody (rewriteExpr c))) = placeholdersWithin (n.map (rewriteExpr c)) ↔
        ∀ i e, Outermost n i e → ¬ HoldsPlaceholder (rewriteExpr c e)) := by
  induction n using node_induction with
  | h n ih =>
    -- the nodes below, unless they stand in a call
    have hbelow : (∀ e i, n = .expr e → callOf e ≠ some (.ok i)) →
        ((n.children.flatMap placeholdersWithin).map (Except.map (.mapBody (rewriteExpr c)))).Sublist
          ((n.children.map (Node.map (rewriteExpr c))).flatMap placeholdersWithin) ∧
        ((n.children.flatMap placeholdersWithin).map (Except.map (.mapBody (rewriteExpr c))) =
            (n.children.map (Node.map (rewriteExpr c))).flatMap placeholdersWithin ↔
          ∀ i e, Outermost n i e → ¬ HoldsPlaceholder (rewriteExpr c e)) := by
      intro hn
      rw [List.map_flatMap, List.flatMap_map]
      have hlists := flatMap_sublist fun d hd => ih d hd fun i e he => hcalls i e (sitesWithin_of_child hd he)
      refine ⟨hlists.1, hlists.2.trans ⟨fun h i e he => ?_, fun h d hd i e he => h i e (.inside hn hd he)⟩⟩
      cases he with
      | here hcall => exact absurd hcall (hn e i rfl)
      | inside _ hc he => exact h _ hc i e he
    cases n with
    | expr e =>
      by_cases hcall : ∃ i, callOf e = some (.ok i)
      · obtain ⟨i, hi⟩ := hcall
        have hnone : placeholdersWithin (.expr e) = [] := not_not.1 (hcalls i e (Outermost.here hi).site)
        rw [hnone]
        refine ⟨List.nil_sublist _, fun h i' e' he => ?_, fun h => ?_⟩
        · cases he with
          | here hcall => exact not_not.2 h.symm
          | inside hn => exact absurd hi (hn e i rfl)
        · exact (not_not.1 (h i e (.here hi))).symm
      · have hn : ∀ i, callOf e ≠ some (.ok i) := fun i hi => hcall ⟨i, hi⟩
        have hlists := hbelow fun e i h => by cases h; exact hn i
        rw [Node.map, placeholdersWithin_expr, placeholdersWithin_expr, children_rewriteExpr hn]
        exact hlists
    | query q =>
      have hlists := hbelow fun e i h => by cases h
      rw [Node.map, placeholdersWithin_query, placeholdersWithin_query, Query.children_mapExprs, ctes_mapBody,
        List.map_append]
      exact ⟨(List.Sublist.refl _).append hlists.1, (List.append_right_inj _).trans hlists.2⟩

end

/-! ## Where the calls of a walk stand -/

/-- The calls that a computation notes stand in the expressions that it walks. -/
def NotesWithin {α : Type} (x : StateM (List Site) α) (a : α) (es : List Expr) : Prop :=
  ∀ log, ∃ seen, x log = (a, seen ++ log) ∧
    ∀ i e, Site.call i e ∈ seen → ∃ p ∈ es, Within e p

theorem NotesWithin.bind {α β : Type} {x : StateM (List Site) α} {g : α → StateM (List Site) β} {a : α} {b : β}
    {es es' : List Expr} (hx : NotesWithin x a es) (hg : NotesWithin (g a) b es') : NotesWithin (x >>= g) b (es ++ es') := by
  intro log
  obtain ⟨seen, hseen, hwithin⟩ := hx log
  obtain ⟨seen', hseen', hwithin'⟩ := hg (seen ++ log)
  refine ⟨seen' ++ seen, ?_, fun i e he => ?_⟩
  · show g (x log).1 (x log).2 = _
    rw [hseen, List.append_assoc]
    exact hseen'
  · rcases List.mem_append.1 he with he | he
    · obtain ⟨p, hp, hn⟩ := hwithin' i e he
      exact ⟨p, List.mem_append_right _ hp, hn⟩
    · obtain ⟨p, hp, hn⟩ := hwithin i e he
      exact ⟨p, List.mem_append_left _ hp, hn⟩

theorem notesWithin_ctes (cs : List Cte) : NotesWithin (recorder.ctes cs) () [] := by
  have hnote : ∀ site : Site, (∀ i e, site ≠ .call i e) → NotesWithin (fun log => ((), site :: log)) () [] := by
    intro site hsite log
    exact ⟨[site], rfl, fun i e he => absurd (List.mem_singleton.1 he).symm (hsite i e)⟩
  induction cs with
  | nil => exact fun log => ⟨[], rfl, by simp⟩
  | cons cte cs ih =>
    rcases hplace : placeholderOf cte with _ | s | placeholder
    · simpa [Visitor.ctes, hplace] using ih
    · simp only [Visitor.ctes, hplace]
      exact (hnote (.malformed s) fun _ _ => Site.noConfusion).bind ih
    · simp only [Visitor.ctes, hplace]
      exact (hnote (.cte placeholder) fun _ _ => Site.noConfusion).bind ih

theorem rewriteInside_id (e : Expr) : rewriteInside (fun _ e => e) e = e := by
  rw [rewriteInside_eq_mapParts, e.mapParts_eq_self fun p _ => rewriteExpr_id p]

theorem notesWithin_expr (e : Expr)
    (h : NotesWithin (walkInside recorder e) (rewriteInside (fun _ e => e) e) e.parts) :
    NotesWithin (walkExpr recorder e) (rewriteExpr (fun _ e => e) e) [e] := by
  intro log
  obtain ⟨seen, hseen, hwithin⟩ := h log
  have hrun : walkExpr recorder e log = recorder.expr e (seen ++ log) := by
    rw [walkExpr_eq]
    show recorder.expr (walkInside recorder e log).1 (walkInside recorder e log).2 = _
    rw [hseen, rewriteInside_id]
  have hbelow : ∀ i d, Site.call i d ∈ seen → ∃ p ∈ [e], Within d p := by
    intro i d hd
    obtain ⟨p, hp, hn⟩ := hwithin i d hd
    exact ⟨e, List.mem_cons_self, .inside hp hn⟩
  rw [hrun, rewriteExpr_id]
  rcases hcall : callOf e with _ | s | i
  · refine ⟨seen, ?_, hbelow⟩
    simp only [Visitor.expr, hcall]
    rfl
  · refine ⟨.malformed s :: seen, ?_, fun i d hd => ?_⟩
    · simp only [Visitor.expr, hcall]
      rfl
    · rcases List.mem_cons.1 hd with hd | hd
      · cases hd
      · exact hbelow i d hd
  · refine ⟨.call i e :: seen, ?_, fun i' d hd => ?_⟩
    · simp only [Visitor.expr, hcall]
      rfl
    · rcases List.mem_cons.1 hd with hd | hd
      · cases hd
        exact ⟨e, List.mem_cons_self, .here⟩
      · exact hbelow i' d hd

/-- Where the calls stand that a walk notes. -/
def notingWithin : Trail recorder (fun _ e => e) where
  holds := NotesWithin
  pure _ := fun log => ⟨[], rfl, by simp⟩
  bind := NotesWithin.bind
  ctes := notesWithin_ctes
  expr := notesWithin_expr

/-- The calls that a walk finds in statements stand in them. -/
theorem standsIn_of_site {statements : List Statement} {i : Invocation} {e : Expr}
    (h : Site.call i e ∈ sites statements) : StandsIn e statements := by
  have hnotes : ∀ ss : List Statement,
      ∃ ss', NotesWithin (walkStatements recorder ss) ss' (ss.flatMap Statement.exprs) := by
    intro ss
    induction ss with
    | nil => exact ⟨[], notingWithin.pure _⟩
    | cons s ss ih =>
      obtain ⟨ss', ih⟩ := ih
      exact ⟨_, notingWithin.bind (notingWithin.walkStatement_trail s) (notingWithin.last ih (fun ss => _ :: ss))⟩
  obtain ⟨ss', hwalk⟩ := hnotes statements
  obtain ⟨seen, hseen, hwithin⟩ := hwalk []
  have hsites : sites statements = seen.reverse := by
    show ((walkStatements recorder statements) []).2.reverse = _
    rw [hseen, List.append_nil]
  rw [hsites, List.mem_reverse] at h
  obtain ⟨p, hp, hn⟩ := hwithin i e h
  obtain ⟨s, hs, hp⟩ := List.mem_flatMap.1 hp
  exact ⟨s, hs, p, hp, hn⟩

end Macro

end SqlTemplate
