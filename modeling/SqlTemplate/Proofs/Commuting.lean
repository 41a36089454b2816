import Mathlib.Data.List.Forall2
import SqlTemplate.Proofs.LeftoverCalls
import SqlTemplate.Proofs.Placeholders

/-!
# Extraction behind interpolation

What is extracted from expanded statements is what is extracted from the template, with the bodies expanded, as long as
no placeholder stands inside a call and nothing that is put in the place of a call holds a placeholder of its own. The
text of a macro in which its arguments are written may be read as such an expression, even if the arguments hold none.

* `walkQuery_body`: the bodies of placeholders are expanded with the statements.
* `placeholder_of_plain_args`: where a placeholder comes from that the template does not have.
* `extraction_commutes_iff`: when extraction commutes with interpolation.
-/

namespace SqlTemplate

open Sql Macro

section

variable {dialect : Dialect} {request : Request}

/-! ## Bodies -/

theorem walkNode_of_walkNodes {v : Visitor Outcome} {ns ms : List Node} (h : walkNodes v ns = .ok ms) :
    ∀ n ∈ ns, ∃ m, walkNode v n = .ok m := by
  induction ns generalizing ms with
  | nil => simp
  | cons n ns ih =>
    obtain ⟨m, hm, h⟩ := Outcome.bind_eq_ok.1 h
    obtain ⟨ms', hms, -⟩ := Outcome.bind_eq_ok.1 h
    intro c hc
    rcases List.mem_cons.1 hc with rfl | hc
    · exact ⟨m, hm⟩
    · exact ih hms c hc

/-- The nodes below a node that is walked to its end are walked to theirs. -/
theorem walkNode_children {v : Visitor Outcome} {n m : Node} (h : walkNode v n = .ok m) :
    ∀ c ∈ n.children, ∃ d, walkNode v c = .ok d := by
  cases n with
  | expr e =>
    rw [walkNode_expr] at h
    obtain ⟨ms, hms, -⟩ := Outcome.bind_eq_ok.1 h
    exact walkNode_of_walkNodes hms
  | query q =>
    rw [walkNode_query] at h
    obtain ⟨-, -, h⟩ := Outcome.bind_eq_ok.1 h
    obtain ⟨ms, hms, -⟩ := Outcome.bind_eq_ok.1 h
    exact walkNode_of_walkNodes hms

theorem walkQuery_of_walkNode {q : Query} {m : Node} (h : walkNode (expander dialect request) (.query q) = .ok m) :
    walkQuery (expander dialect request) q = .ok (q.mapExprs (rewriteExpr (expansionOf dialect request))) := by
  obtain ⟨q', hq', -⟩ := Outcome.bind_eq_ok.1 h
  rw [hq', ((expanding dialect request).walkQuery_trail q).1 q' hq', walkQuery_substituter]

/-- The bodies of the placeholders in a node that is expanded are expanded with it. -/
theorem walkQuery_body {n m : Node} (h : walkNode (expander dialect request) n = .ok m) {p : Placeholder}
    (hp : .ok p ∈ placeholdersWithin n) :
    walkQuery (expander dialect request) p.cte.query =
      .ok (p.cte.query.mapExprs (rewriteExpr (expansionOf dialect request))) := by
  induction n using node_induction generalizing m with
  | h n ih =>
    have hbelow : .ok p ∈ n.children.flatMap placeholdersWithin →
        walkQuery (expander dialect request) p.cte.query =
          .ok (p.cte.query.mapExprs (rewriteExpr (expansionOf dialect request))) := by
      intro hp
      obtain ⟨c, hc, hp⟩ := List.mem_flatMap.1 hp
      obtain ⟨d, hd⟩ := walkNode_children h c hc
      exact ih c hc hd hp
    cases n with
    | expr e =>
      rw [placeholdersWithin_expr] at hp
      exact hbelow hp
    | query q =>
      rw [placeholdersWithin_query] at hp
      rcases List.mem_append.1 hp with hp | hp
      · obtain ⟨cte, hcte, hplace⟩ := List.mem_filterMap.1 hp
        obtain ⟨d, hd⟩ := walkNode_children h _ (mem_children_of_cte hcte)
        rw [cte_of_placeholderOf hplace]
        exact walkQuery_of_walkNode hd
      · exact hbelow hp

/-! ## Placeholders that are read back -/

/-- A placeholder that comes into a node that held none was read from the text of a macro whose arguments hold none. -/
theorem placeholder_of_plain_args {statements : List Statement}
    (hexprs : ∀ s ∈ statements, ∀ p ∈ s.exprs, Expandable dialect request p) {n : Node}
    (hnone : placeholdersWithin n = []) (hsites : ∀ site ∈ sitesWithin n, site ∈ sites statements)
    (hplace : placeholdersWithin (n.map (rewriteExpr (expansionOf dialect request))) ≠ []) :
    ∃ i args x, ReadBack dialect request statements i args x ∧ (∀ a ∈ args, ¬ HoldsPlaceholder a) ∧ HoldsPlaceholder x := by
  induction n using node_induction with
  | h n ih =>
    have hnone' : (∀ c ∈ n.children, placeholdersWithin c = []) ∧ ∀ q, n = .query q → q.ctes.filterMap placeholderOf = [] := by
      cases n with
      | expr e =>
        rw [placeholdersWithin_expr] at hnone
        exact ⟨List.flatMap_eq_nil_iff.1 hnone, fun q h => nomatch h⟩
      | query q =>
        rw [placeholdersWithin_query] at hnone
        obtain ⟨hctes, hbelow⟩ := List.append_eq_nil_iff.1 hnone
        exact ⟨List.flatMap_eq_nil_iff.1 hbelow, fun q h => by cases h; exact hctes⟩
    by_cases hinside : ∃ c ∈ n.children, placeholdersWithin (c.map (rewriteExpr (expansionOf dialect request))) ≠ []
    · obtain ⟨c, hc, hleft⟩ := hinside
      exact ih c hc (hnone'.1 c hc) (fun site hs => hsites site (sitesWithin_of_child hc hs)) hleft
    · -- then the node is a call, and what it gives way to holds a placeholder of its own
      have hplain : ∀ c ∈ n.children, placeholdersWithin (c.map (rewriteExpr (expansionOf dialect request))) = [] :=
        fun c hc => not_not.1 fun hleft => hinside ⟨c, hc, hleft⟩
      have hbelow : (n.children.map (Node.map (rewriteExpr (expansionOf dialect request)))).flatMap placeholdersWithin = [] := by
        rw [List.flatMap_map]
        exact List.flatMap_eq_nil_iff.2 hplain
      cases n with
      | query q =>
        rw [Node.map, placeholdersWithin_query, Query.children_mapExprs, ctes_mapBody, hnone'.2 q rfl] at hplace
        exact absurd hbelow hplace
      | expr e =>
        by_cases hcall : ∃ i, callOf e = some (.ok i)
        · obtain ⟨i, hi⟩ := hcall
          obtain ⟨s, hs, p, hp, hn⟩ := standsIn_of_site (hsites _ (Outermost.here hi).site)
          obtain ⟨-, -, hexpands⟩ := (expandable_iff e).1 ((hexprs s hs p hp).within hn)
          obtain ⟨x, hx⟩ := hexpands i hi
          have hput : rewriteExpr (expansionOf dialect request) e = x := by
            rw [rewriteExpr_eq, replaced, (callOf_rewriteInside (expansionOf dialect request) e).2.1 i hi]
            simp only [expansionOf, hx]
          rw [Node.map, hput] at hplace
          rcases expand_eq_ok.1 hx with harg | ⟨text, htext, hread⟩
          · obtain ⟨a, ha, rfl⟩ := List.mem_map.1 (mem_args_of_render harg)
            exact absurd (hplain _ (mem_children_of_arg hi ha)) hplace
          · refine ⟨i, _, x, readBack_of_within hexprs hs hp hn hi htext hread, fun a' ha' => ?_, hplace⟩
            obtain ⟨a, ha, rfl⟩ := List.mem_map.1 ha'
            exact not_not.2 (hplain _ (mem_children_of_arg hi ha))
        · rw [Node.map, placeholdersWithin_expr, children_rewriteExpr fun i hi => hcall ⟨i, hi⟩] at hplace
          exact absurd hbelow hplace

/-! ## Statements -/

variable (dialect request) in
/-- No call of the template that stands in no other one gives way to an expression that holds a placeholder. -/
def PutsNoPlaceholder (statements : List Statement) : Prop :=
  ∀ s ∈ statements, ∀ n ∈ s.nodes, ∀ i e x, Outermost n i e → walkExpr (expander dialect request) e = .ok x →
    ¬ HoldsPlaceholder x

variable (dialect request) in
/-- Two declarations differ in their bodies only, and the second body is what comes of expanding the first one. -/
structure Expanded (d d' : Declaration) : Prop where
  same : d' = { d with body := d'.body }
  body : walkQuery (expander dialect request) d.body = .ok d'.body

variable (dialect request) in
/-- The declarations of an extraction are those of another one with their bodies expanded, and the repeated names are
the same. -/
structure Follows (x y : Extraction) : Prop where
  declarations : List.Forall₂ (Expanded dialect request) x.declarations y.declarations
  duplicates : y.duplicates = x.duplicates

/-- The placeholders of expanded statements. -/
theorem placeholderSites_expanded {statements : List Statement}
    (hexprs : ∀ s ∈ statements, ∀ p ∈ s.exprs, Expandable dialect request p)
    (hcalls : ∀ i e, Site.call i e ∈ sites statements → ¬ HoldsPlaceholder e) :
    ((placeholderSites statements).map (Except.map (.mapBody (rewriteExpr (expansionOf dialect request))))).Sublist
        (placeholderSites (statements.map (rewriteStatement (expansionOf dialect request)))) ∧
      ((placeholderSites statements).map (Except.map (.mapBody (rewriteExpr (expansionOf dialect request)))) =
          placeholderSites (statements.map (rewriteStatement (expansionOf dialect request))) ↔
        PutsNoPlaceholder dialect request statements) := by
  have hsites : ∀ s ∈ statements, ∀ n ∈ s.nodes, ∀ site ∈ sitesWithin n, site ∈ sites statements := by
    intro s hs n hn site hsite
    rw [sites_eq_flatMap]
    exact List.mem_flatMap.2 ⟨s, hs, List.mem_flatMap.2 ⟨n, hn, hsite⟩⟩
  have hnodes : ∀ s ∈ statements, (rewriteStatement (expansionOf dialect request) s).nodes =
      s.nodes.map (Node.map (rewriteExpr (expansionOf dialect request))) := by
    intro s _
    rw [rewriteStatement_eq_mapExprs, Statement.nodes_mapExprs]
  rw [placeholderSites_eq, placeholderSites_eq, List.map_flatMap, List.flatMap_map]
  have hlists := flatMap_sublist
    (A := fun s => (s.nodes.flatMap placeholdersWithin).map
      (Except.map (.mapBody (rewriteExpr (expansionOf dialect request)))))
    (B := fun s => (rewriteStatement (expansionOf dialect request) s).nodes.flatMap placeholdersWithin)
    (P := fun s => ∀ n ∈ s.nodes, ∀ i e, Outermost n i e →
      ¬ HoldsPlaceholder (rewriteExpr (expansionOf dialect request) e)) fun s hs => by
        rw [hnodes s hs, List.map_flatMap, List.flatMap_map]
        exact flatMap_sublist fun n hn => placeholders_map n fun i e he => hcalls i e (hsites s hs n hn _ he)
  refine ⟨hlists.1, hlists.2.trans ?_⟩
  -- a call of the template is expanded, so it gives way to one expression only
  have hput : ∀ s ∈ statements, ∀ n ∈ s.nodes, ∀ i e, Outermost n i e → Expandable dialect request e := by
    intro s hs n hn i e he
    exact expandable_of_standsIn hexprs (standsIn_of_site (hsites s hs n hn _ he.site))
  constructor
  · intro h s hs n hn i e x he hx
    have hexpandable : walkExpr (expander dialect request) e = _ := hput s hs n hn i e he
    rw [hexpandable] at hx
    cases hx
    exact h s hs n hn i e he
  · intro h s hs n hn i e he
    exact h s hs n hn i e _ he (hput s hs n hn i e he)

/-- The bodies of the placeholders in statements that are expanded are expanded with them. -/
theorem walkQuery_of_placeholder {statements : List Statement}
    (hexprs : ∀ s ∈ statements, ∀ p ∈ s.exprs, Expandable dialect request p) {p : Placeholder}
    (hp : .ok p ∈ placeholderSites statements) :
    walkQuery (expander dialect request) p.cte.query =
      .ok (p.cte.query.mapExprs (rewriteExpr (expansionOf dialect request))) := by
  rw [placeholderSites_eq] at hp
  obtain ⟨s, hs, hp⟩ := List.mem_flatMap.1 hp
  obtain ⟨n, hn, hp⟩ := List.mem_flatMap.1 hp
  have hwalk := ((expanding dialect request).walkStatement_trail s).2.2 (hexprs s hs)
  rw [walkStatement_eq] at hwalk
  obtain ⟨ms, hms, -⟩ := Outcome.bind_eq_ok.1 hwalk
  obtain ⟨m, hm⟩ := walkNode_of_walkNodes hms n hn
  exact walkQuery_body hm hp

/-- Statements whose placeholders are those of others with other bodies give the same declarations with other bodies, or
the same error. -/
theorem extract_mapBodies {f : Expr → Expr} {statements others : List Statement}
    (h : (placeholderSites statements).map (Except.map (.mapBody f)) = placeholderSites others) (source : Option String) :
    extractPlaceholders source others = (extractPlaceholders source statements).map (.mapBodies f) := by
  have hcollect := collectPlaceholders_mapBody f source .empty (placeholderSites statements)
  rw [h, placeholderSites, ← collect_eq, placeholderSites, ← collect_eq] at hcollect
  have hempty : Extraction.empty.mapBodies f = .empty := rfl
  rw [hempty] at hcollect
  unfold extractPlaceholders extract
  rw [hcollect]
  cases collect source .empty (sites statements) <;> rfl

end

/-- No call holds a placeholder if there is none. -/
theorem not_holdsPlaceholder_of_none {statements : List Statement} (h : placeholderSites statements = []) (i : Invocation)
    (e : Expr) (he : Site.call i e ∈ sites statements) : ¬ HoldsPlaceholder e := by
  rw [sites_eq_flatMap] at he
  obtain ⟨s, hs, he⟩ := List.mem_flatMap.1 he
  obtain ⟨n, hn, he⟩ := List.mem_flatMap.1 he
  refine not_not.2 (List.eq_nil_iff_forall_not_mem.2 fun p hp => ?_)
  obtain ⟨site, hsite, hp⟩ := List.mem_filterMap.1 hp
  have hmem : p ∈ placeholderSites statements := by
    rw [placeholderSites, sites_eq_flatMap]
    refine List.mem_filterMap.2 ⟨site, ?_, hp⟩
    exact List.mem_flatMap.2 ⟨s, hs, List.mem_flatMap.2 ⟨n, hn, sitesWithin_of_call he site hsite⟩⟩
  rw [h] at hmem
  cases hmem

/-- **Extraction commutes with interpolation** for a template with no placeholder inside a call, if no placeholder comes
with what is put in the place of the calls: the same declarations are extracted from the expanded statements as from the
template, with their bodies expanded, or there is the same error. If one does come, the extractions differ; it was then
read back from the text of a macro whose arguments hold none. -/
theorem extraction_commutes_iff (dialect : Dialect) (request : Request) (polls : Polls) (source : Option String)
    (statements result : List Statement) (h : expandRounded dialect request polls statements = .ok result)
    (hcalls : ∀ i e, Site.call i e ∈ sites statements → ¬ HoldsPlaceholder e) :
    ∃ rounded, request.rounded = .ok rounded ∧
      (∀ x, extractPlaceholders source statements = .ok x →
        ((∃ y, extractPlaceholders source result = .ok y ∧ Follows dialect rounded x y) ↔
          PutsNoPlaceholder dialect rounded statements)) ∧
      (∀ e, extractPlaceholders source statements = .error e → PutsNoPlaceholder dialect rounded statements →
        extractPlaceholders source result = .error e) ∧
      (¬ PutsNoPlaceholder dialect rounded statements →
        ∃ i args x, ReadBack dialect rounded statements i args x ∧ (∀ a ∈ args, ¬ HoldsPlaceholder a) ∧
          HoldsPlaceholder x) := by
  obtain ⟨rounded, hrounded, hexpand⟩ := Outcome.bind_eq_ok.1 h
  obtain ⟨-, hexprs, rfl⟩ := expandStatements_eq_ok.1 hexpand
  obtain ⟨hsublist, hiff⟩ := placeholderSites_expanded hexprs hcalls
  refine ⟨rounded, hrounded, fun x hx => ⟨?_, fun hnone => ?_⟩, fun e he hnone => ?_, fun hsome => ?_⟩
  · -- the same number of declarations and repeated names, so the same number of placeholders
    rintro ⟨y, hy, hfollows⟩
    obtain ⟨ps, hps, hkeeps⟩ := keeps_of_extract hx
    obtain ⟨qs, hqs, hkeeps'⟩ := keeps_of_extract hy
    refine hiff.1 (hsublist.eq_of_length ?_)
    rw [hps, hqs, List.length_map, List.length_map, List.length_map, ← hkeeps.counted, ← hkeeps'.counted,
      hfollows.declarations.length_eq, hfollows.duplicates]
  · have hextract := extract_mapBodies (hiff.2 hnone) source
    rw [hx] at hextract
    refine ⟨_, hextract, List.forall₂_map_right_iff.2 (List.forall₂_same.2 fun d hd => ?_), rfl⟩
    obtain ⟨ps, hps, hkeeps⟩ := keeps_of_extract hx
    obtain ⟨before, p, after, rfl, -, rfl⟩ := (hkeeps.last d).1 hd
    have hp : .ok p ∈ placeholderSites statements := by
      rw [hps]
      exact List.mem_map_of_mem (by simp)
    exact ⟨rfl, walkQuery_of_placeholder hexprs hp⟩
  · have hextract := extract_mapBodies (hiff.2 hnone) source
    rw [he] at hextract
    exact hextract
  · simp only [PutsNoPlaceholder, not_forall, not_not] at hsome
    obtain ⟨s, hs, n, hn, i, e, x, he, hx, hplace⟩ := hsome
    have hsites : ∀ site ∈ sitesWithin (.expr e), site ∈ sites statements := by
      intro site hsite
      rw [sites_eq_flatMap]
      exact List.mem_flatMap.2 ⟨s, hs, List.mem_flatMap.2 ⟨n, hn, sitesWithin_of_call he.site site hsite⟩⟩
    have hcall : Site.call i e ∈ sites statements := hsites _ (Outermost.here he.callOf).site
    have hexpandable : walkExpr (expander dialect rounded) e = _ :=
      expandable_of_standsIn hexprs (standsIn_of_site hcall)
    rw [hexpandable] at hx
    cases hx
    exact placeholder_of_plain_args hexprs (not_not.1 (hcalls i e hcall)) hsites hplace

/-- A name in quotes behind a colon is written without them, and read back as a sum with a query that holds a placeholder. -/
theorem placeholder_of_quoted_name :
    ∃ statements result rounded i args x,
      parseStatements .clickHouse "SELECT $__timeFilter(:\"a + (with $__x as (select 1) select 1)\")" = .ok statements ∧
      expandRounded .clickHouse ⟨⟨.epoch, .epoch, by decide⟩, [], .zero, .zero⟩ (fun _ => .ok ()) statements = .ok result ∧
      placeholderSites statements = [] ∧ placeholderSites result ≠ [] ∧
      ReadBack .clickHouse rounded statements i args x ∧ (∀ a ∈ args, ¬ HoldsPlaceholder a) ∧ HoldsPlaceholder x := by
  have hrun : (match parseStatements .clickHouse "SELECT $__timeFilter(:\"a + (with $__x as (select 1) select 1)\")" with
      | .ok statements =>
        match expandRounded .clickHouse ⟨⟨.epoch, .epoch, by decide⟩, [], .zero, .zero⟩ (fun _ => .ok ()) statements with
        | .ok result => (placeholderSites statements).isEmpty && !(placeholderSites result).isEmpty
        | .error _ => false
      | .error _ => false) = true := by decide +kernel
  split at hrun
  · rename_i statements hparse
    split at hrun
    · rename_i result hexpand
      obtain ⟨hbefore, hafter⟩ : placeholderSites statements = [] ∧ placeholderSites result ≠ [] := by simpa using hrun
      obtain ⟨rounded, -, hcommutes, -, horigin⟩ := extraction_commutes_iff .clickHouse _ _ none _ _ hexpand
        (not_holdsPlaceholder_of_none hbefore)
      have hextract : extractPlaceholders none statements = .ok .empty := extract_of_none hbefore
      -- nothing would be extracted from the expanded statements either
      have hputs : ¬ PutsNoPlaceholder .clickHouse rounded statements := by
        intro hputs
        obtain ⟨y, hy, hfollows⟩ := (hcommutes _ hextract).2 hputs
        obtain ⟨ps, hps, hkeeps⟩ := keeps_of_extract hy
        have hlength : ps.length = 0 := by
          rw [← hkeeps.counted, ← hfollows.declarations.length_eq, hfollows.duplicates]
          rfl
        rw [hps, List.length_eq_zero_iff.1 hlength] at hafter
        exact hafter rfl
      obtain ⟨i, args, x, hread, hplain, hx⟩ := horigin hputs
      exact ⟨statements, result, rounded, i, args, x, hparse, hexpand, hbefore, hafter, hread, hplain, hx⟩
    · cases hrun
  · cases hrun

end SqlTemplate
