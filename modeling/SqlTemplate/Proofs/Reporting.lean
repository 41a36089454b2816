import SqlTemplate.Proofs.Editing
import SqlTemplate.Proofs.Positions
import SqlTemplate.Proofs.TracingStatements

/-!
# Where reports point

Whatever is reported about a macro of a text carries the location of its name: going back from it leads to the
characters of the text that spell the name, in a piece of their own. A macro that is read as a function of a pivot has
no location.

* `PointsAt`, `Reported`: a location is that of a macro; a macro is reported with its location.
* `Site.Located`, `Error.Located`: the site or the error is reported with its location.
* `located_of_parse`: all sites, placeholders and errors of a text that was read are.
-/

namespace SqlTemplate

open Sql Macro

/-- A location of a text is that of a macro. -/
def PointsAt (dialect : Dialect) (text name : String) (at_ : Text.Location) : Prop :=
  ∃ offset, Text.offset? text at_ = some offset ∧ StandsAt dialect text name offset

/-- A macro is reported with a location of the text, unless it is a function of a pivot, which has none. -/
def Reported (dialect : Dialect) (text name : String) : Option Text.Location → Prop
  | some at_ => PointsAt dialect text name at_
  | none => ∃ tokens, lexemes dialect text = .ok tokens ∧ PivotFunction tokens name

/-- A site is reported with its location. -/
def Macro.Site.Located (dialect : Dialect) (text : String) : Site → Prop
  | .call invocation _ => Reported dialect text invocation.name invocation.location
  | .cte placeholder => ∃ at_, placeholder.location = some at_ ∧ PointsAt dialect text placeholder.written at_
  | .malformed error =>
    match error.target with
    | .call => Reported dialect text error.name error.location
    | .cte => ∃ at_, error.location = some at_ ∧ PointsAt dialect text error.name at_

/-- A declaration carries its location and its index in the text. -/
def Macro.Declaration.Located (dialect : Dialect) (text : String) (d : Declaration) : Prop :=
  ∃ at_ offset, d.location = some at_ ∧ Text.offset? text at_ = some offset ∧ d.offset = some offset ∧
    StandsAt dialect text d.written offset

/-- An error about a macro is reported with its location. It is not about reading the text. -/
def Error.Located (dialect : Dialect) (text : String) : Error → Prop
  | .parse _ => False
  | .badCall name _ location | .badExpansion name _ location => Reported dialect text name location
  | .badPlaceholder name _ location => ∃ at_, location = some at_ ∧ PointsAt dialect text name at_
  | .range _ | .cancelled _ => True

section

variable {dialect : Dialect} {text : String} {tokens : List Lexeme}

/-! ## Names -/

/-- The name of a macro that keeps its place points at itself. -/
theorem pointsAt_of_from (htokens : lexemes dialect text = .ok tokens) {name : Ident} (h : name.From tokens)
    (hquote : name.quote = none) (hname : isMacroName name.text) :
    ∃ at_, identLocation name = some at_ ∧ PointsAt dialect text name.text at_ := by
  obtain ⟨l, hl, htoken, hspan⟩ := h hquote
  exact ⟨l.span.start, by rw [identLocation, hspan]; rfl, macro_standsAt htokens hl hname htoken⟩

theorem reported_of_calledFrom (htokens : lexemes dialect text = .ok tokens) {name : Ident} (h : name.CalledFrom tokens)
    (hquote : name.quote = none) (hname : isMacroName name.text) :
    Reported dialect text name.text (identLocation name) := by
  rcases h with h | ⟨hspan, hpivot⟩
  · obtain ⟨at_, hat, hpoints⟩ := pointsAt_of_from htokens h hquote hname
    rw [hat]
    exact hpoints
  · rw [identLocation, hspan]
    exact ⟨tokens, htokens, hpivot⟩

/-! ## Sites -/

/-- What is said of a call is said of its name. -/
theorem located_of_callOf {e : Expr} {called : Except ShapeError Invocation} (h : callOf e = some called)
    (hlocated : ∀ name args, candidate? e = some (name, args) → name.quote = none → isMacroName name.text →
      Reported dialect text name.text (identLocation name)) (e' : Expr) :
    (Site.ofCall e' called).Located dialect text := by
  unfold callOf at h
  rcases hcandidate : candidate? e with _ | ⟨name, args⟩ <;> rw [hcandidate] at h
  · cases h
  · dsimp only at h
    split at h
    · cases h
    · rename_i hname
      simp only [Bool.or_eq_true, not_or, Bool.not_eq_true, Option.isSome_eq_false_iff, Option.isNone_iff_eq_none,
        Bool.not_eq_false'] at hname
      have hreported := hlocated name args hcandidate hname.1 hname.2
      unfold invocationOf at h
      dsimp only at h
      split at h
      · split at h <;> cases h
        exact hreported
      · split at h
        · rename_i entry hentry
          cases h
          obtain ⟨-, hentryName, -⟩ := resolve_eq_found hentry
          show Reported dialect text entry.name (identLocation name)
          rw [hentryName]
          exact hreported
        · cases h
          exact hreported
        · cases h

/-- The site of a call is reported with its location, whatever has come in the place of its arguments. -/
theorem located_of_refill (htokens : lexemes dialect text = .ok tokens) {e : Expr} (hown : (Node.expr e).OwnFrom tokens)
    {ns : List Node} {called : Except ShapeError Invocation} (h : callOf (e.refill ns).1 = some called) (e' : Expr) :
    (Site.ofCall e' called).Located dialect text := by
  refine located_of_callOf h (fun name args hcandidate hquote hname => ?_) e'
  obtain ⟨hnone, -⟩ | ⟨_, _, args', hsome, hsome', -⟩ := candidate?_refill e ns
  · rw [hnone] at hcandidate
    cases hcandidate
  · rw [hsome] at hcandidate
    cases hcandidate
    exact reported_of_calledFrom htokens (hown name args' hsome') hquote hname

theorem located_of_placeholderOf (htokens : lexemes dialect text = .ok tokens) {cte : Cte}
    (hlabel : cte.label.name.From tokens) {site : Site} (h : cteSite? cte = some site) : site.Located dialect text := by
  unfold cteSite? placeholderOf at h
  dsimp only at h
  split at h
  · cases h
  · rename_i hquote
    split at h
    · cases h
    · rename_i rest hrest
      have hname : isMacroName cte.label.name.text := by rw [isMacroName, hrest]; rfl
      obtain ⟨at_, hat, hpoints⟩ := pointsAt_of_from htokens hlabel (by simpa using hquote) hname
      split at h <;> cases h <;> exact ⟨at_, hat, hpoints⟩

/-- The sites of a node are reported with their locations. -/
theorem located_of_nodeSites (htokens : lexemes dialect text = .ok tokens) {n : Node} (hown : n.OwnFrom tokens)
    {site : Site} (h : site ∈ nodeSites n) : site.Located dialect text := by
  cases n with
  | expr e =>
    obtain ⟨called, hcalled, rfl⟩ := Option.map_eq_some_iff.1 (Option.mem_toList.1 h)
    exact located_of_callOf hcalled
      (fun name args hcandidate => reported_of_calledFrom htokens (hown name args hcandidate)) e
  | query q =>
    obtain ⟨cte, hcte, hsite⟩ := List.mem_filterMap.1 h
    exact located_of_placeholderOf htokens (hown cte hcte) hsite

/-- What holds of a node and of all below it holds at every place. -/
theorem from_of_at? {n m : Node} {place : Place} (h : n.From tokens) (hm : n.at? place = some m) : m.From tokens := by
  induction place generalizing n with
  | nil => cases hm; exact h
  | cons i place ih =>
    obtain ⟨c, hc, hm⟩ := Option.bind_eq_some_iff.1 hm
    exact ih (h.inside c (List.mem_of_getElem? hc)) hm

theorem from_of_nodeAt? {statements : List Statement} (h : Traced tokens statements) {n : Node} {place : Place}
    (hn : nodeAt? statements place = some n) : n.From tokens := by
  rcases place with _ | ⟨i, _ | ⟨j, place⟩⟩
  · cases hn
  · cases hn
  · obtain ⟨s, hs, hn⟩ := Option.bind_eq_some_iff.1 hn
    obtain ⟨m, hm, hn⟩ := Option.bind_eq_some_iff.1 hn
    exact from_of_at? ((h.out s (List.mem_of_getElem? hs)).out m (List.mem_of_getElem? hm)) hn

/-- The sites of statements are reported with their locations. -/
theorem located_of_sites (htokens : lexemes dialect text = .ok tokens) {statements : List Statement}
    (h : Traced tokens statements) {site : Site} (hsite : site ∈ sites statements) : site.Located dialect text := by
  rw [sites_eq_visits] at hsite
  obtain ⟨⟨place, site⟩, hvisit, rfl⟩ := List.mem_map.1 hsite
  have hat : site ∈ sitesAt place (statementVisits noEdits statements) :=
    List.mem_map.2 ⟨_, List.mem_filter.2 ⟨hvisit, by simp⟩, rfl⟩
  rw [sitesAt_statementVisits] at hat
  cases hn : nodeAt? statements place with
  | none => rw [hn] at hat; cases hat
  | some n =>
    rw [hn] at hat
    exact located_of_nodeSites htokens (from_of_nodeAt? h hn).own hat

/-! ## Placeholders -/

theorem located_of_insertDeclaration {d : Declaration} {ds : List Declaration} {e : Declaration}
    (h : e ∈ Extraction.insertDeclaration d ds) : e = d ∨ e ∈ ds := by
  induction ds with
  | nil => exact .inl (List.mem_singleton.1 h)
  | cons f ds ih =>
    rw [Extraction.insertDeclaration] at h
    split at h
    · exact List.mem_cons.1 h
    · split at h
      · exact (List.mem_cons.1 h).imp_right (List.mem_cons_of_mem f)
      · rcases List.mem_cons.1 h with rfl | h
        · exact .inr List.mem_cons_self
        · exact (ih h).imp_right (List.mem_cons_of_mem f)

/-- What comes of collecting declarations is reported with its location if the sites are. -/
theorem located_of_collect {found : List Site} (hfound : ∀ site ∈ found, site.Located dialect text) {x : Extraction}
    (hx : ∀ d ∈ x.declarations, d.Located dialect text) :
    match collect (some text) x found with
    | .ok y => ∀ d ∈ y.declarations, d.Located dialect text
    | .error e => (Error.ofShape e).Located dialect text := by
  induction found generalizing x with
  | nil => exact hx
  | cons site rest ih =>
    obtain ⟨hsite, hrest⟩ := List.forall_mem_cons.1 hfound
    cases site with
    | call invocation e => exact ih hrest hx
    | cte p =>
      refine ih hrest fun d hd => ?_
      rcases located_of_insertDeclaration hd with rfl | hd
      · obtain ⟨at_, hat, offset, hoffset, hstands⟩ := hsite
        exact ⟨at_, offset, hat, hoffset, by simp [Placeholder.declaration, hat, hoffset], hstands⟩
      · exact hx d hd
    | malformed e =>
      rw [collect]
      by_cases htarget : e.target = .cte
      · rw [if_pos htarget]
        simpa [Site.Located, Error.ofShape, Error.Located, htarget] using hsite
      · rw [if_neg htarget]
        exact ih hrest hx

/-! ## Errors -/

/-- The errors of an outcome are of a kind. -/
def Blames {α : Type} (P : Error → Prop) (x : Outcome α) : Prop := ∀ e, x = .error (.error e) → P e

section

variable {P : Error → Prop} {α β : Type}

theorem blames_pure (a : α) : Blames P (pure a : Outcome α) := fun _ h => by cases h

theorem Blames.bind {x : Outcome α} {f : α → Outcome β} (hx : Blames P x) (hf : ∀ a, Blames P (f a)) :
    Blames P (x >>= f) := by
  intro e he
  cases x with
  | error failure => exact hx e (by cases he; rfl)
  | ok a => exact hf a e he

theorem Blames.map {x : Outcome α} (hx : Blames P x) (f : α → β) : Blames P (f <$> x) := by
  intro e he
  cases x with
  | error failure => exact hx e (by cases he; rfl)
  | ok a => cases he

theorem blames_lift {ε : Type} {f : ε → Error} (hf : ∀ e, P (f e)) (x : Except ε α) : Blames P (Outcome.lift f x) := by
  intro e he
  cases x with
  | error failure => cases he; exact hf failure
  | ok a => cases he

theorem walkNodes_blames {v : Visitor Outcome} {ns : List Node} (h : ∀ n ∈ ns, Blames P (walkNode v n)) :
    Blames P (walkNodes v ns) := by
  induction ns with
  | nil => exact blames_pure []
  | cons n ns ih =>
    obtain ⟨hn, hns⟩ := List.forall_mem_cons.1 h
    exact hn.bind fun _ => (ih hns).bind fun _ => blames_pure _

end

/-- An expansion fails where the macro stands. -/
theorem expand_blames {request : Request} {i : Invocation} (h : Reported dialect text i.name i.location) :
    Blames (Error.Located dialect text) (expand dialect request i) := by
  intro e he
  unfold expand at he
  dsimp only at he
  split at he
  · cases he; exact h
  · cases he
  · split at he
    · cases he
    · cases he
    · cases he; exact h

/-- Placeholders do not stop an expansion. -/
theorem ctes_blames {P : Error → Prop} (request : Request) (ctes : List Cte) :
    Blames P ((expander dialect request).ctes ctes) := by
  induction ctes with
  | nil => exact blames_pure ()
  | cons cte rest ih =>
    rw [Visitor.ctes]
    split
    · exact ih
    · exact ih
    · rename_i error herror
      have hskip : (expander dialect request).malformed error = pure () :=
        if_neg (by rw [target_of_placeholderOf herror]; decide)
      rw [hskip]
      exact ih

/-- A walk that expands macros fails where one of them stands. -/
theorem walkNode_blames (htokens : lexemes dialect text = .ok tokens) (request : Request) {n : Node}
    (h : n.From tokens) : Blames (Error.Located dialect text) (walkNode (expander dialect request) n) := by
  induction n using node_induction with
  | h n ih =>
    have hbelow : Blames (Error.Located dialect text) (walkNodes (expander dialect request) n.children) :=
      walkNodes_blames fun c hc => ih c hc (h.inside c hc)
    cases n with
    | expr e =>
      rw [walkNode_expr]
      refine hbelow.bind fun ns => .map ?_ _
      unfold Visitor.expr
      split
      · exact blames_pure _
      · rename_i invocation hcall
        exact expand_blames (located_of_refill htokens h.own hcall e)
      · rename_i error hcall
        have hlocated := located_of_refill htokens h.own hcall e
        have htarget := target_of_callOf hcall
        refine .bind (fun _ herr => ?_) fun _ => blames_pure _
        dsimp only [expander] at herr
        rw [if_pos htarget] at herr
        cases herr
        simpa [Site.ofCall, Site.Located, Error.ofShape, Error.Located, htarget] using hlocated
    | query q =>
      rw [walkNode_query]
      exact (ctes_blames request q.ctes).bind fun _ => hbelow.bind fun ns => blames_pure _

theorem ask_blames (polls : Polls) : Blames (Error.Located dialect text) polls.ask := blames_lift (fun _ => trivial) _

theorem expandStatements_blames (htokens : lexemes dialect text = .ok tokens) (request : Request) (polls : Polls)
    {statements : List Statement} (h : Traced tokens statements) :
    Blames (Error.Located dialect text) (expandStatements dialect request polls statements) := by
  obtain ⟨h⟩ := h
  induction statements generalizing polls with
  | nil => exact (ask_blames polls).bind fun _ => blames_pure _
  | cons s statements ih =>
    obtain ⟨hs, hrest⟩ := List.forall_mem_cons.1 h
    refine (ask_blames polls).bind fun _ => .bind ?_ fun _ => (ih polls.rest hrest).bind fun _ => blames_pure _
    rw [walkStatement_eq]
    exact (walkNodes_blames fun n hn => walkNode_blames htokens request (hs.out n hn)).bind fun _ => blames_pure _

/-- Interpolating a text that was read fails where a macro stands. -/
theorem interpolate_blames (htokens : lexemes dialect text = .ok tokens) (request : Request) (polls : Polls)
    {statements : List Statement} (hparse : parseStatements dialect text = .ok statements)
    (h : Traced tokens statements) : Blames (Error.Located dialect text) (interpolate dialect request polls text) := by
  have hround : Blames (Error.Located dialect text) request.rounded :=
    (blames_lift (fun _ => trivial) _).bind fun _ => blames_pure _
  have hexpand : Blames (Error.Located dialect text) (interpolateStatements dialect request polls.rest statements) :=
    .bind (hround.bind fun rounded => expandStatements_blames htokens rounded polls.rest h) fun _ => blames_pure _
  unfold interpolate
  rw [hparse]
  exact (ask_blames polls).bind fun _ => hexpand

end

/-- **Reports point at macros.** Of a text that was read, every site of a walk and every error about a macro carries the
location of the name of the macro, whether or not macros inside it have been expanded before, and so does every
placeholder, along with the index of its name. A macro that is read as a function of a pivot has no location. -/
theorem located_of_parse (dialect : Dialect) (text : String) (statements : List Statement)
    (h : parseStatements dialect text = .ok statements) :
    (∀ site ∈ sites statements, site.Located dialect text) ∧
      (∀ x, extract (some text) statements = .ok x → ∀ d ∈ x.declarations, d.Located dialect text) ∧
      (∀ e, extractPlaceholders (some text) statements = .error (.error e) → e.Located dialect text) ∧
      ∀ request polls e, interpolate dialect request polls text = .error (.error e) → e.Located dialect text := by
  obtain ⟨tokens, htokens, htraced⟩ := traced_of_parseStatements h
  have hsites : ∀ site ∈ sites statements, site.Located dialect text := fun _ => located_of_sites htokens htraced
  have hcollect := located_of_collect hsites (x := .empty) fun d hd => nomatch hd
  refine ⟨hsites, fun x hx => ?_, fun e he => ?_, fun request polls => ?_⟩
  · unfold extract at hx
    rw [hx] at hcollect
    exact hcollect
  · unfold extractPlaceholders extract at he
    cases hfound : collect (some text) .empty (sites statements) with
    | ok x => rw [hfound] at he; cases he
    | error error =>
      rw [hfound] at he hcollect
      cases he
      exact hcollect
  · exact interpolate_blames htokens request polls h htraced

/-- A call of a text that was read, by its name and location. -/
theorem exists_call (dialect : Dialect) (text name : String) (location : Option Text.Location)
    (h : (parseStatements dialect text).toOption.any (fun statements => (sites statements).any fun
      | .call invocation _ => invocation.name == name && invocation.location == location
      | _ => false) = true) :
    ∃ statements invocation e, parseStatements dialect text = .ok statements ∧ .call invocation e ∈ sites statements ∧
      invocation.name = name ∧ invocation.location = location := by
  cases hparse : parseStatements dialect text with
  | error failure => rw [hparse] at h; cases h
  | ok statements =>
    rw [hparse] at h
    obtain ⟨site, hsite, hcall⟩ := List.any_eq_true.1 h
    cases site with
    | call invocation e =>
      obtain ⟨hname, hlocation⟩ := Bool.and_eq_true_iff.1 hcall
      exact ⟨statements, invocation, e, rfl, hsite, beq_iff_eq.1 hname, beq_iff_eq.1 hlocation⟩
    | cte => cases hcall
    | malformed => cases hcall

/-- Newlines within literals and letters of all kinds count as they are written. -/
theorem located_behind_newline :
    ∃ statements invocation e, parseStatements .generic "SELECT 'é\n', $__round(x)" = .ok statements ∧
      .call invocation e ∈ sites statements ∧ invocation.location = some ⟨2, 4⟩ ∧
      PointsAt .generic "SELECT 'é\n', $__round(x)" "$__round" ⟨2, 4⟩ := by
  obtain ⟨statements, invocation, e, hparse, hcall, hname, hlocation⟩ :=
    exists_call .generic "SELECT 'é\n', $__round(x)" "$__round" (some ⟨2, 4⟩) (by decide +kernel)
  have hlocated := (located_of_parse _ _ statements hparse).1 _ hcall
  rw [Site.Located, hname, hlocation] at hlocated
  exact ⟨statements, invocation, e, hparse, hcall, hlocation, hlocated⟩

/-- A call that is read as a function of a pivot has no location. -/
theorem pivot_function_unlocated :
    ∃ statements invocation e,
      parseStatements .generic "SELECT * FROM t PIVOT($__round(v) FOR x IN ('a'))" = .ok statements ∧
      .call invocation e ∈ sites statements ∧ invocation.name = "$__round" ∧ invocation.location = none :=
  exists_call _ _ _ _ (by decide +kernel)

end SqlTemplate
