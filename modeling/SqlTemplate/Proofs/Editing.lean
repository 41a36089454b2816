import SqlTemplate.Proofs.Visits

/-!
# Walking with a callback

A callback sees the sites of statements in the order of a walk, until it ends the walk. It sees an outer call with what
it has put into it before; but what a call is, its name, the number of its arguments and its location, is not changed by
what stands inside it.

* `Site.label`: what a site is, apart from what stands inside it.
* `edit_follows`: the sites that a callback is handed are the first of the sites of the statements, and the statements
  are changed at the places of the calls that it replaced and nowhere else.
-/

namespace SqlTemplate.Macro

open Sql

/-! ## Labels -/

/-- What a site is, apart from what stands inside it. -/
inductive Label where
  | call (name : String) (kind : Kind) (arity : Nat) (location : Option Text.Location)
  | cte (name written : String) (location : Option Text.Location)
  | malformed (name : String) (target : Target) (location : Option Text.Location)

def Site.label : Site → Label
  | .call invocation _ => .call invocation.name invocation.kind invocation.args.length invocation.location
  | .cte placeholder => .cte placeholder.name placeholder.written placeholder.location
  | .malformed error => .malformed error.name error.target error.location

/-- Arguments are alike: both are wrong, or there are as many of them. -/
def ArgsAlike : Except String (List Expr) → Except String (List Expr) → Prop
  | .ok as, .ok bs => as.length = bs.length
  | .error _, .error _ => True
  | _, _ => False

theorem ArgsAlike.refl (args : Except String (List Expr)) : ArgsAlike args args := by
  cases args <;> simp [ArgsAlike]

theorem ArgsAlike.cons {x y : Except String Expr} {as bs : Except String (List Expr)}
    (hxy : (∃ a b, x = .ok a ∧ y = .ok b) ∨ ∃ m m', x = .error m ∧ y = .error m') (h : ArgsAlike as bs) :
    ArgsAlike (do let a ← x; let as ← as; pure (a :: as)) (do let b ← y; let bs ← bs; pure (b :: bs)) := by
  obtain ⟨a, b, rfl, rfl⟩ | ⟨m, m', rfl, rfl⟩ := hxy
  · rcases as with m | as <;> rcases bs with m' | bs
    · trivial
    · exact h
    · exact h
    · exact congrArg Nat.succ h
  · trivial

/-- An argument that is an expression stays one. -/
theorem plainArg_refill (a : Arg) (ns : List Node) :
    (∃ e e', plainArg (a.refill ns).1 = .ok e ∧ plainArg a = .ok e') ∨
      ∃ m m', plainArg (a.refill ns).1 = .error m ∧ plainArg a = .error m' := by
  cases a with
  | expr name value =>
    cases name with
    | none => exact .inl ⟨_, _, rfl, rfl⟩
    | some name => exact .inr ⟨_, _, rfl, rfl⟩
  | wildcard name qualifier => exact .inr ⟨_, _, rfl, rfl⟩

theorem macroArgs_refill (args : List Arg) (ns : List Node) :
    ArgsAlike ((refillArgs args ns).1.mapM plainArg) (args.mapM plainArg) := by
  induction args generalizing ns with
  | nil => rfl
  | cons a args ih =>
    have hargs : (refillArgs (a :: args) ns).1 = (a.refill ns).1 :: (refillArgs args (a.refill ns).2).1 := rfl
    rw [hargs, List.mapM_cons, List.mapM_cons]
    exact .cons (plainArg_refill a ns) (ih _)

/-- A call keeps its name, and has as many arguments as before, whatever comes in their place. -/
theorem candidate?_refill (e : Expr) (ns : List Node) :
    (candidate? (e.refill ns).1 = none ∧ candidate? e = none) ∨
      ∃ name args args', candidate? (e.refill ns).1 = some (name, args) ∧ candidate? e = some (name, args') ∧
        ArgsAlike args args' := by
  cases e with
  | ident name => exact .inr ⟨name, _, _, rfl, rfl, rfl⟩
  | bareCall name =>
    rcases name with _ | ⟨name, _ | ⟨next, rest⟩⟩
    · exact .inl ⟨rfl, rfl⟩
    · exact .inr ⟨name, _, _, rfl, rfl, rfl⟩
    · exact .inl ⟨rfl, rfl⟩
  | queryCall name query =>
    rcases name with _ | ⟨name, _ | ⟨next, rest⟩⟩
    · exact .inl ⟨rfl, rfl⟩
    · exact .inr ⟨name, _, _, rfl, rfl, trivial⟩
    · exact .inl ⟨rfl, rfl⟩
  | call name parameters args style window withinGroup =>
    obtain ⟨repeats, args, clauses⟩ := args
    rcases name with _ | ⟨name, _ | ⟨next, rest⟩⟩
    · exact .inl ⟨rfl, rfl⟩
    · exact .inr ⟨name, _, _, rfl, rfl, macroArgs_refill args _⟩
    · exact .inl ⟨rfl, rfl⟩
  | _ => exact .inl ⟨rfl, rfl⟩

/-- The site of an expression, by its name and its arguments. -/
theorem label_invocationOf (name : Ident) {args args' : Except String (List Expr)} (h : ArgsAlike args args')
    (e e' : Expr) :
    (invocationOf name args).map (fun c => (Site.ofCall e c).label) =
      (invocationOf name args').map fun c => (Site.ofCall e' c).label := by
  rcases args with m | as <;> rcases args' with m' | bs
  · simp only [invocationOf]
    split <;> rfl
  · exact h.elim
  · exact h.elim
  · have hlength : as.length = bs.length := h
    simp only [invocationOf, hlength]
    split
    · simp [Site.ofCall, Site.label, hlength]
    · rfl
    · rfl

/-- What a call is does not depend on what stands inside it. -/
theorem label_refill (e : Expr) (ns : List Node) :
    (callSite? (e.refill ns).1).map Site.label = (callSite? e).map Site.label := by
  unfold callSite? callOf
  obtain ⟨hnone, hnone'⟩ | ⟨name, args, args', hsome, hsome', halike⟩ := candidate?_refill e ns
  · rw [hnone, hnone']
    rfl
  · rw [hsome, hsome']
    dsimp only
    split
    · rfl
    · rw [Option.map_map, Option.map_map]
      exact label_invocationOf name halike _ e

/-- Places with the labels of the sites there. -/
def labelled (visited : List (Place × Site)) : List (Place × Label) := visited.map fun v => (v.1, v.2.label)

theorem labelled_placed {α : Type} {visited : Edits → α → List (Place × Site)} {xs : List α}
    (h : ∀ x ∈ xs, ∀ edits, labelled (visited edits x) = labelled (visited noEdits x)) (edits : Edits) :
    labelled (placed 0 (xs.mapIdx fun i x => visited (edits.below i) x)) =
      labelled (placed 0 (xs.mapIdx fun _ x => visited noEdits x)) := by
  rw [labelled, labelled, map_placed _ fun _ _ => rfl, map_placed _ fun _ _ => rfl]
  refine congrArg (placed 0) (List.ext_getElem? fun i => ?_)
  simp only [List.getElem?_map, List.getElem?_mapIdx, Option.map_map]
  rcases hx : xs[i]? with _ | x
  · rfl
  · exact congrArg some (h x (List.mem_of_getElem? hx) _)

theorem labelled_append (xs ys : List (Place × Site)) : labelled (xs ++ ys) = labelled xs ++ labelled ys :=
  List.map_append

/-- Edits do not change what the sites are. -/
theorem labelled_visits (edits : Edits) (n : Node) : labelled (visits edits n) = labelled (visits noEdits n) := by
  induction n using node_induction generalizing edits with
  | h n ih =>
    have hbelow : labelled (nodeVisits edits n.children) = labelled (nodeVisits noEdits n.children) :=
      labelled_placed (fun c hc edits => ih c hc edits) edits
    cases n with
    | expr e =>
      have hroot : ∀ edits, labelled (atRoot (callSite? (e.editedInside edits)).toList) =
          ((callSite? e).map Site.label).toList.map fun l => ([], l) := by
        intro edits
        rw [← label_refill e (editedNodes edits e.children), Expr.editedInside]
        cases callSite? (e.refill (editedNodes edits e.children)).1 <;> rfl
      rw [visits_expr, visits_expr, labelled_append, labelled_append, hroot, hroot]
      exact congrArg (· ++ _) hbelow
    | query q =>
      rw [visits_query, visits_query, labelled_append, labelled_append]
      exact congrArg (_ ++ ·) hbelow

theorem labelled_nodeVisits (edits : Edits) (ns : List Node) :
    labelled (nodeVisits edits ns) = labelled (nodeVisits noEdits ns) :=
  labelled_placed (fun n _ edits => labelled_visits edits n) edits

theorem labelled_statementVisits (edits : Edits) (statements : List Statement) :
    labelled (statementVisits edits statements) = labelled (statementVisits noEdits statements) :=
  labelled_placed (fun (s : Statement) _ edits => labelled_nodeVisits edits s.nodes) edits

/-! ## The sites that are met -/

/-- The sites at a node that a walk meets when it makes these edits below the node on its way. -/
def sitesMet (edits : Edits) : Node → List Site
  | .expr e => (callSite? (e.editedInside edits)).toList
  | .query q => q.ctes.filterMap cteSite?

/-- A site that is met at a place is that of the node there, with the edits below it. -/
theorem met_of_mem_visits {n : Node} {edits : Edits} {v : Place × Site} (hv : v ∈ visits edits n) :
    ∃ m, n.at? v.1 = some m ∧ v.2 ∈ sitesMet (edits.under v.1) m := by
  induction n using node_induction generalizing edits v with
  | h n ih =>
    have hbelow : v ∈ nodeVisits edits n.children → ∃ m, n.at? v.1 = some m ∧ v.2 ∈ sitesMet (edits.under v.1) m := by
      intro hv
      obtain ⟨i, xs, w, hxs, hw, rfl⟩ := exists_of_mem_placed hv
      rw [List.getElem?_mapIdx] at hxs
      obtain ⟨c, hc, rfl⟩ := Option.map_eq_some_iff.1 hxs
      obtain ⟨m, hm, hmet⟩ := ih c (List.mem_of_getElem? hc) hw
      refine ⟨m, ?_, ?_⟩
      · rw [Nat.zero_add, Node.at?, hc]
        exact hm
      · rw [Nat.zero_add]
        exact hmet
    have hroot : v ∈ atRoot (sitesMet edits n) → ∃ m, n.at? v.1 = some m ∧ v.2 ∈ sitesMet (edits.under v.1) m := by
      intro hv
      obtain ⟨site, hsite, rfl⟩ := List.mem_map.1 hv
      exact ⟨n, rfl, hsite⟩
    cases n with
    | expr e =>
      rw [visits_expr] at hv
      exact (List.mem_append.1 hv).elim hbelow hroot
    | query q =>
      rw [visits_query] at hv
      exact (List.mem_append.1 hv).elim hroot hbelow

theorem met_of_mem_statementVisits {statements : List Statement} {edits : Edits} {v : Place × Site}
    (hv : v ∈ statementVisits edits statements) :
    ∃ m, nodeAt? statements v.1 = some m ∧ v.2 ∈ sitesMet (edits.under v.1) m := by
  obtain ⟨i, xs, w, hxs, hw, rfl⟩ := exists_of_mem_placed hv
  rw [List.getElem?_mapIdx] at hxs
  obtain ⟨s, hs, rfl⟩ := Option.map_eq_some_iff.1 hxs
  obtain ⟨j, ys, u, hys, hu, rfl⟩ := exists_of_mem_placed hw
  rw [List.getElem?_mapIdx] at hys
  obtain ⟨n, hn, rfl⟩ := Option.map_eq_some_iff.1 hys
  obtain ⟨m, hm, hmet⟩ := met_of_mem_visits hu
  refine ⟨m, ?_, ?_⟩
  · simpa [nodeAt?, hs, hn] using hm
  · rw [Nat.zero_add, Nat.zero_add]
    exact hmet

/-! ## Callbacks -/

section

variable {σ β : Type}

/-- A site that a callback was handed at a place, with what the callback made of it. -/
abbrev Encounter (β : Type) := Place × Site × Answer β

/-- What an encounter asks for. -/
def Encounter.event (x : Encounter β) : Event := (x.1, x.2.1, x.2.2.replacement)

/-- A callback is handed sites in turn, and its state goes from one to the next. -/
inductive Consulted (f : Callback σ β) : σ → List (Encounter β) → σ → Prop
  | nil {s : σ} : Consulted f s [] s
  | cons {s s' : σ} {place : Place} {site : Site} {rest : List (Encounter β)}
    (hrest : Consulted f (f site s).2 rest s') : Consulted f s ((place, site, (f site s).1) :: rest) s'

/-- How a walk with a callback follows the sites that it comes to: `encounters` are those until the callback ends the
walk. -/
structure Follows (f : Callback σ β) (state : σ) (statements : List Statement) (delivered : List (Place × Site))
    (encounters : List (Encounter β)) (result : Edited σ β) : Prop where
  /-- The callback was handed the sites of the encounters, in turn. -/
  consulted : Consulted f state encounters result.state
  seen : result.seen = encounters.map fun x => x.2.1
  /-- It let the walk go on at all of them but the last, and ended it as it answered there. -/
  goes_on : ∀ x ∈ encounters.dropLast, x.2.2.stop = none
  stopped : result.stopped = encounters.getLast?.bind fun x => x.2.2.stop
  /-- By their places and by what they are, the sites are the first ones of those delivered. -/
  first : (encounters.map fun x => (x.1, x.2.1.label)) <+: labelled delivered
  /-- They are all of them, unless the callback ended the walk. -/
  complete : result.stopped = none → encounters.length = delivered.length
  /-- Each is a site of the statements, with what was put into it before, and none is something that was put there. -/
  met : ∀ x ∈ encounters, ∃ n, nodeAt? statements x.1 = some n ∧
    x.2.1 ∈ sitesMet ((editsOf (encounters.map Encounter.event)).under x.1) n
  /-- The statements are changed where the callback replaced a call. -/
  edited : result.statements = editedStatements (editsOf (encounters.map Encounter.event)) statements
  /-- A node stays as it was if the callback saw nothing of it. -/
  untouched : ∀ place n, nodeAt? statements place = some n → (∀ x ∈ encounters, ¬ place <+: x.1) →
    n.edited ((editsOf (encounters.map Encounter.event)).under place) = n

/-- A walk that has ended hands nothing over. -/
theorem Handed.of_stopped {f : Callback σ β} {p p' : Editing σ β} {xs : List (Site × Option Expr)}
    (h : Handed (Editing.hand f) p xs p') (hp : p.stopped.isSome) : p' = p ∧ ∀ x ∈ xs, x.2 = none := by
  have hhand : ∀ site, Editing.hand f site p = (none, p) := by
    intro site
    obtain ⟨b, hb⟩ := Option.isSome_iff_exists.1 hp
    rw [Editing.hand, hb]
  induction xs with
  | nil => cases h; exact ⟨rfl, by simp⟩
  | cons x xs ih =>
    cases h with
    | cons hrest =>
      rw [hhand] at hrest
      obtain ⟨hp', hxs⟩ := ih hrest
      refine ⟨hp', fun y hy => ?_⟩
      rcases List.mem_cons.1 hy with rfl | hy
      · rw [hhand]
      · exact hxs y hy

/-- A walk hands sites to the callback until it is told to stop. -/
theorem Handed.encounters {f : Callback σ β} {p p' : Editing σ β} {events : List Event}
    (h : Handed (Editing.hand f) p (events.map Prod.snd) p') (hp : p.stopped = none) :
    ∃ (encounters : List (Encounter β)) (rest : List Event),
      events = encounters.map Encounter.event ++ rest ∧ (∀ ev ∈ rest, ev.2.2 = none) ∧
      Consulted f p.state encounters p'.state ∧ p'.seen = (encounters.map fun x => x.2.1).reverse ++ p.seen ∧
      (∀ x ∈ encounters.dropLast, x.2.2.stop = none) ∧
      p'.stopped = (encounters.getLast?.bind fun x => x.2.2.stop) ∧ (p'.stopped = none → rest = []) := by
  induction events generalizing p with
  | nil =>
    cases h
    exact ⟨[], [], rfl, by simp, .nil, rfl, by simp, hp, fun _ => rfl⟩
  | cons ev events ih =>
    obtain ⟨place, site, answer⟩ := ev
    cases h with
    | cons hrest =>
      have hhand : Editing.hand f site p =
          ((f site p.state).1.replacement, ⟨(f site p.state).2, site :: p.seen, (f site p.state).1.stop⟩) := by
        rw [Editing.hand, hp]
      rw [hhand] at hrest ⊢
      let first : Encounter β := (place, site, (f site p.state).1)
      cases hstop : (f site p.state).1.stop with
      | some b =>
        obtain ⟨rfl, hnone⟩ := hrest.of_stopped (by simp [hstop])
        refine ⟨[first], events, rfl, ?_, .cons .nil, rfl, by simp, ?_, ?_⟩
        · exact fun ev hev => hnone ev.2 (List.mem_map_of_mem hev)
        · rfl
        · simp [hstop]
      | none =>
        obtain ⟨encounters, rest, rfl, hnone, hconsulted, hseen, hgoes, hstopped, hall⟩ := ih hrest hstop
        refine ⟨first :: encounters, rest, rfl, hnone, .cons hconsulted, ?_, ?_, ?_, hall⟩
        · simp [hseen, first]
        · intro x hx
          cases encounters with
          | nil => cases hx
          | cons y ys =>
            rcases List.mem_cons.1 hx with rfl | hx
            · exact hstop
            · exact hgoes x hx
        · cases encounters with
          | nil => exact hstopped.trans hstop.symm
          | cons y ys => simpa using hstopped

/-- **A walk with a callback follows the walk of the statements as they were.** Whatever the callback puts in the place
of calls and wherever it ends the walk, it is handed the first of the sites of the statements, up to the one where it
ends the walk; the statements are changed at the places of the calls that it replaced, and what it did not see stays as
it was. -/
theorem edit_follows (f : Callback σ β) (state : σ) (statements : List Statement) :
    ∃ delivered encounters, Delivered statements delivered ∧ sites statements = delivered.map Prod.snd ∧
      Follows f state statements delivered encounters (edit f state statements) := by
  obtain ⟨events, p, hhanded, hvisits, hwalk⟩ :=
    walkStatements_handling (Editing.hand f) statements ⟨state, [], none⟩
  obtain ⟨encounters, rest, rfl, hnone, hconsulted, hseen, hgoes, hstopped, hall⟩ := hhanded.encounters rfl
  have hedits : editsOf (encounters.map Encounter.event ++ rest) = editsOf (encounters.map Encounter.event) := by
    have hrest : editsOf rest = noEdits := editsOf_eq_noEdits fun ev hev => by rw [hnone ev hev, Site.put_none]
    funext place
    rw [editsOf_append, hrest, noEdits, Option.or_none]
  rw [hedits] at hvisits hwalk
  have hresult : edit f state statements =
      ⟨editedStatements (editsOf (encounters.map Encounter.event)) statements, p.seen.reverse, p.state, p.stopped⟩ :=
    congrArg (fun x => Edited.mk x.1 x.2.seen.reverse x.2.state x.2.stopped) hwalk
  have hlabels := labelled_statementVisits (editsOf (encounters.map Encounter.event)) statements
  rw [← hvisits] at hlabels
  refine ⟨statementVisits noEdits statements, encounters, delivered_statementVisits statements,
    sites_eq_visits statements, ?_⟩
  rw [hresult]
  refine ⟨hconsulted, ?_, hgoes, hstopped, ?_, ?_, ?_, rfl, ?_⟩
  · simp [hseen]
  · refine ⟨labelled (rest.map Event.visit), ?_⟩
    rw [← hlabels, List.map_append, labelled_append]
    simp [labelled, Event.visit, Encounter.event]
  · intro hstop
    have hlength := congrArg List.length hlabels
    simpa [labelled, hall hstop] using hlength
  · intro x hx
    refine met_of_mem_statementVisits (v := x.event.visit) ?_
    rw [← hvisits]
    exact List.mem_map.2 ⟨x.event, List.mem_append_left _ (List.mem_map_of_mem hx), rfl⟩
  · intro place n _ hunseen
    have hunder : (editsOf (encounters.map Encounter.event)).under place = noEdits := by
      funext q
      refine editsOf_eq_none fun ev hev => ?_
      obtain ⟨x, hx, rfl⟩ := List.mem_map.1 hev
      intro hplace
      exact hunseen x hx ⟨q, hplace.symm⟩
    rw [hunder, edited_noEdits]

end

end SqlTemplate.Macro
