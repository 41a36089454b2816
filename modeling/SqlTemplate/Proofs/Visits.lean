import SqlTemplate.Macro.Replacement
import SqlTemplate.Proofs.Nodes

/-!
# The order of a walk

A place in statements is the number of a statement followed by the numbers of the nodes on the way down from it. A walk
comes to the sites of a node at its place: to that of an expression when it leaves the expression, to those of a query
before everything inside it. A walk that puts other expressions in the place of calls sees at an outer call what it has
put into it.

* `nodeAt?`, `Node.edited`: the node at a place, and other expressions at some places.
* `visits`: the sites that a walk comes to, with their places; `sitesWithin`: those of a node without edits.
* `walkNode_handling`: a walk hands these sites over in turn, and makes the edits that are asked for.
* `sites_delivered`: the sites of statements are those of their nodes, each once, the inner ones of an expression before
  the outer one and the placeholders of a query before everything inside it.
-/

namespace SqlTemplate

namespace Sql

/-! ## Places -/

/-- The numbers of the nodes on the way down to a node. -/
abbrev Place := List Nat

/-- The first place lies deeper than the second one and below it. -/
def Place.Inside (p q : Place) : Prop := ∃ (i : Nat) (r : Place), p = q ++ i :: r

@[simp] theorem Place.inside_cons {i j : Nat} {p q : Place} : Inside (i :: p) (j :: q) ↔ i = j ∧ Inside p q := by
  simp only [Inside, List.cons_append, List.cons.injEq, exists_and_left]

@[simp] theorem Place.not_nil_inside {q : Place} : ¬ Inside [] q := by
  simp [Inside]

/-- The node at a place below a node. -/
def Node.at? : Node → Place → Option Node
  | n, [] => some n
  | n, i :: p => n.children[i]?.bind (·.at? p)

/-- The node at a place in statements. -/
def nodeAt? (statements : List Statement) : Place → Option Node
  | i :: j :: p => statements[i]?.bind fun s => s.nodes[j]?.bind (·.at? p)
  | _ => none

/-! ## Edits -/

/-- Other expressions for some places. -/
abbrev Edits := Place → Option Expr

/-- No other expressions. -/
def noEdits : Edits := fun _ => none

/-- The edits below the node of a number. -/
def Edits.below (edits : Edits) (i : Nat) : Edits := fun p => edits (i :: p)

/-- The edits at a place and below it. -/
def Edits.under (edits : Edits) (place : Place) : Edits := fun p => edits (place ++ p)

/-- The node with other expressions in the places that the edits name. -/
def Node.edited (edits : Edits) (n : Node) : Node :=
  let inside := n.refill (n.children.attach.mapIdx fun i c => c.1.edited (edits.below i))
  match n with
  | .expr _ => ((edits []).map Node.expr).getD inside
  | .query _ => inside
termination_by n
decreasing_by exact c.2

/-- Nodes with other expressions in the places that the edits name. -/
def editedNodes (edits : Edits) (ns : List Node) : List Node := ns.mapIdx fun i n => n.edited (edits.below i)

/-- An expression with other expressions in the places below it that the edits name. -/
def Expr.editedInside (edits : Edits) (e : Expr) : Expr := (e.refill (editedNodes edits e.children)).1

/-- A statement with other expressions in the places that the edits name. -/
def Statement.edited (edits : Edits) (s : Statement) : Statement := (s.refill (editedNodes edits s.nodes)).1

/-- Statements with other expressions in the places that the edits name. -/
def editedStatements (edits : Edits) (statements : List Statement) : List Statement :=
  statements.mapIdx fun i s => s.edited (edits.below i)

theorem mapIdx_attach {α β : Type} (l : List α) (f : Nat → α → β) :
    l.attach.mapIdx (fun i x => f i x.1) = l.mapIdx f := by
  calc l.attach.mapIdx (fun i x => f i x.1)
      = (l.attach.map Subtype.val).mapIdx f := List.ext_getElem? fun i => by
        rw [List.getElem?_mapIdx, List.getElem?_mapIdx, List.getElem?_map, Option.map_map]
        rfl
    _ = l.mapIdx f := by rw [List.attach_map_subtype_val]

theorem edited_expr (edits : Edits) (e : Expr) :
    Node.edited edits (.expr e) = .expr ((edits []).getD (e.editedInside edits)) := by
  rw [Node.edited, mapIdx_attach _ fun i c => Node.edited (edits.below i) c]
  cases edits [] <;> rfl

theorem edited_query (edits : Edits) (q : Query) :
    Node.edited edits (.query q) = .query (q.refill (editedNodes edits q.children)).1 := by
  rw [Node.edited, mapIdx_attach _ fun i c => Node.edited (edits.below i) c]
  rfl

/-- Without edits a node stays as it is. -/
theorem edited_noEdits (n : Node) : n.edited noEdits = n := by
  induction n using Macro.node_induction with
  | h n ih =>
    have hbelow : editedNodes noEdits n.children = n.children := by
      refine List.ext_getElem? fun i => ?_
      rw [editedNodes, List.getElem?_mapIdx]
      rcases hc : n.children[i]? with _ | c
      · rfl
      · exact congrArg some (ih c (List.mem_of_getElem? hc))
    have hrefill := Macro.refill_children n
    cases n with
    | expr e => rw [edited_expr, Expr.editedInside]; rw [← hbelow] at hrefill; exact hrefill
    | query q => rw [edited_query]; rw [← hbelow] at hrefill; exact hrefill

theorem editedInside_noEdits (e : Expr) : e.editedInside noEdits = e := by
  have h := edited_noEdits (.expr e)
  rw [edited_expr] at h
  exact Node.expr.inj h

end Sql

namespace Macro

open Sql

/-! ## Sites with their places -/

/-- The site of an expression that was recognised as a call. -/
def Site.ofCall (e : Expr) : Except ShapeError Invocation → Site
  | .ok invocation => .call invocation e
  | .error error => .malformed error

/-- The site that an expression is, if it is one. -/
def callSite? (e : Expr) : Option Site := (callOf e).map (Site.ofCall e)

/-- The site that a named query is, if it is one. -/
def cteSite? (cte : Cte) : Option Site :=
  (placeholderOf cte).map fun
    | .ok placeholder => .cte placeholder
    | .error error => .malformed error

/-- The sites at a node itself. -/
def nodeSites : Node → List Site
  | .expr e => (callSite? e).toList
  | .query q => q.ctes.filterMap cteSite?

section

variable {α : Type}

/-- Lists one after the other, with the number of a list in front of the places in it. -/
def placed : Nat → List (List (Place × α)) → List (Place × α)
  | _, [] => []
  | i, xs :: rest => xs.map (fun x => (i :: x.1, x.2)) ++ placed (i + 1) rest

theorem map_snd_placed (k : Nat) (xss : List (List (Place × α))) :
    (placed k xss).map Prod.snd = (xss.map (·.map Prod.snd)).flatten := by
  induction xss generalizing k with
  | nil => rfl
  | cons xs xss ih => simp [placed, ih]

/-- A function that leaves places as they are may come first. -/
theorem map_placed {β : Type} (f : Place × α → Place × β) (hf : ∀ i x, f (i :: x.1, x.2) = (i :: (f x).1, (f x).2))
    (k : Nat) (xss : List (List (Place × α))) : (placed k xss).map f = placed k (xss.map (·.map f)) := by
  induction xss generalizing k with
  | nil => rfl
  | cons xs xss ih => simp [placed, ih, Function.comp_def, hf]

theorem filter_placed_nil (k : Nat) (xss : List (List (Place × α))) :
    (placed k xss).filter (fun x => x.1 = []) = [] := by
  induction xss generalizing k with
  | nil => rfl
  | cons xs xss ih => simp [placed, ih, List.filter_map, Function.comp_def]

theorem filter_placed_of_lt {k i : Nat} (h : i < k) (p : Place) (xss : List (List (Place × α))) :
    (placed k xss).filter (fun x => x.1 = i :: p) = [] := by
  induction xss generalizing k with
  | nil => rfl
  | cons xs xss ih =>
    have hne : k ≠ i := by omega
    simp [placed, ih (Nat.lt_succ_of_lt h), List.filter_map, Function.comp_def, hne]

/-- What stands at a place is what stands there in the list of its number. -/
theorem filter_placed (k i : Nat) (p : Place) (xss : List (List (Place × α))) :
    ((placed k xss).filter fun x => x.1 = (k + i) :: p).map Prod.snd =
      (((xss[i]?).getD []).filter fun x => x.1 = p).map Prod.snd := by
  induction xss generalizing k i with
  | nil => rfl
  | cons xs xss ih =>
    cases i with
    | zero =>
      have hrest := filter_placed_of_lt (Nat.lt_succ_self k) p xss
      simp [placed, hrest, List.filter_map, Function.comp_def]
    | succ i =>
      have hrest := ih (k + 1) i
      rw [Nat.add_right_comm, Nat.add_assoc] at hrest
      have hne : k ≠ k + (i + 1) := by omega
      simp [placed, hrest, List.filter_map, Function.comp_def]

theorem exists_of_mem_placed {k : Nat} {xss : List (List (Place × α))} {x : Place × α} (h : x ∈ placed k xss) :
    ∃ i xs y, xss[i]? = some xs ∧ y ∈ xs ∧ x = ((k + i) :: y.1, y.2) := by
  induction xss generalizing k with
  | nil => cases h
  | cons xs xss ih =>
    rcases List.mem_append.1 h with h | h
    · obtain ⟨y, hy, rfl⟩ := List.mem_map.1 h
      exact ⟨0, xs, y, rfl, hy, rfl⟩
    · obtain ⟨i, ys, y, hi, hy, rfl⟩ := ih h
      refine ⟨i + 1, ys, y, by simpa using hi, hy, ?_⟩
      rw [Nat.add_right_comm, Nat.add_assoc]

/-- An order that holds in each list and between places of different lists holds in all of them. -/
theorem pairwise_placed {R : Place → Place → Prop} {k : Nat} {xss : List (List (Place × α))}
    (hin : ∀ (i : Nat) (xs : List (Place × α)), xss[i]? = some xs →
      xs.Pairwise fun v w => R ((k + i) :: v.1) ((k + i) :: w.1))
    (hout : ∀ i j p q, i < j → R (i :: p) (j :: q)) : (placed k xss).Pairwise fun v w => R v.1 w.1 := by
  induction xss generalizing k with
  | nil => exact .nil
  | cons xs xss ih =>
    have hrest : (placed (k + 1) xss).Pairwise fun v w => R v.1 w.1 := by
      refine ih fun i ys hi => ?_
      have := hin (i + 1) ys (by simpa using hi)
      rwa [Nat.add_comm i 1, ← Nat.add_assoc] at this
    refine List.pairwise_append.2 ⟨List.pairwise_map.2 (hin 0 xs rfl), hrest, fun v hv w hw => ?_⟩
    obtain ⟨x, _, rfl⟩ := List.mem_map.1 hv
    obtain ⟨j, ys, y, -, -, rfl⟩ := exists_of_mem_placed hw
    exact hout k (k + 1 + j) x.1 y.1 (by omega)

end

/-- Sites at the place of the node itself. -/
def atRoot (sites : List Site) : List (Place × Site) := sites.map fun site => ([], site)

/-- The sites that a walk comes to at a node and below it, when it makes these edits on its way. -/
def visits (edits : Edits) (n : Node) : List (Place × Site) :=
  let inside := placed 0 (n.children.attach.mapIdx fun i c => visits (edits.below i) c.1)
  match n with
  | .expr e => inside ++ atRoot (callSite? (e.editedInside edits)).toList
  | .query q => atRoot (q.ctes.filterMap cteSite?) ++ inside
termination_by n
decreasing_by exact c.2

/-- The sites that a walk comes to at nodes and below them. -/
def nodeVisits (edits : Edits) (ns : List Node) : List (Place × Site) :=
  placed 0 (ns.mapIdx fun i n => visits (edits.below i) n)

/-- The sites that a walk comes to in statements. -/
def statementVisits (edits : Edits) (statements : List Statement) : List (Place × Site) :=
  placed 0 (statements.mapIdx fun i s => nodeVisits (edits.below i) s.nodes)

theorem visits_expr (edits : Edits) (e : Expr) :
    visits edits (.expr e) = nodeVisits edits e.children ++ atRoot (callSite? (e.editedInside edits)).toList := by
  rw [visits, mapIdx_attach _ fun i c => visits (edits.below i) c]
  rfl

theorem visits_query (edits : Edits) (q : Query) :
    visits edits (.query q) = atRoot (q.ctes.filterMap cteSite?) ++ nodeVisits edits q.children := by
  rw [visits, mapIdx_attach _ fun i c => visits (edits.below i) c]
  rfl

/-! ## Handing sites over -/

/-- A site that was handed over at a place, with the expression that shall stand there. -/
abbrev Event := Place × Site × Option Expr

/-- Sites that are handed over in turn, from one state to another, with the answers. -/
inductive Handed {σ : Type} (h : Site → σ → Option Expr × σ) : σ → List (Site × Option Expr) → σ → Prop
  | nil {s : σ} : Handed h s [] s
  | cons {s s' : σ} {site : Site} {rest : List (Site × Option Expr)} (hrest : Handed h (h site s).2 rest s') :
    Handed h s ((site, (h site s).1) :: rest) s'

theorem Handed.append {σ : Type} {h : Site → σ → Option Expr × σ} {s s' s'' : σ} {xs ys : List (Site × Option Expr)}
    (hxs : Handed h s xs s') (hys : Handed h s' ys s'') : Handed h s (xs ++ ys) s'' := by
  induction hxs with
  | nil => exact hys
  | cons _ ih => exact .cons (ih hys)

/-- What an answer puts in the place of a site. -/
def Site.put : Site → Option Expr → Option Expr
  | .call _ _, answer => answer
  | _, _ => none

/-- The edits that answers make. -/
def editsOf (events : List Event) : Edits := fun place =>
  events.findSome? fun ev => if ev.1 = place then ev.2.1.put ev.2.2 else none

/-- The places and the sites of events. -/
def Event.visit (ev : Event) : Place × Site := (ev.1, ev.2.1)

theorem editsOf_append (xs ys : List Event) (place : Place) :
    editsOf (xs ++ ys) place = (editsOf xs place).or (editsOf ys place) := List.findSome?_append

theorem editsOf_eq_none {events : List Event} {place : Place} (h : ∀ ev ∈ events, ev.1 ≠ place) :
    editsOf events place = none := by
  refine List.findSome?_eq_none_iff.2 fun ev hev => ?_
  rw [if_neg (h ev hev)]

/-- The events below the node of a number make the edits there. -/
theorem editsOf_placed (events : List (List Event)) (i : Nat) :
    (editsOf (placed 0 events)).below i = editsOf ((events[i]?).getD []) := by
  have hplaced : ∀ (k : Nat) (p : Place), editsOf (placed k events) ((k + i) :: p) = editsOf ((events[i]?).getD []) p := by
    induction events generalizing i with
    | nil => exact fun _ _ => rfl
    | cons xs xss ih =>
      intro k p
      have hfirst : editsOf (xs.map fun x => (k :: x.1, x.2)) ((k + i) :: p) = if i = 0 then editsOf xs p else none := by
        by_cases hi : i = 0 <;> simp [editsOf, List.findSome?_map, Function.comp_def, hi]
      rw [placed, editsOf_append, hfirst]
      cases i with
      | zero =>
        have hrest : editsOf (placed (k + 1) xss) ((k + 0) :: p) = none := by
          refine editsOf_eq_none fun ev hev => ?_
          obtain ⟨j, ys, y, -, -, rfl⟩ := exists_of_mem_placed hev
          simp
          omega
        rw [hrest]
        simp
      | succ i =>
        have hrest := ih i (k + 1) p
        rw [Nat.add_right_comm, Nat.add_assoc] at hrest
        simp [hrest]
  funext p
  have := hplaced 0 p
  rwa [Nat.zero_add] at this

theorem editsOf_placed_nil (k : Nat) (events : List (List Event)) : editsOf (placed k events) [] = none := by
  refine editsOf_eq_none fun ev hev => ?_
  obtain ⟨i, ys, y, -, -, rfl⟩ := exists_of_mem_placed hev
  simp

theorem run_bind {σ α β : Type} {x : StateM σ α} {s s' : σ} {a : α} (h : x s = (a, s')) (f : α → StateM σ β) :
    (x >>= f) s = f a s' := by
  show f (x s).1 (x s).2 = f a s'
  rw [h]

/-- A walk of some syntax hands over the sites that it comes to, and makes the edits that the answers ask for. -/
def Walked {σ α : Type} (h : Site → σ → Option Expr × σ) (walk : α → StateM σ α)
    (visited : Edits → α → List (Place × Site)) (edited : Edits → α → α) (x : α) : Prop :=
  ∀ s, ∃ (events : List Event) (s' : σ), Handed h s (events.map Prod.snd) s' ∧
    events.map Event.visit = visited (editsOf events) x ∧ walk x s = (edited (editsOf events) x, s')

section

variable {σ α : Type} {h : Site → σ → Option Expr × σ} {walk : α → StateM σ α} (walks : List α → StateM σ (List α))
  {visited : Edits → α → List (Place × Site)} {edited : Edits → α → α}

/-- One after the other, each with its own events. -/
theorem walked_each (hnil : walks [] = pure [])
    (hcons : ∀ x xs, walks (x :: xs) = walk x >>= fun x => walks xs >>= fun xs => pure (x :: xs)) {xs : List α}
    (hxs : ∀ x ∈ xs, Walked h walk visited edited x) (s : σ) :
    ∃ (each : List (α × List Event)) (s' : σ), each.map Prod.fst = xs ∧
      (∀ x ∈ each, x.2.map Event.visit = visited (editsOf x.2) x.1) ∧
      Handed h s (each.flatMap fun x => x.2.map Prod.snd) s' ∧
      walks xs s = (each.map fun x => edited (editsOf x.2) x.1, s') := by
  induction xs generalizing s with
  | nil => exact ⟨[], s, rfl, by simp, .nil, by rw [hnil]; rfl⟩
  | cons x xs ih =>
    obtain ⟨events, s₁, hhanded, hvisits, hwalk⟩ := hxs x List.mem_cons_self s
    obtain ⟨each, s₂, rfl, heach, hrest, hwalks⟩ := ih (fun x hx => hxs x (List.mem_cons_of_mem _ hx)) s₁
    refine ⟨(x, events) :: each, s₂, rfl, ?_, hhanded.append hrest, ?_⟩
    · intro y hy
      rcases List.mem_cons.1 hy with rfl | hy
      · exact hvisits
      · exact heach y hy
    · rw [List.map_cons, hcons, run_bind hwalk, run_bind hwalks]
      rfl

/-- What is walked one after the other is walked with the number of each in front of its places. -/
theorem walked_placed (hnil : walks [] = pure [])
    (hcons : ∀ x xs, walks (x :: xs) = walk x >>= fun x => walks xs >>= fun xs => pure (x :: xs)) (xs : List α)
    (hxs : ∀ x ∈ xs, Walked h walk visited edited x) (s : σ) :
    ∃ (events : List (List Event)) (s' : σ), Handed h s ((placed 0 events).map Prod.snd) s' ∧
      (placed 0 events).map Event.visit =
        placed 0 (xs.mapIdx fun i x => visited ((editsOf (placed 0 events)).below i) x) ∧
      walks xs s = (xs.mapIdx fun i x => edited ((editsOf (placed 0 events)).below i) x, s') := by
  obtain ⟨each, s', rfl, heach, hhanded, hwalk⟩ := walked_each walks hnil hcons hxs s
  have hbelow : ∀ (i : Nat) x, each[i]? = some x →
      (editsOf (placed 0 (each.map Prod.snd))).below i = editsOf x.2 := by
    intro i x hi
    rw [editsOf_placed, List.getElem?_map, hi]
    rfl
  refine ⟨each.map Prod.snd, s', ?_, ?_, ?_⟩
  · simpa [map_snd_placed, List.flatMap_def, Function.comp_def] using hhanded
  · rw [map_placed Event.visit (fun _ _ => rfl)]
    refine congrArg (placed 0) (List.ext_getElem? fun i => ?_)
    simp only [List.getElem?_mapIdx, List.getElem?_map, Option.map_map]
    rcases hi : each[i]? with _ | x
    · rfl
    · simp [hbelow i x hi, heach x (List.mem_of_getElem? hi)]
  · rw [hwalk]
    refine Prod.ext (List.ext_getElem? fun i => ?_) rfl
    simp only [List.getElem?_mapIdx, List.getElem?_map, Option.map_map]
    rcases hi : each[i]? with _ | x
    · rfl
    · simp [hbelow i x hi]

end

section

variable {σ : Type} (h : Site → σ → Option Expr × σ)

/-- Edits that differ at the place of the node alone leave the nodes below it alike. -/
theorem editedNodes_congr {edits edits' : Edits} (h : ∀ i p, edits (i :: p) = edits' (i :: p)) (ns : List Node) :
    editedNodes edits ns = editedNodes edits' ns ∧ nodeVisits edits ns = nodeVisits edits' ns := by
  have hbelow : ∀ i, edits.below i = edits'.below i := fun i => funext (h i)
  simp only [editedNodes, nodeVisits, hbelow, and_self]

/-- An expression whose parts have been walked is handed over if it is a site. -/
theorem handling_expr (e : Expr) (s : σ) :
    ∃ (events : List Event) (s' : σ), Handed h s (events.map Prod.snd) s' ∧
      events.map Event.visit = atRoot (callSite? e).toList ∧ (∀ ev ∈ events, ev.1 = []) ∧
      (handling h).expr e s = ((editsOf events []).getD e, s') := by
  unfold Visitor.expr callSite?
  rcases callOf e with _ | error | invocation
  · exact ⟨[], s, .nil, rfl, by simp, rfl⟩
  · exact ⟨[([], .malformed error, (h (.malformed error) s).1)], _, .cons .nil, rfl, by simp, rfl⟩
  · refine ⟨[([], .call invocation e, (h (.call invocation e) s).1)], _, .cons .nil, rfl, by simp, ?_⟩
    simp [editsOf, Site.put, handling]

/-- The placeholders of a query are handed over in turn. -/
theorem handling_ctes (ctes : List Cte) (s : σ) :
    ∃ (events : List Event) (s' : σ), Handed h s (events.map Prod.snd) s' ∧
      events.map Event.visit = atRoot (ctes.filterMap cteSite?) ∧ (∀ ev ∈ events, ev.1 = []) ∧
      (handling h).ctes ctes s = ((), s') := by
  induction ctes generalizing s with
  | nil => exact ⟨[], s, .nil, rfl, by simp, rfl⟩
  | cons cte ctes ih =>
    rcases hsite : placeholderOf cte with _ | error | placeholder
    · obtain ⟨events, s', hhanded, hvisits, hplace, hrun⟩ := ih s
      refine ⟨events, s', hhanded, ?_, hplace, ?_⟩
      · simpa [cteSite?, hsite] using hvisits
      · rw [Visitor.ctes, hsite]
        exact hrun
    · obtain ⟨events, s', hhanded, hvisits, hplace, hrun⟩ := ih (h (.malformed error) s).2
      refine ⟨([], .malformed error, (h (.malformed error) s).1) :: events, s', .cons hhanded, ?_, by simpa using hplace,
        ?_⟩
      · simpa [cteSite?, hsite, atRoot, Event.visit] using hvisits
      · rw [Visitor.ctes, hsite]
        exact hrun
    · obtain ⟨events, s', hhanded, hvisits, hplace, hrun⟩ := ih (h (.cte placeholder) s).2
      refine ⟨([], .cte placeholder, (h (.cte placeholder) s).1) :: events, s', .cons hhanded, ?_, by simpa using hplace,
        ?_⟩
      · simpa [cteSite?, hsite, atRoot, Event.visit] using hvisits
      · rw [Visitor.ctes, hsite]
        exact hrun

theorem walkNode_handling (n : Node) :
    Walked h (walkNode (handling h)) visits Node.edited n := by
  induction n using node_induction with
  | h n ih =>
    intro s
    cases n with
    | expr e =>
      obtain ⟨inside, s₁, hinside, hvisits, hwalk⟩ := 
        walked_placed (walkNodes (handling h)) rfl (fun _ _ => rfl) e.children ih s
      obtain ⟨own, s₂, hown, hsites, hroot, hexpr⟩ := handling_expr h (e.editedInside (editsOf (placed 0 inside))) s₁
      have hbelow : ∀ i p, editsOf (placed 0 inside ++ own) (i :: p) = editsOf (placed 0 inside) (i :: p) := by
        intro i p
        have hnone : editsOf own (i :: p) = none := editsOf_eq_none fun ev hev => by simp [hroot ev hev]
        rw [editsOf_append, hnone, Option.or_none]
      obtain ⟨hedited, hnodes⟩ := editedNodes_congr hbelow e.children
      refine ⟨placed 0 inside ++ own, s₂, ?_, ?_, ?_⟩
      · rw [List.map_append]
        exact hinside.append hown
      · rw [visits_expr, List.map_append, hvisits, hsites, hnodes, Expr.editedInside, Expr.editedInside, hedited]
        rfl
      · have hput : editsOf (placed 0 inside ++ own) [] = editsOf own [] := by
          rw [editsOf_append, editsOf_placed_nil, Option.none_or]
        rw [walkNode_expr, run_bind hwalk, edited_expr, hput, Expr.editedInside, hedited]
        exact congrArg (fun x => (Node.expr x.1, x.2)) hexpr
    | query q =>
      obtain ⟨own, s₁, hown, hsites, hroot, hctes⟩ := handling_ctes h q.ctes s
      obtain ⟨inside, s₂, hinside, hvisits, hwalk⟩ := 
        walked_placed (walkNodes (handling h)) rfl (fun _ _ => rfl) q.children ih s₁
      have hbelow : ∀ i p, editsOf (own ++ placed 0 inside) (i :: p) = editsOf (placed 0 inside) (i :: p) := by
        intro i p
        have hnone : editsOf own (i :: p) = none := editsOf_eq_none fun ev hev => by simp [hroot ev hev]
        rw [editsOf_append, hnone, Option.none_or]
      obtain ⟨hedited, hnodes⟩ := editedNodes_congr hbelow q.children
      refine ⟨own ++ placed 0 inside, s₂, ?_, ?_, ?_⟩
      · rw [List.map_append]
        exact hown.append hinside
      · rw [visits_query, List.map_append, hvisits, hsites, hnodes]
        rfl
      · rw [walkNode_query, run_bind hctes, run_bind hwalk, edited_query, hedited]
        rfl

theorem walkStatement_handling (st : Statement) :
    Walked h (walkStatement (handling h)) (fun edits st => nodeVisits edits st.nodes) Statement.edited st := by
  intro s
  obtain ⟨events, s', hhanded, hvisits, hwalk⟩ := walked_placed (walkNodes (handling h)) rfl (fun _ _ => rfl)
    st.nodes (fun n _ => walkNode_handling h n) s
  refine ⟨placed 0 events, s', hhanded, hvisits, ?_⟩
  rw [walkStatement_eq, run_bind hwalk]
  rfl

/-- A walk of statements hands over the sites that it comes to, and makes the edits that the answers ask for. -/
theorem walkStatements_handling (statements : List Statement) :
    Walked h (walkStatements (handling h)) statementVisits editedStatements statements := by
  intro s
  obtain ⟨events, s', hhanded, hvisits, hwalk⟩ := walked_placed (walkStatements (handling h)) rfl
    (fun _ _ => rfl) statements (fun st _ => walkStatement_handling h st) s
  exact ⟨placed 0 events, s', hhanded, hvisits, hwalk⟩

end

/-! ## What a walk delivers -/

/-- The sites among these at a place. -/
def sitesAt (place : Place) (delivered : List (Place × Site)) : List Site :=
  (delivered.filter fun v => v.1 = place).map Prod.snd

/-- The sites of statements with their places are those of their nodes, in the order of a walk. The first number of a
place is that of a statement. -/
structure Delivered (statements : List Statement) (delivered : List (Place × Site)) : Prop where
  /-- At each place stand the sites of its node, each once and in their order. -/
  at_place : ∀ place, sitesAt place delivered = ((nodeAt? statements place).map nodeSites).getD []
  /-- Nothing inside an expression comes after it. -/
  inner_first : delivered.Pairwise fun v w => ∀ e, nodeAt? statements v.1 = some (.expr e) → ¬ w.1.Inside v.1
  /-- Nothing inside a query comes before its placeholders. -/
  placeholders_first : delivered.Pairwise fun v w => ∀ q, nodeAt? statements w.1 = some (.query q) → ¬ v.1.Inside w.1
  /-- Nothing in a later statement comes before something in an earlier one. -/
  statements_in_order : delivered.Pairwise fun v w => v.1.headD 0 ≤ w.1.headD 0

theorem visits_noEdits (n : Node) :
    visits noEdits n = match n with
      | .expr _ => nodeVisits noEdits n.children ++ atRoot (nodeSites n)
      | .query _ => atRoot (nodeSites n) ++ nodeVisits noEdits n.children := by
  cases n with
  | expr e => rw [visits_expr, editedInside_noEdits]; rfl
  | query q => rw [visits_query]; rfl

theorem sitesAt_append (place : Place) (xs ys : List (Place × Site)) :
    sitesAt place (xs ++ ys) = sitesAt place xs ++ sitesAt place ys := by
  simp [sitesAt]

theorem sitesAt_nodeVisits {ns : List Node}
    (hns : ∀ n ∈ ns, ∀ p, sitesAt p (visits noEdits n) = ((n.at? p).map nodeSites).getD []) (i : Nat) (p : Place) :
    sitesAt (i :: p) (nodeVisits noEdits ns) = ((ns[i]?.bind (·.at? p)).map nodeSites).getD [] := by
  have h := filter_placed 0 i p (ns.mapIdx fun _ => visits noEdits)
  rw [Nat.zero_add] at h
  refine h.trans ?_
  rw [List.getElem?_mapIdx]
  rcases hn : ns[i]? with _ | n
  · rfl
  · exact hns n (List.mem_of_getElem? hn) p

/-- At each place below a node stand the sites of the node there. -/
theorem sitesAt_visits (n : Node) (place : Place) :
    sitesAt place (visits noEdits n) = ((n.at? place).map nodeSites).getD [] := by
  induction n using node_induction generalizing place with
  | h n ih =>
    have hbelow : sitesAt place (nodeVisits noEdits n.children) =
        if place = [] then [] else ((n.at? place).map nodeSites).getD [] := by
      cases place with
      | nil => simp [sitesAt, nodeVisits, filter_placed_nil]
      | cons i p => exact sitesAt_nodeVisits (fun c hc p => ih c hc p) i p
    have hhere : sitesAt place (atRoot (nodeSites n)) =
        if place = [] then ((n.at? place).map nodeSites).getD [] else [] := by
      cases place <;> simp [sitesAt, atRoot, List.filter_map, Function.comp_def, Node.at?]
    rw [visits_noEdits]
    cases n <;> simp only [sitesAt_append, hbelow, hhere] <;> split <;> simp

/-- At each place in statements stand the sites of the node there. -/
theorem sitesAt_statementVisits (statements : List Statement) (place : Place) :
    sitesAt place (statementVisits noEdits statements) = ((nodeAt? statements place).map nodeSites).getD [] := by
  cases place with
  | nil => simp [sitesAt, statementVisits, filter_placed_nil, nodeAt?]
  | cons i p =>
    have h := filter_placed 0 i p (statements.mapIdx fun _ s => nodeVisits noEdits s.nodes)
    rw [Nat.zero_add] at h
    refine h.trans ?_
    rw [List.getElem?_mapIdx]
    cases p with
    | nil => rcases statements[i]? with _ | s <;> simp [nodeVisits, filter_placed_nil, nodeAt?]
    | cons j p =>
      rw [nodeAt?]
      rcases statements[i]? with _ | s
      · rfl
      · exact sitesAt_nodeVisits (fun n _ => sitesAt_visits n) j p

/-- Whether one place may come before another one: it holds no expression around the other one, nor does it lie in a
query at the other one. -/
def MayPrecede (at? : Place → Option Node) (p q : Place) : Prop :=
  (∀ e, at? p = some (.expr e) → ¬ q.Inside p) ∧ ∀ query, at? q = some (.query query) → ¬ p.Inside q

theorem MayPrecede.of_lt {at? : Place → Option Node} {i j : Nat} (h : i < j) (p q : Place) :
    MayPrecede at? (i :: p) (j :: q) := by
  refine ⟨fun e _ => ?_, fun query _ => ?_⟩ <;> rw [Place.inside_cons] <;> omega

theorem MayPrecede.below {at? below : Place → Option Node} {i : Nat} (h : ∀ p, at? (i :: p) = below p) {p q : Place}
    (hpq : MayPrecede below p q) : MayPrecede at? (i :: p) (i :: q) := by
  simpa [MayPrecede, h] using hpq

theorem pairwise_visits (n : Node) : (visits noEdits n).Pairwise fun v w => MayPrecede n.at? v.1 w.1 := by
  induction n using node_induction with
  | h n ih =>
    have hbelow : (nodeVisits noEdits n.children).Pairwise fun v w => MayPrecede n.at? v.1 w.1 := by
      refine pairwise_placed (fun i xs hi => ?_) fun i j p q h => .of_lt h p q
      rw [List.getElem?_mapIdx] at hi
      obtain ⟨c, hc, rfl⟩ := Option.map_eq_some_iff.1 hi
      rw [Nat.zero_add]
      refine (ih c (List.mem_of_getElem? hc)).imp fun h => h.below fun p => ?_
      rw [Node.at?, hc]
      rfl
    have hhere : (atRoot (nodeSites n)).Pairwise fun v w => MayPrecede n.at? v.1 w.1 := by
      refine List.pairwise_map.2 (List.pairwise_of_forall fun _ _ => ?_)
      simp [MayPrecede]
    rw [visits_noEdits]
    cases n with
    | expr e =>
      refine List.pairwise_append.2 ⟨hbelow, hhere, fun v hv w hw => ?_⟩
      obtain ⟨site, -, rfl⟩ := List.mem_map.1 hw
      simp [MayPrecede, Node.at?]
    | query q =>
      refine List.pairwise_append.2 ⟨hhere, hbelow, fun v hv w hw => ?_⟩
      obtain ⟨site, -, rfl⟩ := List.mem_map.1 hv
      simp [MayPrecede, Node.at?]

theorem pairwise_statementVisits (statements : List Statement) :
    (statementVisits noEdits statements).Pairwise fun v w => MayPrecede (nodeAt? statements) v.1 w.1 := by
  refine pairwise_placed (fun i xs hi => ?_) fun i j p q h => .of_lt h p q
  rw [List.getElem?_mapIdx] at hi
  obtain ⟨s, hs, rfl⟩ := Option.map_eq_some_iff.1 hi
  rw [Nat.zero_add]
  have hs : (nodeVisits noEdits s.nodes).Pairwise fun v w => MayPrecede (fun p => nodeAt? statements (i :: p)) v.1 w.1 := by
    refine pairwise_placed (fun j ys hj => ?_) fun i j p q h => .of_lt h p q
    rw [List.getElem?_mapIdx] at hj
    obtain ⟨n, hn, rfl⟩ := Option.map_eq_some_iff.1 hj
    rw [Nat.zero_add]
    refine (pairwise_visits n).imp fun h => h.below fun p => ?_
    simp [nodeAt?, hs, hn]
  exact hs.imp fun h => h.below fun p => rfl

/-! ## The sites that are noted -/

/-- Notes a site and asks for nothing. -/
def note (site : Site) (log : List Site) : Option Expr × List Site := (none, site :: log)

theorem Handed.of_note {log log' : List Site} {seen : List (Site × Option Expr)} (h : Handed note log seen log') :
    (∀ x ∈ seen, x.2 = none) ∧ log' = (seen.map Prod.fst).reverse ++ log := by
  induction h with
  | nil => exact ⟨by simp, rfl⟩
  | cons _ ih =>
    refine ⟨fun x hx => ?_, by simp [ih.2, note]⟩
    rcases List.mem_cons.1 hx with rfl | hx
    · rfl
    · exact ih.1 x hx

theorem editsOf_eq_noEdits {events : List Event} (h : ∀ ev ∈ events, ev.2.1.put ev.2.2 = none) :
    editsOf events = noEdits := by
  funext place
  refine List.findSome?_eq_none_iff.2 fun ev hev => ?_
  rw [h ev hev, ite_self]

theorem Site.put_none (site : Site) : site.put none = none := by
  cases site <;> rfl

/-- The sites of statements are those that a walk without edits comes to. -/
theorem sites_eq_visits (statements : List Statement) :
    sites statements = (statementVisits noEdits statements).map Prod.snd := by
  obtain ⟨events, log, hhanded, hvisits, hwalk⟩ := walkStatements_handling note statements []
  obtain ⟨hnone, rfl⟩ := hhanded.of_note
  have hedits : editsOf events = noEdits := by
    refine editsOf_eq_noEdits fun ev hev => ?_
    rw [hnone ev.2 (List.mem_map_of_mem hev), Site.put_none]
  have hsites : sites statements = ((walkStatements (handling note) statements) []).2.reverse := rfl
  rw [hsites, hwalk, ← hedits, ← hvisits]
  simp [Event.visit, Function.comp_def]

/-- The sites at a node and below it, in the order of a walk. -/
def sitesWithin (n : Node) : List Site := (visits noEdits n).map Prod.snd

theorem map_snd_nodeVisits (ns : List Node) : (nodeVisits noEdits ns).map Prod.snd = ns.flatMap sitesWithin := by
  rw [nodeVisits, map_snd_placed, List.flatMap_def]
  refine congrArg List.flatten (List.ext_getElem? fun i => ?_)
  simp only [List.getElem?_map, List.getElem?_mapIdx, Option.map_map]
  rfl

theorem sitesWithin_expr (e : Expr) :
    sitesWithin (.expr e) = e.children.flatMap sitesWithin ++ (callSite? e).toList := by
  rw [sitesWithin, visits_expr, List.map_append, map_snd_nodeVisits, editedInside_noEdits]
  cases callSite? e <;> rfl

theorem sitesWithin_query (q : Query) :
    sitesWithin (.query q) = q.ctes.filterMap cteSite? ++ q.children.flatMap sitesWithin := by
  rw [sitesWithin, visits_query, List.map_append, map_snd_nodeVisits, atRoot, List.map_map]
  exact congrArg (· ++ _) (List.map_id _)

/-- The sites of statements are those within their outermost nodes. -/
theorem sites_eq_flatMap (statements : List Statement) :
    sites statements = statements.flatMap fun s => s.nodes.flatMap sitesWithin := by
  rw [sites_eq_visits, statementVisits, map_snd_placed, List.flatMap_def]
  refine congrArg List.flatten (List.ext_getElem? fun i => ?_)
  simp only [List.getElem?_map, List.getElem?_mapIdx, Option.map_map]
  refine congrArg (Option.map · statements[i]?) (funext fun s => ?_)
  exact map_snd_nodeVisits s.nodes

theorem delivered_statementVisits (statements : List Statement) :
    Delivered statements (statementVisits noEdits statements) := by
  have hpairs := pairwise_statementVisits statements
  refine ⟨sitesAt_statementVisits statements, hpairs.imp And.left, hpairs.imp And.right, ?_⟩
  refine pairwise_placed (R := fun p q => p.headD 0 ≤ q.headD 0) (fun i xs _ => ?_) fun i j p q h => Nat.le_of_lt h
  exact List.pairwise_of_forall fun _ _ => Nat.le_refl _

/-- **A walk is complete and comes to each site once**: it delivers at each place the sites of the node that stands
there, the sites inside an expression before its own, the placeholders of a query before every site inside it, and the
statements in order. -/
theorem sites_delivered (statements : List Statement) :
    ∃ delivered, Delivered statements delivered ∧ sites statements = delivered.map Prod.snd :=
  ⟨statementVisits noEdits statements, delivered_statementVisits statements, sites_eq_visits statements⟩

end Macro

end SqlTemplate
