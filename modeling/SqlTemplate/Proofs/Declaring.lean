import Mathlib.Data.String.Basic
import SqlTemplate.Interpolation

/-!
# Which declarations are kept

The placeholders of statements are declared in the order of a walk. If one of them cannot stand, the first such one is
the error; otherwise every one counts: the last declaration of a name is kept under it, and each declaration whose name
had come before is noted as a repetition.

* `placeholderSites`: the placeholders of statements, with those that cannot stand.
* `Keeps`: what is kept of placeholders; `Keeps.add` adds one more.
* `extraction_accounts`: what is extracted from statements.
-/

namespace SqlTemplate

namespace Macro

open Sql

/-- The placeholder that a site is about, or why it cannot stand. -/
def Site.placeholder? : Site → Option (Except ShapeError Placeholder)
  | .call _ _ => none
  | .cte placeholder => some (.ok placeholder)
  | .malformed error => if error.target = .cte then some (.error error) else none

/-- The placeholders of statements in the order of a walk, with those that cannot stand. -/
def placeholderSites (statements : List Statement) : List (Except ShapeError Placeholder) :=
  (sites statements).filterMap Site.placeholder?

/-- The names that came before, each as often as it was repeated. -/
def repetitions (names : List String) : List String :=
  (names.zipIdx.filter fun n => n.1 ∈ names.take n.2).map Prod.fst

theorem repetitions_concat (names : List String) (name : String) :
    repetitions (names ++ [name]) = repetitions names ++ if name ∈ names then [name] else [] := by
  have hbefore : names.zipIdx.filter (fun n => n.1 ∈ (names ++ [name]).take n.2) =
      names.zipIdx.filter fun n => n.1 ∈ names.take n.2 := by
    refine List.filter_congr fun n hn => ?_
    have hlt : n.2 < names.length := by simpa using (List.mem_zipIdx hn).2.1
    rw [List.take_append_of_le_length (Nat.le_of_lt hlt)]
  rw [repetitions, List.zipIdx_append, List.filter_append, hbefore, List.map_append, repetitions]
  by_cases hname : name ∈ names <;> simp [hname]

/-! ## Putting a declaration in its place -/

namespace Extraction

variable {d e : Declaration} {ds : List Declaration}

/-- The names of declarations are in order, each once. -/
def Ordered (ds : List Declaration) : Prop := ds.Pairwise fun d e => d.name < e.name

theorem mem_insertDeclaration (h : Ordered ds) :
    e ∈ insertDeclaration d ds ↔ e = d ∨ e ∈ ds ∧ e.name ≠ d.name := by
  induction ds with
  | nil => simp [insertDeclaration]
  | cons f ds ih =>
    obtain ⟨hfirst, hrest⟩ := List.pairwise_cons.1 h
    rw [insertDeclaration]
    split
    · -- in front of all others
      rename_i hlt
      have hne : ∀ e ∈ f :: ds, e.name ≠ d.name := by
        intro e he
        rcases List.mem_cons.1 he with rfl | he
        · exact ne_of_gt hlt
        · exact ne_of_gt (lt_trans hlt (hfirst e he))
      rw [List.mem_cons]
      exact or_congr_right ⟨fun he => ⟨he, hne e he⟩, And.left⟩
    · split
      · -- in the place of the first one
        rename_i heq
        have hne : ∀ e ∈ ds, e.name ≠ d.name := fun e he => heq ▸ ne_of_gt (hfirst e he)
        rw [List.mem_cons, List.mem_cons]
        refine or_congr_right ⟨fun he => ⟨.inr he, hne e he⟩, ?_⟩
        rintro ⟨rfl | he, hname⟩
        · exact absurd heq.symm hname
        · exact he
      · rename_i hne
        rw [List.mem_cons, List.mem_cons, ih hrest]
        constructor
        · rintro (rfl | rfl | ⟨he, hname⟩)
          · exact .inr ⟨.inl rfl, Ne.symm hne⟩
          · exact .inl rfl
          · exact .inr ⟨.inr he, hname⟩
        · rintro (rfl | ⟨rfl | he, hname⟩)
          · exact .inr (.inl rfl)
          · exact .inl rfl
          · exact .inr (.inr ⟨he, hname⟩)

theorem Ordered.insert (h : Ordered ds) : Ordered (insertDeclaration d ds) := by
  induction ds with
  | nil => exact List.pairwise_singleton _ _
  | cons f ds ih =>
    obtain ⟨hfirst, hrest⟩ := List.pairwise_cons.1 h
    rw [insertDeclaration]
    split
    · rename_i hlt
      refine List.pairwise_cons.2 ⟨fun e he => ?_, h⟩
      rcases List.mem_cons.1 he with rfl | he
      · exact hlt
      · exact lt_trans hlt (hfirst e he)
    · split
      · rename_i heq
        exact List.pairwise_cons.2 ⟨fun e he => heq ▸ hfirst e he, hrest⟩
      · rename_i hlt hne
        refine List.pairwise_cons.2 ⟨fun e he => ?_, ih hrest⟩
        rcases (mem_insertDeclaration hrest).1 he with rfl | ⟨he, -⟩
        · exact lt_of_le_of_ne (not_lt.1 hlt) (Ne.symm hne)
        · exact hfirst e he

theorem length_insertDeclaration (h : Ordered ds) :
    (insertDeclaration d ds).length = ds.length + if d.name ∈ ds.map (·.name) then 0 else 1 := by
  induction ds with
  | nil => rfl
  | cons f ds ih =>
    obtain ⟨hfirst, hrest⟩ := List.pairwise_cons.1 h
    rw [insertDeclaration]
    split
    · rename_i hlt
      have hnew : d.name ∉ (f :: ds).map (·.name) := by
        rintro hmem
        obtain ⟨e, he, hname⟩ := List.mem_map.1 hmem
        rcases List.mem_cons.1 he with rfl | he
        · exact ne_of_gt hlt hname
        · exact ne_of_gt (lt_trans hlt (hfirst e he)) hname
      rw [if_neg hnew, List.length_cons]
    · split
      · rename_i heq
        rw [if_pos (List.mem_map.2 ⟨f, List.mem_cons_self, heq.symm⟩), List.length_cons, List.length_cons, Nat.add_zero]
      · rename_i hne
        rw [List.length_cons, List.length_cons, ih hrest, Nat.add_right_comm]
        simp [hne]

/-- In order, the declaration that is found under a name is the one that has it. -/
theorem get?_eq_some_iff {x : Extraction} (h : Ordered x.declarations) {name : String} :
    x.get? name = some d ↔ d ∈ x.declarations ∧ d.name = name := by
  constructor
  · intro hd
    rw [get?] at hd
    have hname := List.find?_some hd
    exact ⟨List.mem_of_find?_eq_some hd, eq_of_beq hname⟩
  · rintro ⟨hd, rfl⟩
    obtain ⟨before, after, hsplit⟩ := List.append_of_mem hd
    rw [Ordered, hsplit] at h
    rw [get?, hsplit, List.find?_append]
    have hbefore : before.find? (·.name == d.name) = none := by
      refine List.find?_eq_none.2 fun e he => ?_
      simpa using ne_of_lt ((List.pairwise_append.1 h).2.2 e he d List.mem_cons_self)
    simp [hbefore]

end Extraction

/-! ## What is kept -/

/-- What is kept of placeholders that are declared in turn. -/
structure Keeps (source : Option String) (placeholders : List Placeholder) (x : Extraction) : Prop where
  /-- There is a declaration of each name, and of no other one. -/
  names : ∀ name, (∃ d ∈ x.declarations, d.name = name) ↔ ∃ p ∈ placeholders, p.name = name
  /-- The declarations are those of the placeholders behind which their name does not come again. -/
  last : ∀ d, d ∈ x.declarations ↔ ∃ before p after, placeholders = before ++ p :: after ∧
    (∀ q ∈ after, q.name ≠ p.name) ∧ d = p.declaration source
  /-- Each is found under its name. -/
  found : ∀ name d, x.get? name = some d ↔ d ∈ x.declarations ∧ d.name = name
  /-- The names that came before are noted in turn. -/
  repeated : x.duplicates = repetitions (placeholders.map (·.name))
  /-- Every placeholder counts. -/
  counted : x.declarations.length + x.duplicates.length = placeholders.length
  /-- The declarations are ordered by their names. -/
  ordered : x.declarations.Pairwise fun d e => d.name < e.name

namespace Keeps

variable {source : Option String} {placeholders : List Placeholder} {x : Extraction}

theorem empty (source : Option String) : Keeps source [] .empty where
  names _ := by simp [Extraction.empty]
  last _ := by simp [Extraction.empty]
  found _ _ := by simp [Extraction.empty, Extraction.get?]
  repeated := rfl
  counted := rfl
  ordered := .nil

/-- One more placeholder behind others: its name is noted if it had come before. -/
theorem add (h : Keeps source placeholders x) (p : Placeholder) :
    Keeps source (placeholders ++ [p]) (x.add (p.declaration source)) := by
  have hmem : ∀ d, d ∈ (x.add (p.declaration source)).declarations ↔
      d = p.declaration source ∨ d ∈ x.declarations ∧ d.name ≠ p.name :=
    fun d => Extraction.mem_insertDeclaration h.ordered
  have hordered : Extraction.Ordered (x.add (p.declaration source)).declarations := Extraction.Ordered.insert h.ordered
  have hknown : p.name ∈ x.declarations.map (·.name) ↔ p.name ∈ placeholders.map (·.name) := by
    simpa [List.mem_map] using h.names p.name
  have hrepeated : (x.add (p.declaration source)).duplicates =
      x.duplicates ++ if p.name ∈ placeholders.map (·.name) then [p.name] else [] := by
    have hsome : (x.get? p.name).isSome ↔ p.name ∈ x.declarations.map (·.name) := by
      rw [Option.isSome_iff_exists, List.mem_map]
      exact exists_congr fun d => h.found p.name d
    show (if (x.get? p.name).isSome then x.duplicates ++ [p.name] else x.duplicates) = _
    simp only [hsome, hknown]
    split <;> simp
  refine ⟨fun name => ?_, fun d => ?_, fun name d => Extraction.get?_eq_some_iff hordered, ?_, ?_, hordered⟩
  · simp only [hmem, List.mem_append, List.mem_singleton]
    constructor
    · rintro ⟨d, rfl | ⟨hd, -⟩, rfl⟩
      · exact ⟨p, .inr rfl, rfl⟩
      · obtain ⟨q, hq, hname⟩ := (h.names d.name).1 ⟨d, hd, rfl⟩
        exact ⟨q, .inl hq, hname⟩
    · rintro ⟨q, hq, rfl⟩
      by_cases hname : q.name = p.name
      · exact ⟨_, .inl rfl, hname.symm⟩
      · obtain ⟨d, hd, hdname⟩ := (h.names q.name).2 ⟨q, hq.resolve_right fun heq => hname (heq ▸ rfl), rfl⟩
        exact ⟨d, .inr ⟨hd, hdname ▸ hname⟩, hdname⟩
  · rw [hmem]
    constructor
    · rintro (rfl | ⟨hd, hname⟩)
      · exact ⟨placeholders, p, [], rfl, by simp, rfl⟩
      · obtain ⟨before, q, after, rfl, hafter, rfl⟩ := (h.last d).1 hd
        refine ⟨before, q, after ++ [p], by simp, fun r hr => ?_, rfl⟩
        rcases List.mem_append.1 hr with hr | hr
        · exact hafter r hr
        · rw [List.mem_singleton.1 hr]
          exact Ne.symm hname
    · rintro ⟨before, q, after, hsplit, hafter, rfl⟩
      rcases List.eq_nil_or_concat after with rfl | ⟨after, r, rfl⟩
      · obtain ⟨-, hpq⟩ := List.append_inj' hsplit rfl
        exact .inl (by rw [List.singleton_inj.1 hpq])
      · have hsplit : placeholders ++ [p] = (before ++ q :: after) ++ [r] := by simpa using hsplit
        obtain ⟨rfl, hpr⟩ := List.append_inj' hsplit rfl
        obtain rfl := List.singleton_inj.1 hpr
        refine .inr ⟨(h.last _).2 ⟨before, q, after, rfl, fun r hr => hafter r (by simp [hr]), rfl⟩, ?_⟩
        exact Ne.symm (hafter p (by simp))
  · rw [hrepeated, h.repeated, List.map_append, List.map_singleton, repetitions_concat]
  · have hlength : (x.add (p.declaration source)).declarations.length =
        x.declarations.length + if p.name ∈ placeholders.map (·.name) then 0 else 1 := by
      have := Extraction.length_insertDeclaration (d := p.declaration source) h.ordered
      simp only [show (p.declaration source).name = p.name from rfl, hknown] at this
      exact this
    have hcounted := h.counted
    rw [hlength, hrepeated, List.length_append, List.length_append, List.length_singleton]
    split
    · rw [List.length_singleton]
      omega
    · rw [List.length_nil]
      omega

end Keeps

/-- What comes of collecting sites behind placeholders that have been collected. -/
theorem collect_keeps {source : Option String} {placeholders : List Placeholder} {x : Extraction}
    (h : Keeps source placeholders x) (found : List Site) :
    (∃ (before : List Placeholder) (e : ShapeError) (rest : List (Except ShapeError Placeholder)),
      found.filterMap Site.placeholder? = before.map .ok ++ .error e :: rest ∧ collect source x found = .error e) ∨
    ∃ (more : List Placeholder) (y : Extraction), found.filterMap Site.placeholder? = more.map .ok ∧
      collect source x found = .ok y ∧ Keeps source (placeholders ++ more) y := by
  induction found generalizing placeholders x with
  | nil => exact .inr ⟨[], x, rfl, rfl, by simpa using h⟩
  | cons site found ih =>
    cases site with
    | call invocation e => exact ih h
    | cte p =>
      have hfirst : (Site.cte p :: found).filterMap Site.placeholder? =
          .ok p :: found.filterMap Site.placeholder? := rfl
      rcases ih (h.add p) with ⟨before, e, rest, hsites, hcollect⟩ | ⟨more, y, hsites, hcollect, hkeeps⟩
      · exact .inl ⟨p :: before, e, rest, by rw [hfirst, hsites]; rfl, hcollect⟩
      · exact .inr ⟨p :: more, y, by rw [hfirst, hsites]; rfl, hcollect, by simpa using hkeeps⟩
    | malformed e =>
      by_cases htarget : e.target = .cte
      · refine .inl ⟨[], e, found.filterMap Site.placeholder?, ?_, ?_⟩
        · simp [Site.placeholder?, htarget]
        · rw [collect, if_pos htarget]
      · have hsites : (Site.malformed e :: found).filterMap Site.placeholder? = found.filterMap Site.placeholder? := by
          simp [Site.placeholder?, htarget]
        rw [hsites, collect, if_neg htarget]
        exact ih h

/-- A placeholder that cannot stand is reported as one. -/
theorem ofShape_of_placeholder {site : Site} {e : ShapeError} (h : site.placeholder? = some (.error e)) :
    Error.ofShape e = .badPlaceholder e.name e.message e.location := by
  cases site with
  | malformed error =>
    rw [Site.placeholder?] at h
    split at h
    · cases h
      simp [Error.ofShape, *]
    · cases h
  | _ => cases h

/-- What is extracted from statements is what is kept of their placeholders, all of which can stand. -/
theorem keeps_of_extract {source : Option String} {statements : List Statement} {x : Extraction}
    (h : extractPlaceholders source statements = .ok x) :
    ∃ placeholders : List Placeholder, placeholderSites statements = placeholders.map .ok ∧
      Keeps source placeholders x := by
  rw [extractPlaceholders, extract] at h
  rcases collect_keeps (.empty source) (sites statements) with
    ⟨_, _, _, _, hcollect⟩ | ⟨more, y, hsites, hcollect, hkeeps⟩
  · rw [hcollect] at h
    cases h
  · rw [hcollect] at h
    cases h
    exact ⟨more, hsites, hkeeps⟩

end Macro

open Sql Macro

/-- **What is extracted from statements.** The first placeholder that cannot stand is the error, whatever stands before
it and whichever macros are called. If there is none, the last declaration of each name is kept, and the others are
noted where they are replaced. -/
theorem extraction_accounts (source : Option String) (statements : List Statement) :
    (∃ (before : List Placeholder) (e : ShapeError) (rest : List (Except ShapeError Placeholder)),
      placeholderSites statements = before.map .ok ++ .error e :: rest ∧
        extractPlaceholders source statements = .error (.error (.badPlaceholder e.name e.message e.location))) ∨
    ∃ (placeholders : List Placeholder) (x : Extraction), placeholderSites statements = placeholders.map .ok ∧
      extractPlaceholders source statements = .ok x ∧ Keeps source placeholders x := by
  rcases collect_keeps (.empty source) (sites statements) with
    ⟨before, e, rest, hsites, hcollect⟩ | ⟨placeholders, x, hsites, hcollect, hkeeps⟩
  · refine .inl ⟨before, e, rest, hsites, ?_⟩
    have hmem : Except.error e ∈ placeholderSites statements := by
      rw [placeholderSites, hsites]
      simp
    obtain ⟨site, -, hsite⟩ := List.mem_filterMap.1 hmem
    rw [extractPlaceholders, extract, hcollect, ← ofShape_of_placeholder hsite]
    rfl
  · refine .inr ⟨placeholders, x, hsites, ?_, hkeeps⟩
    rw [extractPlaceholders, extract, hcollect]
    rfl

end SqlTemplate
