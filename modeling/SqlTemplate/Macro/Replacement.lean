import SqlTemplate.Macro.Walk

/-!
# Replacing calls

A walk hands the sites of statements to a callback, which may put an expression in the place of a call and may end the
walk. What comes after the last site that was handed over stays as it is, and so does a named query.

* `Macro.edit` walks statements with a callback.
* `Macro.replaceCalls` puts one expression in the place of calls, up to some number of sites.
-/

namespace SqlTemplate.Macro

open Sql

/-- The visitor that hands every site to a function with a state, and puts the expressions that it answers in the place
of calls. -/
def handling {σ : Type} (h : Site → σ → Option Expr × σ) : Visitor (StateM σ) where
  call invocation e := fun s =>
    let (replacement, s) := h (.call invocation e) s
    (replacement.getD e, s)
  cte placeholder := fun s => ((), (h (.cte placeholder) s).2)
  malformed error := fun s => ((), (h (.malformed error) s).2)

/-- What a callback makes of a site. -/
structure Answer (β : Type) where
  /-- The expression that shall stand in the place of a call. -/
  replacement : Option Expr
  /-- The value with which the walk ends here. -/
  stop : Option β

/-- A callback with a state. -/
abbrev Callback (σ β : Type) := Site → σ → Answer β × σ

/-- How far a walk with a callback has come. -/
structure Editing (σ β : Type) where
  state : σ
  /-- The sites that were handed over, the last one first. -/
  seen : List Site
  stopped : Option β

section

variable {σ β : Type} (f : Callback σ β)

/-- Hands a site to the callback, unless the walk has ended. -/
def Editing.hand (site : Site) (p : Editing σ β) : Option Expr × Editing σ β :=
  match p.stopped with
  | some _ => (none, p)
  | none =>
    let (answer, state) := f site p.state
    (answer.replacement, ⟨state, site :: p.seen, answer.stop⟩)

/-- What a walk with a callback leaves behind. -/
structure Edited (σ β : Type) where
  statements : List Statement
  /-- The sites that were handed over. -/
  seen : List Site
  state : σ
  stopped : Option β

/-- Walks statements with a callback. -/
def edit (state : σ) (statements : List Statement) : Edited σ β :=
  let (statements, p) := (walkStatements (handling (Editing.hand f)) statements).run ⟨state, [], none⟩
  ⟨statements, p.seen.reverse, p.state, p.stopped⟩

end

/-- The callback that puts an expression in the place of the calls of a name, or of all calls. Its state is the number
of sites that it may still see. -/
def replacing (name : Option String) (replacement : Expr) : Callback (Option Nat) Unit := fun site left =>
  let wanted := match site with
    | .call invocation _ => name.all (· == invocation.name)
    | _ => false
  let left := left.map (· - 1)
  (⟨if wanted then some replacement else none, if left = some 0 then some () else none⟩, left)

/-- Replaces the calls of a name, or all calls, up to the `limit`-th site. No site comes before the first one, so a walk
to the site of number 0 goes on to the end. -/
def replaceCalls (name : Option String) (replacement : Expr) (limit : Option Nat)
    (statements : List Statement) : Edited (Option Nat) Unit :=
  edit (replacing name replacement) (limit.filter (0 < ·)) statements

/-- The sites of statements up to the `limit`-th, and whether the walk stopped there. -/
def sitesUpTo (limit : Option Nat) (statements : List Statement) : List Site × Bool :=
  let all := sites statements
  match limit.filter (0 < ·) with
  | none => (all, false)
  | some n => (all.take n, n ≤ all.length)

end SqlTemplate.Macro
