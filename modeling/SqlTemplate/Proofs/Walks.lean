import SqlTemplate.Proofs.Parts

/-!
# What a walk does

A walk goes through the parts of an expression and then visits the expression that was built of them. The visitor that
puts a fixed expression in the place of each call, in no monad at all, gives the result of every walk that comes to an
end: what else a walk does is told by the expressions that it visits on its way.

* `rewriteExpr`, `rewriteStatement`: the tree in which every call is replaced.
* `Trail`: what is known of computations by their result and the expressions that they walk.
* `walkStatement_trail`: a walk goes through the expressions of a statement and comes to the replaced tree.
-/

namespace SqlTemplate.Macro

open Sql

/-- The visitor that puts expressions in the place of calls. -/
def substituter (c : Invocation → Expr → Expr) : Visitor Id where
  call := c
  cte _ := ()
  malformed _ := ()

section

variable {m : Type → Type} [Monad m] (v : Visitor m)

/-- Walks the parts of an expression. -/
def walkInside : Expr → m Expr
  | .ident name => pure (.ident name)
  | .compound name => pure (.compound name)
  | .literal value => pure (.literal value)
  | .typedString type text => do
    let type ← walkPhrase v type
    pure (.typedString type text)
  | .nested inner => do
    let inner ← walkExpr v inner
    pure (.nested inner)
  | .unary op operand => do
    let operand ← walkExpr v operand
    pure (.unary op operand)
  | .binary left op right => do
    let left ← walkExpr v left
    let right ← walkExpr v right
    pure (.binary left op right)
  | .compare left op among right => do
    let left ← walkExpr v left
    let right ← walkExpr v right
    pure (.compare left op among right)
  | .is operand property => do
    let operand ← walkExpr v operand
    pure (.is operand property)
  | .isDistinct left right negated => do
    let left ← walkExpr v left
    let right ← walkExpr v right
    pure (.isDistinct left right negated)
  | .inList operand items negated => do
    let operand ← walkExpr v operand
    let items ← walkExprs v items
    pure (.inList operand items negated)
  | .inQuery operand query negated => do
    let operand ← walkExpr v operand
    let query ← walkQuery v query
    pure (.inQuery operand query negated)
  | .between operand low high negated => do
    let operand ← walkExpr v operand
    let low ← walkExpr v low
    let high ← walkExpr v high
    pure (.between operand low high negated)
  | .like kind operand pattern negated any escape => do
    let operand ← walkExpr v operand
    let pattern ← walkExpr v pattern
    pure (.like kind operand pattern negated any escape)
  | .case operand conditions results otherwise => do
    let operand ← walkOptExpr v operand
    let conditions ← walkExprs v conditions
    let results ← walkExprs v results
    let otherwise ← walkOptExpr v otherwise
    pure (.case operand conditions results otherwise)
  | .cast style operand type => do
    let operand ← walkExpr v operand
    let type ← walkPhrase v type
    pure (.cast style operand type)
  | .exists query negated => do
    let query ← walkQuery v query
    pure (.exists query negated)
  | .subquery query => do
    let query ← walkQuery v query
    pure (.subquery query)
  | .tuple items => do
    let items ← walkExprs v items
    pure (.tuple items)
  | .array items named => do
    let items ← walkExprs v items
    pure (.array items named)
  | .subscript operand index => do
    let operand ← walkExpr v operand
    let index ← walkExpr v index
    pure (.subscript operand index)
  | .element operand keys => do
    let operand ← walkExpr v operand
    let keys ← walkExprs v keys
    pure (.element operand keys)
  | .interval value qualifier => do
    let value ← walkExpr v value
    pure (.interval value qualifier)
  | .bareCall name => pure (.bareCall name)
  | .queryCall name query => do
    let query ← walkQuery v query
    pure (.queryCall name query)
  | .call name parameters args style window withinGroup => do
    let parameters ← walkOptArgList v parameters
    let args ← walkArgList v args
    let window ← walkOptPhrase v window
    let withinGroup ← walkOptPhrase v withinGroup
    pure (.call name parameters args style window withinGroup)
  | .phrase phrase => do
    let phrase ← walkPhrase v phrase
    pure (.phrase phrase)

theorem walkExpr_eq [LawfulMonad m] (e : Expr) : walkExpr v e = walkInside v e >>= v.expr := by
  cases e <;> simp only [walkInside, bind_assoc, pure_bind] <;> rfl

end

/-! ## Replacing calls in a tree -/

variable (c : Invocation → Expr → Expr)

/-- The expression in which every call is replaced, the inner ones first. -/
def rewriteExpr (e : Expr) : Expr := walkExpr (substituter c) e

/-- The expression in whose parts every call is replaced. -/
def rewriteInside (e : Expr) : Expr := walkInside (substituter c) e

def rewriteStatement (s : Statement) : Statement := walkStatement (substituter c) s

/-- What stands in the place of an expression whose parts are done. -/
def replaced (e : Expr) : Expr :=
  match callOf e with
  | some (.ok invocation) => c invocation e
  | _ => e

theorem substituter_expr (e : Expr) : (substituter c).expr e = replaced c e := by
  unfold Visitor.expr replaced
  split <;> simp_all [substituter] <;> rfl

theorem rewriteExpr_eq (e : Expr) : rewriteExpr c e = replaced c (rewriteInside c e) :=
  (walkExpr_eq (substituter c) e).trans (substituter_expr c _)

/-! ## Trails -/

/-- What is known of the computations of a walk by their result and the expressions that they walk: `holds x a es` says
so of a computation `x` that comes to `a` and walks the expressions `es`. -/
structure Trail {m : Type → Type} [Monad m] (v : Visitor m) (c : Invocation → Expr → Expr) where
  holds : {α : Type} → m α → α → List Expr → Prop
  pure : ∀ {α : Type} (a : α), holds (Pure.pure a) a []
  bind : ∀ {α β : Type} {x : m α} {f : α → m β} {a : α} {b : β} {es es' : List Expr},
    holds x a es → holds (f a) b es' → holds (x >>= f) b (es ++ es')
  ctes : ∀ cs, holds (v.ctes cs) () []
  expr : ∀ e : Expr, holds (walkInside v e) (rewriteInside c e) e.parts → holds (walkExpr v e) (rewriteExpr c e) [e]

namespace Trail

variable {m : Type → Type} [Monad m] {v : Visitor m} {c : Invocation → Expr → Expr} (t : Trail v c)

/-- A computation and a value that is made of its result. -/
theorem last {α β : Type} {x : m α} {a : α} {es : List Expr} (h : t.holds x a es) (f : α → β) :
    t.holds (do let a ← x; Pure.pure (f a)) (f a) es := by
  simpa using t.bind (f := fun a => Pure.pure (f a)) h (t.pure (f a))

/-- A computation that walks nothing, in front of another one. -/
theorem first {α β : Type} {x : m α} {f : α → m β} {a : α} {b : β} {es : List Expr} (h : t.holds x a [])
    (hf : t.holds (f a) b es) : t.holds (x >>= f) b es := t.bind h hf

mutual

/-- An expression is walked after its parts. -/
theorem walkExpr_trail : ∀ e : Expr, t.holds (walkExpr v e) (rewriteExpr c e) [e]
  | .ident _ => t.expr _ (t.pure _)
  | .compound _ => t.expr _ (t.pure _)
  | .literal _ => t.expr _ (t.pure _)
  | .typedString type _ => t.expr _ (t.last (walkPhrase_trail type) _)
  | .nested inner => t.expr _ (t.last (walkExpr_trail inner) _)
  | .unary _ operand => t.expr _ (t.last (walkExpr_trail operand) _)
  | .binary left _ right => t.expr _ (t.bind (walkExpr_trail left) (t.last (walkExpr_trail right) _))
  | .compare left _ _ right => t.expr _ (t.bind (walkExpr_trail left) (t.last (walkExpr_trail right) _))
  | .is operand _ => t.expr _ (t.last (walkExpr_trail operand) _)
  | .isDistinct left right _ => t.expr _ (t.bind (walkExpr_trail left) (t.last (walkExpr_trail right) _))
  | .inList operand items _ => t.expr _ (t.bind (walkExpr_trail operand) (t.last (walkExprs_trail items) _))
  | .inQuery operand query _ => t.expr _ (t.bind (walkExpr_trail operand) (t.last (walkQuery_trail query) _))
  | .between operand low high _ =>
    t.expr _ (t.bind (walkExpr_trail operand) (t.bind (walkExpr_trail low) (t.last (walkExpr_trail high) _)))
  | .like _ operand pattern _ _ _ => t.expr _ (t.bind (walkExpr_trail operand) (t.last (walkExpr_trail pattern) _))
  | .case operand conditions results otherwise =>
    t.expr _ (t.bind (walkOptExpr_trail operand) (t.bind (walkExprs_trail conditions)
      (t.bind (walkExprs_trail results) (t.last (walkOptExpr_trail otherwise) _))))
  | .cast _ operand type => t.expr _ (t.bind (walkExpr_trail operand) (t.last (walkPhrase_trail type) _))
  | .exists query _ => t.expr _ (t.last (walkQuery_trail query) _)
  | .subquery query => t.expr _ (t.last (walkQuery_trail query) _)
  | .tuple items => t.expr _ (t.last (walkExprs_trail items) _)
  | .array items _ => t.expr _ (t.last (walkExprs_trail items) _)
  | .subscript operand index => t.expr _ (t.bind (walkExpr_trail operand) (t.last (walkExpr_trail index) _))
  | .element operand keys => t.expr _ (t.bind (walkExpr_trail operand) (t.last (walkExprs_trail keys) _))
  | .interval value _ => t.expr _ (t.last (walkExpr_trail value) _)
  | .bareCall _ => t.expr _ (t.pure _)
  | .queryCall _ query => t.expr _ (t.last (walkQuery_trail query) _)
  | .call _ parameters args _ window withinGroup =>
    t.expr _ (t.bind (walkOptArgList_trail parameters) (t.bind (walkArgList_trail args)
      (t.bind (walkOptPhrase_trail window) (t.last (walkOptPhrase_trail withinGroup) _))))
  | .phrase p => t.expr _ (t.last (walkPhrase_trail p) _)

theorem walkExprs_trail : ∀ es : List Expr, t.holds (walkExprs v es) (walkExprs (substituter c) es) es
  | [] => t.pure _
  | e :: es => t.bind (walkExpr_trail e) (t.last (walkExprs_trail es) _)

theorem walkOptExpr_trail : ∀ e : Option Expr, t.holds (walkOptExpr v e) (walkOptExpr (substituter c) e) e.toList
  | none => t.pure _
  | some e => t.last (walkExpr_trail e) _

theorem walkArgList_trail : ∀ x : ArgList, t.holds (walkArgList v x) (walkArgList (substituter c) x) x.exprs
  | ⟨_, args, clauses⟩ => t.bind (walkArgs_trail args) (t.last (walkPhrases_trail clauses) _)

theorem walkOptArgList_trail :
    ∀ x : Option ArgList, t.holds (walkOptArgList v x) (walkOptArgList (substituter c) x) (optArgListExprs x)
  | none => t.pure _
  | some a => t.last (walkArgList_trail a) _

theorem walkArg_trail : ∀ x : Arg, t.holds (walkArg v x) (walkArg (substituter c) x) x.exprs
  | .expr _ value => t.last (walkExpr_trail value) _
  | .wildcard _ _ => t.pure _

theorem walkArgs_trail : ∀ x : List Arg, t.holds (walkArgs v x) (walkArgs (substituter c) x) (argExprs x)
  | [] => t.pure _
  | a :: as => t.bind (walkArg_trail a) (t.last (walkArgs_trail as) _)

theorem walkOrderItem_trail : ∀ x : OrderItem, t.holds (walkOrderItem v x) (walkOrderItem (substituter c) x) x.exprs
  | ⟨expr, _, _, fill⟩ => t.bind (walkExpr_trail expr) (t.last (walkOptPhrase_trail fill) _)

theorem walkOrder_trail : ∀ x : List OrderItem, t.holds (walkOrder v x) (walkOrder (substituter c) x) (orderExprs x)
  | [] => t.pure _
  | o :: os => t.bind (walkOrderItem_trail o) (t.last (walkOrder_trail os) _)

theorem walkQuery_trail : ∀ x : Query, t.holds (walkQuery v x) (walkQuery (substituter c) x) x.exprs
  | ⟨_, _, ctes, body, orderBy, interpolate, limit, limitBy, offset, _, _, _, _⟩ =>
    t.first (t.ctes ctes) (t.bind (walkCtes_trail ctes) (t.bind (walkBody_trail body)
      (t.bind (walkOrder_trail orderBy) (t.bind (walkOptPhrase_trail interpolate)
      (t.bind (walkOptExpr_trail limit) (t.bind (walkExprs_trail limitBy) (t.last (walkOptExpr_trail offset) _)))))))

theorem walkColumnDef_trail : ∀ x : ColumnDef, t.holds (walkColumnDef v x) (walkColumnDef (substituter c) x) x.exprs
  | ⟨_, type⟩ => t.last (walkOptPhrase_trail type) _

theorem walkColumnDefs_trail :
    ∀ x : List ColumnDef, t.holds (walkColumnDefs v x) (walkColumnDefs (substituter c) x) (columnDefExprs x)
  | [] => t.pure _
  | c :: cs => t.bind (walkColumnDef_trail c) (t.last (walkColumnDefs_trail cs) _)

theorem walkAlias_trail : ∀ x : TableAlias, t.holds (walkAlias v x) (walkAlias (substituter c) x) x.exprs
  | ⟨_, columns⟩ => t.last (walkColumnDefs_trail columns) _

theorem walkOptAlias_trail :
    ∀ x : Option TableAlias, t.holds (walkOptAlias v x) (walkOptAlias (substituter c) x) (optAliasExprs x)
  | none => t.pure _
  | some label => t.last (walkAlias_trail label) _

theorem walkCte_trail : ∀ x : Cte, t.holds (walkCte v x) (walkCte (substituter c) x) x.exprs
  | ⟨label, query, _, _⟩ => t.bind (walkAlias_trail label) (t.last (walkQuery_trail query) _)

theorem walkCtes_trail : ∀ x : List Cte, t.holds (walkCtes v x) (walkCtes (substituter c) x) (cteExprs x)
  | [] => t.pure _
  | c :: cs => t.bind (walkCte_trail c) (t.last (walkCtes_trail cs) _)

theorem walkBody_trail : ∀ x : Body, t.holds (walkBody v x) (walkBody (substituter c) x) x.exprs
  | .select s => t.last (walkSelect_trail s) _
  | .query q => t.last (walkQuery_trail q) _
  | .setOperation _ _ left right => t.bind (walkBody_trail left) (t.last (walkBody_trail right) _)
  | .values _ rows => t.last (walkRows_trail rows) _
  | .table _ _ => t.pure _
  | .command _ phrase => t.last (walkPhrase_trail phrase) _

theorem walkRows_trail : ∀ x : List (List Expr), t.holds (walkRows v x) (walkRows (substituter c) x) (rowExprs x)
  | [] => t.pure _
  | row :: rows => t.bind (walkExprs_trail row) (t.last (walkRows_trail rows) _)

theorem walkSelect_trail : ∀ x : Select, t.holds (walkSelect v x) (walkSelect (substituter c) x) x.exprs
  | ⟨_, distinct, top, items, _, from_, lateralViews, prewhere, where_, _, groupBy, _, clusterBy, distributeBy, sortBy,
      having, windows, qualify, _, connectBy⟩ =>
    t.bind (walkOptPhrase_trail distinct) (t.bind (walkOptPhrase_trail top)
      (t.bind (walkSelectItems_trail items) (t.bind (walkFrom_trail from_)
      (t.bind (walkPhrases_trail lateralViews) (t.bind (walkOptExpr_trail prewhere)
      (t.bind (walkOptExpr_trail where_) (t.bind (walkExprs_trail groupBy) (t.bind (walkExprs_trail clusterBy)
      (t.bind (walkExprs_trail distributeBy) (t.bind (walkExprs_trail sortBy)
      (t.bind (walkOptExpr_trail having) (t.bind (walkPhrases_trail windows)
      (t.bind (walkOptExpr_trail qualify) (t.last (walkOptPhrase_trail connectBy) _))))))))))))))

theorem walkSelectItem_trail :
    ∀ x : SelectItem, t.holds (walkSelectItem v x) (walkSelectItem (substituter c) x) x.exprs
  | .expr e _ => t.last (walkExpr_trail e) _
  | .wildcard _ _ options => t.last (walkOptPhrase_trail options) _

theorem walkSelectItems_trail :
    ∀ x : List SelectItem, t.holds (walkSelectItems v x) (walkSelectItems (substituter c) x) (selectItemExprs x)
  | [] => t.pure _
  | i :: is => t.bind (walkSelectItem_trail i) (t.last (walkSelectItems_trail is) _)

theorem walkFromItem_trail : ∀ x : FromItem, t.holds (walkFromItem v x) (walkFromItem (substituter c) x) x.exprs
  | ⟨relation, joins⟩ => t.bind (walkRelation_trail relation) (t.last (walkJoins_trail joins) _)

theorem walkFrom_trail : ∀ x : List FromItem, t.holds (walkFrom v x) (walkFrom (substituter c) x) (fromExprs x)
  | [] => t.pure _
  | f :: fs => t.bind (walkFromItem_trail f) (t.last (walkFrom_trail fs) _)

theorem walkRelation_trail : ∀ x : Relation, t.holds (walkRelation v x) (walkRelation (substituter c) x) x.exprs
  | .table _ _ args _ _ label hints =>
    t.bind (walkOptAlias_trail label) (t.bind (walkOptArgs_trail args) (t.last (walkExprs_trail hints) _))
  | .derived _ query label => t.bind (walkQuery_trail query) (t.last (walkOptAlias_trail label) _)
  | .function e label => t.bind (walkExpr_trail e) (t.last (walkOptAlias_trail label) _)
  | .nested inner label => t.bind (walkFromItem_trail inner) (t.last (walkOptAlias_trail label) _)
  | .unnest arrays _ _ label => t.bind (walkOptAlias_trail label) (t.last (walkExprs_trail arrays) _)
  | .phrase phrase label => t.bind (walkPhrase_trail phrase) (t.last (walkOptAlias_trail label) _)

theorem walkOptArgs_trail :
    ∀ x : Option (List Arg), t.holds (walkOptArgs v x) (walkOptArgs (substituter c) x) (optArgExprs x)
  | none => t.pure _
  | some args => t.last (walkArgs_trail args) _

theorem walkJoin_trail : ∀ x : Join, t.holds (walkJoin v x) (walkJoin (substituter c) x) x.exprs
  | ⟨_, _, relation, matching, constraint⟩ =>
    t.bind (walkRelation_trail relation) (t.bind (walkOptExpr_trail matching)
      (t.last (walkConstraint_trail constraint) _))

theorem walkJoins_trail : ∀ x : List Join, t.holds (walkJoins v x) (walkJoins (substituter c) x) (joinExprs x)
  | [] => t.pure _
  | j :: js => t.bind (walkJoin_trail j) (t.last (walkJoins_trail js) _)

theorem walkConstraint_trail :
    ∀ x : JoinConstraint, t.holds (walkConstraint v x) (walkConstraint (substituter c) x) x.exprs
  | .none => t.pure _
  | .natural => t.pure _
  | .on condition => t.last (walkExpr_trail condition) _
  | .using _ => t.pure _

theorem walkPhrase_trail : ∀ x : Phrase, t.holds (walkPhrase v x) (walkPhrase (substituter c) x) x.exprs
  | ⟨_, _, parts⟩ => t.last (walkParts_trail parts) _

theorem walkOptPhrase_trail :
    ∀ x : Option Phrase, t.holds (walkOptPhrase v x) (walkOptPhrase (substituter c) x) (optPhraseExprs x)
  | none => t.pure _
  | some p => t.last (walkPhrase_trail p) _

theorem walkPhrases_trail :
    ∀ x : List Phrase, t.holds (walkPhrases v x) (walkPhrases (substituter c) x) (phraseExprs x)
  | [] => t.pure _
  | p :: ps => t.bind (walkPhrase_trail p) (t.last (walkPhrases_trail ps) _)

theorem walkPart_trail : ∀ x : Part, t.holds (walkPart v x) (walkPart (substituter c) x) x.exprs
  | .expr e => t.last (walkExpr_trail e) _
  | .arg a => t.last (walkArg_trail a) _
  | .order o => t.last (walkOrderItem_trail o) _
  | .query q => t.last (walkQuery_trail q) _
  | .item i => t.last (walkSelectItem_trail i) _
  | .source f => t.last (walkFromItem_trail f) _
  | .relation r => t.last (walkRelation_trail r) _
  | .phrase p => t.last (walkPhrase_trail p) _

theorem walkParts_trail : ∀ x : List Part, t.holds (walkParts v x) (walkParts (substituter c) x) (partExprs x)
  | [] => t.pure _
  | p :: ps => t.bind (walkPart_trail p) (t.last (walkParts_trail ps) _)

end

/-- A statement is walked through its expressions. -/
theorem walkStatement_trail (s : Statement) : t.holds (walkStatement v s) (rewriteStatement c s) s.exprs := by
  induction s with
  | query q => exact t.last (t.walkQuery_trail q) _
  | explain word analyze verbose queryPlan format options inner ih =>
    exact t.bind ih (t.last (t.walkOptPhrase_trail options) _)
  | explainTable word format tableWord name => exact t.pure _
  | command phrase => exact t.last (t.walkPhrase_trail phrase) _

/-- The parts of an expression are walked before it. -/
theorem walkInside_trail (e : Expr) : t.holds (walkInside v e) (rewriteInside c e) e.parts := by
  -- a trail that keeps what is known of the parts of the expressions that it passes
  let t' : Trail v c :=
    { holds := fun x a es => t.holds x a es ∧ ∀ p ∈ es, t.holds (walkInside v p) (rewriteInside c p) p.parts
      pure := fun a => ⟨t.pure a, by simp⟩
      bind := by
        intro α β x f a b es es' hx hf
        refine ⟨t.bind hx.1 hf.1, fun p hp => ?_⟩
        rcases List.mem_append.1 hp with hp | hp
        · exact hx.2 p hp
        · exact hf.2 p hp
      ctes := fun cs => ⟨t.ctes cs, by simp⟩
      expr := by
        intro e h
        refine ⟨t.expr e h.1, fun p hp => ?_⟩
        rw [List.mem_singleton.1 hp]
        exact h.1 }
  exact (t'.walkExpr_trail e).2 e List.mem_cons_self

end Trail

/-- What holds of an expression if it holds of its parts, holds of every expression. -/
theorem parts_induction {P : Expr → Prop} (h : ∀ e : Expr, (∀ p ∈ e.parts, P p) → P e) (e : Expr) : P e := by
  let t : Trail (substituter fun _ e => e) (fun _ e => e) :=
    { holds := fun _ _ es => ∀ p ∈ es, P p
      pure := by simp
      bind := by
        intro α β x f a b es es' hx hf p hp
        rcases List.mem_append.1 hp with hp | hp
        · exact hx p hp
        · exact hf p hp
      ctes := by simp
      expr := by
        intro e he p hp
        rw [List.mem_singleton.1 hp]
        exact h e he }
  exact t.walkExpr_trail e e List.mem_cons_self

/-! ## The expressions of a replaced tree -/

theorem joined {f : Expr → Expr} {as bs es es' : List Expr} (h : as = es.map f) (h' : bs = es'.map f) :
    as ++ bs = (es ++ es').map f := by
  rw [h, h', List.map_append]

mutual

theorem exprs_walkExprs : ∀ es : List Expr, walkExprs (substituter c) es = es.map (rewriteExpr c)
  | [] => rfl
  | _ :: es => congrArg (List.cons _) (exprs_walkExprs es)

theorem exprs_walkOptExpr : ∀ e : Option Expr, (walkOptExpr (substituter c) e).toList = e.toList.map (rewriteExpr c)
  | none => rfl
  | some _ => rfl

theorem exprs_walkArgList : ∀ x : ArgList, ArgList.exprs (walkArgList (substituter c) x) = x.exprs.map (rewriteExpr c)
  | ⟨_, args, clauses⟩ => joined (exprs_walkArgs args) (exprs_walkPhrases clauses)

theorem exprs_walkOptArgList :
    ∀ x : Option ArgList, optArgListExprs (walkOptArgList (substituter c) x) = (optArgListExprs x).map (rewriteExpr c)
  | none => rfl
  | some a => exprs_walkArgList a

theorem exprs_walkArg : ∀ x : Arg, Arg.exprs (walkArg (substituter c) x) = x.exprs.map (rewriteExpr c)
  | .expr _ _ => rfl
  | .wildcard _ _ => rfl

theorem exprs_walkArgs : ∀ x : List Arg, argExprs (walkArgs (substituter c) x) = (argExprs x).map (rewriteExpr c)
  | [] => rfl
  | a :: as => joined (exprs_walkArg a) (exprs_walkArgs as)

theorem exprs_walkOrderItem :
    ∀ x : OrderItem, OrderItem.exprs (walkOrderItem (substituter c) x) = x.exprs.map (rewriteExpr c)
  | ⟨_, _, _, fill⟩ => joined rfl (exprs_walkOptPhrase fill)

theorem exprs_walkOrder :
    ∀ x : List OrderItem, orderExprs (walkOrder (substituter c) x) = (orderExprs x).map (rewriteExpr c)
  | [] => rfl
  | o :: os => joined (exprs_walkOrderItem o) (exprs_walkOrder os)

theorem exprs_walkQuery : ∀ x : Query, Query.exprs (walkQuery (substituter c) x) = x.exprs.map (rewriteExpr c)
  | ⟨_, _, ctes, body, orderBy, interpolate, limit, limitBy, offset, _, _, _, _⟩ =>
    joined (exprs_walkCtes ctes) (joined (exprs_walkBody body) (joined (exprs_walkOrder orderBy)
      (joined (exprs_walkOptPhrase interpolate) (joined (exprs_walkOptExpr limit)
      (joined (exprs_walkExprs limitBy) (exprs_walkOptExpr offset))))))

theorem exprs_walkColumnDef :
    ∀ x : ColumnDef, ColumnDef.exprs (walkColumnDef (substituter c) x) = x.exprs.map (rewriteExpr c)
  | ⟨_, type⟩ => exprs_walkOptPhrase type

theorem exprs_walkColumnDefs :
    ∀ x : List ColumnDef, columnDefExprs (walkColumnDefs (substituter c) x) = (columnDefExprs x).map (rewriteExpr c)
  | [] => rfl
  | c :: cs => joined (exprs_walkColumnDef c) (exprs_walkColumnDefs cs)

theorem exprs_walkAlias :
    ∀ x : TableAlias, TableAlias.exprs (walkAlias (substituter c) x) = x.exprs.map (rewriteExpr c)
  | ⟨_, columns⟩ => exprs_walkColumnDefs columns

theorem exprs_walkOptAlias :
    ∀ x : Option TableAlias, optAliasExprs (walkOptAlias (substituter c) x) = (optAliasExprs x).map (rewriteExpr c)
  | none => rfl
  | some label => exprs_walkAlias label

theorem exprs_walkCte : ∀ x : Cte, Cte.exprs (walkCte (substituter c) x) = x.exprs.map (rewriteExpr c)
  | ⟨label, query, _, _⟩ => joined (exprs_walkAlias label) (exprs_walkQuery query)

theorem exprs_walkCtes : ∀ x : List Cte, cteExprs (walkCtes (substituter c) x) = (cteExprs x).map (rewriteExpr c)
  | [] => rfl
  | c :: cs => joined (exprs_walkCte c) (exprs_walkCtes cs)

theorem exprs_walkBody : ∀ x : Body, Body.exprs (walkBody (substituter c) x) = x.exprs.map (rewriteExpr c)
  | .select s => exprs_walkSelect s
  | .query q => exprs_walkQuery q
  | .setOperation _ _ left right => joined (exprs_walkBody left) (exprs_walkBody right)
  | .values _ rows => exprs_walkRows rows
  | .table _ _ => rfl
  | .command _ phrase => exprs_walkPhrase phrase

theorem exprs_walkRows :
    ∀ x : List (List Expr), rowExprs (walkRows (substituter c) x) = (rowExprs x).map (rewriteExpr c)
  | [] => rfl
  | row :: rows => joined (exprs_walkExprs row) (exprs_walkRows rows)

theorem exprs_walkSelect : ∀ x : Select, Select.exprs (walkSelect (substituter c) x) = x.exprs.map (rewriteExpr c)
  | ⟨_, distinct, top, items, _, from_, lateralViews, prewhere, where_, _, groupBy, _, clusterBy, distributeBy, sortBy,
      having, windows, qualify, _, connectBy⟩ =>
    joined (exprs_walkOptPhrase distinct) (joined (exprs_walkOptPhrase top)
      (joined (exprs_walkSelectItems items) (joined (exprs_walkFrom from_)
      (joined (exprs_walkPhrases lateralViews) (joined (exprs_walkOptExpr prewhere)
      (joined (exprs_walkOptExpr where_) (joined (exprs_walkExprs groupBy) (joined (exprs_walkExprs clusterBy)
      (joined (exprs_walkExprs distributeBy) (joined (exprs_walkExprs sortBy)
      (joined (exprs_walkOptExpr having) (joined (exprs_walkPhrases windows)
      (joined (exprs_walkOptExpr qualify) (exprs_walkOptPhrase connectBy))))))))))))))

theorem exprs_walkSelectItem :
    ∀ x : SelectItem, SelectItem.exprs (walkSelectItem (substituter c) x) = x.exprs.map (rewriteExpr c)
  | .expr _ _ => rfl
  | .wildcard _ _ options => exprs_walkOptPhrase options

theorem exprs_walkSelectItems :
    ∀ x : List SelectItem, selectItemExprs (walkSelectItems (substituter c) x) = (selectItemExprs x).map (rewriteExpr c)
  | [] => rfl
  | i :: is => joined (exprs_walkSelectItem i) (exprs_walkSelectItems is)

theorem exprs_walkFromItem :
    ∀ x : FromItem, FromItem.exprs (walkFromItem (substituter c) x) = x.exprs.map (rewriteExpr c)
  | ⟨relation, joins⟩ => joined (exprs_walkRelation relation) (exprs_walkJoins joins)

theorem exprs_walkFrom :
    ∀ x : List FromItem, fromExprs (walkFrom (substituter c) x) = (fromExprs x).map (rewriteExpr c)
  | [] => rfl
  | f :: fs => joined (exprs_walkFromItem f) (exprs_walkFrom fs)

theorem exprs_walkRelation :
    ∀ x : Relation, Relation.exprs (walkRelation (substituter c) x) = x.exprs.map (rewriteExpr c)
  | .table _ _ args _ _ label hints =>
    joined (exprs_walkOptAlias label) (joined (exprs_walkOptArgs args) (exprs_walkExprs hints))
  | .derived _ query label => joined (exprs_walkQuery query) (exprs_walkOptAlias label)
  | .function _ label => joined rfl (exprs_walkOptAlias label)
  | .nested inner label => joined (exprs_walkFromItem inner) (exprs_walkOptAlias label)
  | .unnest arrays _ _ label => joined (exprs_walkOptAlias label) (exprs_walkExprs arrays)
  | .phrase phrase label => joined (exprs_walkPhrase phrase) (exprs_walkOptAlias label)

theorem exprs_walkOptArgs :
    ∀ x : Option (List Arg), optArgExprs (walkOptArgs (substituter c) x) = (optArgExprs x).map (rewriteExpr c)
  | none => rfl
  | some args => exprs_walkArgs args

theorem exprs_walkJoin : ∀ x : Join, Join.exprs (walkJoin (substituter c) x) = x.exprs.map (rewriteExpr c)
  | ⟨_, _, relation, matching, constraint⟩ =>
    joined (exprs_walkRelation relation) (joined (exprs_walkOptExpr matching) (exprs_walkConstraint constraint))

theorem exprs_walkJoins : ∀ x : List Join, joinExprs (walkJoins (substituter c) x) = (joinExprs x).map (rewriteExpr c)
  | [] => rfl
  | j :: js => joined (exprs_walkJoin j) (exprs_walkJoins js)

theorem exprs_walkConstraint :
    ∀ x : JoinConstraint, JoinConstraint.exprs (walkConstraint (substituter c) x) = x.exprs.map (rewriteExpr c)
  | .none => rfl
  | .natural => rfl
  | .on _ => rfl
  | .using _ => rfl

theorem exprs_walkPhrase : ∀ x : Phrase, Phrase.exprs (walkPhrase (substituter c) x) = x.exprs.map (rewriteExpr c)
  | ⟨_, _, parts⟩ => exprs_walkParts parts

theorem exprs_walkOptPhrase :
    ∀ x : Option Phrase, optPhraseExprs (walkOptPhrase (substituter c) x) = (optPhraseExprs x).map (rewriteExpr c)
  | none => rfl
  | some p => exprs_walkPhrase p

theorem exprs_walkPhrases :
    ∀ x : List Phrase, phraseExprs (walkPhrases (substituter c) x) = (phraseExprs x).map (rewriteExpr c)
  | [] => rfl
  | p :: ps => joined (exprs_walkPhrase p) (exprs_walkPhrases ps)

theorem exprs_walkPart : ∀ x : Part, Part.exprs (walkPart (substituter c) x) = x.exprs.map (rewriteExpr c)
  | .expr _ => rfl
  | .arg a => exprs_walkArg a
  | .order o => exprs_walkOrderItem o
  | .query q => exprs_walkQuery q
  | .item i => exprs_walkSelectItem i
  | .source f => exprs_walkFromItem f
  | .relation r => exprs_walkRelation r
  | .phrase p => exprs_walkPhrase p

theorem exprs_walkParts : ∀ x : List Part, partExprs (walkParts (substituter c) x) = (partExprs x).map (rewriteExpr c)
  | [] => rfl
  | p :: ps => joined (exprs_walkPart p) (exprs_walkParts ps)

end

/-- The parts of an expression are replaced each by itself. -/
theorem parts_rewriteInside (e : Expr) : (rewriteInside c e).parts = e.parts.map (rewriteExpr c) := by
  cases e with
  | typedString type text => exact exprs_walkPhrase c type
  | inList operand items negated => exact congrArg (List.cons _) (exprs_walkExprs c items)
  | inQuery operand query negated => exact congrArg (List.cons _) (exprs_walkQuery c query)
  | case operand conditions results otherwise =>
    exact joined (exprs_walkOptExpr c operand) (joined (exprs_walkExprs c conditions)
      (joined (exprs_walkExprs c results) (exprs_walkOptExpr c otherwise)))
  | cast style operand type => exact congrArg (List.cons _) (exprs_walkPhrase c type)
  | «exists» query negated => exact exprs_walkQuery c query
  | subquery query => exact exprs_walkQuery c query
  | tuple items => exact exprs_walkExprs c items
  | array items named => exact exprs_walkExprs c items
  | element operand keys => exact congrArg (List.cons _) (exprs_walkExprs c keys)
  | queryCall name query => exact exprs_walkQuery c query
  | call name parameters args style window withinGroup =>
    exact joined (exprs_walkOptArgList c parameters) (joined (exprs_walkArgList c args)
      (joined (exprs_walkOptPhrase c window) (exprs_walkOptPhrase c withinGroup)))
  | phrase p => exact exprs_walkPhrase c p
  | _ => rfl

theorem exprs_rewriteStatement (s : Statement) : (rewriteStatement c s).exprs = s.exprs.map (rewriteExpr c) := by
  induction s with
  | query q => exact exprs_walkQuery c q
  | explain word analyze verbose queryPlan format options inner ih => exact joined ih (exprs_walkOptPhrase c options)
  | explainTable word format tableWord name => rfl
  | command phrase => exact exprs_walkPhrase c phrase

end SqlTemplate.Macro
