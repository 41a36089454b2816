import SqlTemplate.Macro.Site

/-!
# Walking a tree

A walk hands every macro site of a tree to a visitor, which may put another expression in the place
of a call. The placeholders of a query come before everything inside it, an expression comes after
everything inside it, and what a visitor puts into the tree is not walked again.

* `Macro.walkStatements` walks statements and gives back those that the visitor leaves.
* `Macro.sites` lists the sites of statements in the order of the walk.
-/

namespace SqlTemplate.Macro

open Sql

/-- What to do at each kind of site. -/
structure Visitor (m : Type → Type) where
  /-- The expression that shall stand in the place of a call. -/
  call : Invocation → Expr → m Expr
  cte : Placeholder → m Unit
  malformed : ShapeError → m Unit

section

variable {m : Type → Type} [Monad m] (v : Visitor m)

/-- Visits an expression whose parts have been walked. -/
def Visitor.expr (e : Expr) : m Expr :=
  match callOf e with
  | none => pure e
  | some (.ok invocation) => v.call invocation e
  | some (.error error) => do
    v.malformed error
    pure e

/-- Visits the placeholders of a query. -/
def Visitor.ctes : List Cte → m Unit
  | [] => pure ()
  | cte :: rest => do
    match placeholderOf cte with
    | none => pure ()
    | some (.ok placeholder) => v.cte placeholder
    | some (.error error) => v.malformed error
    Visitor.ctes rest

mutual

/-- Walks an expression: its parts, then itself. -/
def walkExpr : Expr → m Expr
  | .ident name => v.expr (.ident name)
  | .compound name => v.expr (.compound name)
  | .literal value => v.expr (.literal value)
  | .typedString type text => do
    let type ← walkPhrase type
    v.expr (.typedString type text)
  | .nested inner => do
    let inner ← walkExpr inner
    v.expr (.nested inner)
  | .unary op operand => do
    let operand ← walkExpr operand
    v.expr (.unary op operand)
  | .binary left op right => do
    let left ← walkExpr left
    let right ← walkExpr right
    v.expr (.binary left op right)
  | .compare left op among right => do
    let left ← walkExpr left
    let right ← walkExpr right
    v.expr (.compare left op among right)
  | .is operand property => do
    let operand ← walkExpr operand
    v.expr (.is operand property)
  | .isDistinct left right negated => do
    let left ← walkExpr left
    let right ← walkExpr right
    v.expr (.isDistinct left right negated)
  | .inList operand items negated => do
    let operand ← walkExpr operand
    let items ← walkExprs items
    v.expr (.inList operand items negated)
  | .inQuery operand query negated => do
    let operand ← walkExpr operand
    let query ← walkQuery query
    v.expr (.inQuery operand query negated)
  | .between operand low high negated => do
    let operand ← walkExpr operand
    let low ← walkExpr low
    let high ← walkExpr high
    v.expr (.between operand low high negated)
  | .like kind operand pattern negated any escape => do
    let operand ← walkExpr operand
    let pattern ← walkExpr pattern
    v.expr (.like kind operand pattern negated any escape)
  | .case operand conditions results otherwise => do
    let operand ← walkOptExpr operand
    let conditions ← walkExprs conditions
    let results ← walkExprs results
    let otherwise ← walkOptExpr otherwise
    v.expr (.case operand conditions results otherwise)
  | .cast style operand type => do
    let operand ← walkExpr operand
    let type ← walkPhrase type
    v.expr (.cast style operand type)
  | .exists query negated => do
    let query ← walkQuery query
    v.expr (.exists query negated)
  | .subquery query => do
    let query ← walkQuery query
    v.expr (.subquery query)
  | .tuple items => do
    let items ← walkExprs items
    v.expr (.tuple items)
  | .array items named => do
    let items ← walkExprs items
    v.expr (.array items named)
  | .subscript operand index => do
    let operand ← walkExpr operand
    let index ← walkExpr index
    v.expr (.subscript operand index)
  | .element operand keys => do
    let operand ← walkExpr operand
    let keys ← walkExprs keys
    v.expr (.element operand keys)
  | .interval value qualifier => do
    let value ← walkExpr value
    v.expr (.interval value qualifier)
  | .bareCall name => v.expr (.bareCall name)
  | .queryCall name query => do
    let query ← walkQuery query
    v.expr (.queryCall name query)
  | .call name parameters args style window withinGroup => do
    let parameters ← walkOptArgList parameters
    let args ← walkArgList args
    let window ← walkOptPhrase window
    let withinGroup ← walkOptPhrase withinGroup
    v.expr (.call name parameters args style window withinGroup)
  | .phrase phrase => do
    let phrase ← walkPhrase phrase
    v.expr (.phrase phrase)

/-- Walks expressions in order. -/
def walkExprs : List Expr → m (List Expr)
  | [] => pure []
  | e :: es => do
    let e ← walkExpr e
    let es ← walkExprs es
    pure (e :: es)

/-- Walks an expression that may be missing. -/
def walkOptExpr : Option Expr → m (Option Expr)
  | none => pure none
  | some e => do
    let e ← walkExpr e
    pure (some e)

/-- Walks arguments, then the clauses behind them. -/
def walkArgList : ArgList → m ArgList
  | ⟨repeats, args, clauses⟩ => do
    let args ← walkArgs args
    let clauses ← walkPhrases clauses
    pure ⟨repeats, args, clauses⟩

/-- Walks arguments that may be missing. -/
def walkOptArgList : Option ArgList → m (Option ArgList)
  | none => pure none
  | some a => do
    let a ← walkArgList a
    pure (some a)

/-- Walks an argument. -/
def walkArg : Arg → m Arg
  | .expr name value => do
    let value ← walkExpr value
    pure (.expr name value)
  | .wildcard name qualifier => pure (.wildcard name qualifier)

/-- Walks arguments in order. -/
def walkArgs : List Arg → m (List Arg)
  | [] => pure []
  | a :: as => do
    let a ← walkArg a
    let as ← walkArgs as
    pure (a :: as)

/-- Walks a key of an order, then how its gaps are filled. -/
def walkOrderItem : OrderItem → m OrderItem
  | ⟨expr, ascending, nullsFirst, fill⟩ => do
    let expr ← walkExpr expr
    let fill ← walkOptPhrase fill
    pure ⟨expr, ascending, nullsFirst, fill⟩

/-- Walks the keys of an order. -/
def walkOrder : List OrderItem → m (List OrderItem)
  | [] => pure []
  | o :: os => do
    let o ← walkOrderItem o
    let os ← walkOrder os
    pure (o :: os)

/-- Walks a query: its placeholders, the named queries, the body, and what follows it. -/
def walkQuery : Query → m Query
  | ⟨withWord, recursive, ctes, body, orderBy, interpolate, limit, limitBy, offset, offsetRows,
      settings, delivery, format⟩ => do
    v.ctes ctes
    let ctes ← walkCtes ctes
    let body ← walkBody body
    let orderBy ← walkOrder orderBy
    let interpolate ← walkOptPhrase interpolate
    let limit ← walkOptExpr limit
    let limitBy ← walkExprs limitBy
    let offset ← walkOptExpr offset
    pure ⟨withWord, recursive, ctes, body, orderBy, interpolate, limit, limitBy, offset,
      offsetRows, settings, delivery, format⟩

/-- Walks a column of an alias. -/
def walkColumnDef : ColumnDef → m ColumnDef
  | ⟨name, type⟩ => do
    let type ← walkOptPhrase type
    pure ⟨name, type⟩

/-- Walks the columns of an alias. -/
def walkColumnDefs : List ColumnDef → m (List ColumnDef)
  | [] => pure []
  | c :: cs => do
    let c ← walkColumnDef c
    let cs ← walkColumnDefs cs
    pure (c :: cs)

/-- Walks a name for a relation. -/
def walkAlias : TableAlias → m TableAlias
  | ⟨name, columns⟩ => do
    let columns ← walkColumnDefs columns
    pure ⟨name, columns⟩

/-- Walks a name for a relation that may be missing. -/
def walkOptAlias : Option TableAlias → m (Option TableAlias)
  | none => pure none
  | some label => do
    let label ← walkAlias label
    pure (some label)

/-- Walks a named query. -/
def walkCte : Cte → m Cte
  | ⟨label, query, source, closing⟩ => do
    let label ← walkAlias label
    let query ← walkQuery query
    pure ⟨label, query, source, closing⟩

/-- Walks named queries in order. -/
def walkCtes : List Cte → m (List Cte)
  | [] => pure []
  | c :: cs => do
    let c ← walkCte c
    let cs ← walkCtes cs
    pure (c :: cs)

/-- Walks what produces the rows of a query. -/
def walkBody : Body → m Body
  | .select s => do
    let s ← walkSelect s
    pure (.select s)
  | .query q => do
    let q ← walkQuery q
    pure (.query q)
  | .setOperation op quantifier left right => do
    let left ← walkBody left
    let right ← walkBody right
    pure (.setOperation op quantifier left right)
  | .values explicitRow rows => do
    let rows ← walkRows rows
    pure (.values explicitRow rows)
  | .table schema table => pure (.table schema table)
  | .command kind phrase => do
    let phrase ← walkPhrase phrase
    pure (.command kind phrase)

/-- Walks rows in order. -/
def walkRows : List (List Expr) → m (List (List Expr))
  | [] => pure []
  | row :: rows => do
    let row ← walkExprs row
    let rows ← walkRows rows
    pure (row :: rows)

/-- Walks a selection: its items, its relations, its conditions and its groups. -/
def walkSelect : Select → m Select
  | ⟨selectWord, distinct, top, items, into, from_, lateralViews, prewhere, where_, groupByAll,
      groupBy, groupModifiers, clusterBy, distributeBy, sortBy, having, windows, qualify,
      windowsFirst, connectBy⟩ => do
    let distinct ← walkOptPhrase distinct
    let top ← walkOptPhrase top
    let items ← walkSelectItems items
    let from_ ← walkFrom from_
    let lateralViews ← walkPhrases lateralViews
    let prewhere ← walkOptExpr prewhere
    let where_ ← walkOptExpr where_
    let groupBy ← walkExprs groupBy
    let clusterBy ← walkExprs clusterBy
    let distributeBy ← walkExprs distributeBy
    let sortBy ← walkExprs sortBy
    let having ← walkOptExpr having
    let windows ← walkPhrases windows
    let qualify ← walkOptExpr qualify
    let connectBy ← walkOptPhrase connectBy
    pure ⟨selectWord, distinct, top, items, into, from_, lateralViews, prewhere, where_,
      groupByAll, groupBy, groupModifiers, clusterBy, distributeBy, sortBy, having, windows,
      qualify, windowsFirst, connectBy⟩

/-- Walks an item of a selection. -/
def walkSelectItem : SelectItem → m SelectItem
  | .expr e label => do
    let e ← walkExpr e
    pure (.expr e label)
  | .wildcard qualifier star options => do
    let options ← walkOptPhrase options
    pure (.wildcard qualifier star options)

/-- Walks the items of a selection. -/
def walkSelectItems : List SelectItem → m (List SelectItem)
  | [] => pure []
  | i :: is => do
    let i ← walkSelectItem i
    let is ← walkSelectItems is
    pure (i :: is)

/-- Walks a relation and those joined to it. -/
def walkFromItem : FromItem → m FromItem
  | ⟨relation, joins⟩ => do
    let relation ← walkRelation relation
    let joins ← walkJoins joins
    pure ⟨relation, joins⟩

/-- Walks relations in order. -/
def walkFrom : List FromItem → m (List FromItem)
  | [] => pure []
  | f :: fs => do
    let f ← walkFromItem f
    let fs ← walkFrom fs
    pure (f :: fs)

/-- Walks a source of rows. The name of a table and that of unfolded lists come first. -/
def walkRelation : Relation → m Relation
  | .table name partitions args settings ordinality label hints => do
    let label ← walkOptAlias label
    let args ← walkOptArgs args
    let hints ← walkExprs hints
    pure (.table name partitions args settings ordinality label hints)
  | .derived lateral query label => do
    let query ← walkQuery query
    let label ← walkOptAlias label
    pure (.derived lateral query label)
  | .function e label => do
    let e ← walkExpr e
    let label ← walkOptAlias label
    pure (.function e label)
  | .nested inner label => do
    let inner ← walkFromItem inner
    let label ← walkOptAlias label
    pure (.nested inner label)
  | .unnest arrays ordinality offset label => do
    let label ← walkOptAlias label
    let arrays ← walkExprs arrays
    pure (.unnest arrays ordinality offset label)
  | .phrase phrase label => do
    let phrase ← walkPhrase phrase
    let label ← walkOptAlias label
    pure (.phrase phrase label)

/-- Walks arguments of a table function. -/
def walkOptArgs : Option (List Arg) → m (Option (List Arg))
  | none => pure none
  | some args => do
    let args ← walkArgs args
    pure (some args)

/-- Walks a joined relation, then the conditions of the join. -/
def walkJoin : Join → m Join
  | ⟨kind, global, relation, matching, constraint⟩ => do
    let relation ← walkRelation relation
    let matching ← walkOptExpr matching
    let constraint ← walkConstraint constraint
    pure ⟨kind, global, relation, matching, constraint⟩

/-- Walks joined relations in order. -/
def walkJoins : List Join → m (List Join)
  | [] => pure []
  | j :: js => do
    let j ← walkJoin j
    let js ← walkJoins js
    pure (j :: js)

/-- Walks the condition of a join. -/
def walkConstraint : JoinConstraint → m JoinConstraint
  | .none => pure .none
  | .natural => pure .natural
  | .on condition => do
    let condition ← walkExpr condition
    pure (.on condition)
  | .using columns => pure (.using columns)

/-- Walks the parts of a phrase. -/
def walkPhrase : Phrase → m Phrase
  | ⟨segments, shape, parts⟩ => do
    let parts ← walkParts parts
    pure ⟨segments, shape, parts⟩

/-- Walks a phrase that may be missing. -/
def walkOptPhrase : Option Phrase → m (Option Phrase)
  | none => pure none
  | some p => do
    let p ← walkPhrase p
    pure (some p)

/-- Walks phrases in order. -/
def walkPhrases : List Phrase → m (List Phrase)
  | [] => pure []
  | p :: ps => do
    let p ← walkPhrase p
    let ps ← walkPhrases ps
    pure (p :: ps)

/-- Walks a part of a phrase. -/
def walkPart : Part → m Part
  | .expr e => do
    let e ← walkExpr e
    pure (.expr e)
  | .arg a => do
    let a ← walkArg a
    pure (.arg a)
  | .order o => do
    let o ← walkOrderItem o
    pure (.order o)
  | .query q => do
    let q ← walkQuery q
    pure (.query q)
  | .item i => do
    let i ← walkSelectItem i
    pure (.item i)
  | .source f => do
    let f ← walkFromItem f
    pure (.source f)
  | .relation r => do
    let r ← walkRelation r
    pure (.relation r)
  | .phrase p => do
    let p ← walkPhrase p
    pure (.phrase p)

/-- Walks the parts of a phrase in order. -/
def walkParts : List Part → m (List Part)
  | [] => pure []
  | p :: ps => do
    let p ← walkPart p
    let ps ← walkParts ps
    pure (p :: ps)

end

/-- Walks a statement. -/
def walkStatement : Statement → m Statement
  | .query q => do
    let q ← walkQuery v q
    pure (.query q)
  | .explain word analyze verbose queryPlan format options inner => do
    let inner ← walkStatement inner
    let options ← walkOptPhrase v options
    pure (.explain word analyze verbose queryPlan format options inner)
  | .explainTable word format tableWord name => pure (.explainTable word format tableWord name)
  | .command phrase => do
    let phrase ← walkPhrase v phrase
    pure (.command phrase)

/-- Walks statements in order. -/
def walkStatements : List Statement → m (List Statement)
  | [] => pure []
  | s :: ss => do
    let s ← walkStatement v s
    let ss ← walkStatements ss
    pure (s :: ss)

end

/-- The visitor that notes every site, the last one first, and changes nothing. -/
def recorder : Visitor (StateM (List Site)) where
  call invocation e := do
    modify (.call invocation e :: ·)
    pure e
  cte placeholder := modify (.cte placeholder :: ·)
  malformed error := modify (.malformed error :: ·)

/-- The sites of statements, in the order of the walk. -/
def sites (statements : List Statement) : List Site :=
  ((walkStatements recorder statements).run []).2.reverse

end SqlTemplate.Macro
