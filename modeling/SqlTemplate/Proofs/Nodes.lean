import SqlTemplate.Proofs.Substitution

/-!
# The nodes of a tree

Expressions and queries are the nodes of a tree: a walk stops at them. Right below a node stand others, in the order of
the walk, and a node is given by them and by what is left of it when they are taken away: refilling a node puts other
nodes in their place, one after the other.

* `Node.children`, `Statement.nodes`: the nodes right below a node or a statement.
* `Node.refill`, `Statement.refill`: other nodes in their place.
* `Course`: what is known of the computations of a walk by the nodes that they walk and by how these are put together
  again.
* `node_induction`: what holds of a node if it holds of those below it.
-/

namespace SqlTemplate

namespace Sql

/-- A place in a tree at which a walk stops. -/
inductive Node where
  | expr (e : Expr)
  | query (q : Query)

mutual

/-- The outermost nodes of arguments. -/
def ArgList.nodes : ArgList → List Node
  | ⟨_, args, clauses⟩ => argNodes args ++ phraseNodes clauses

def Arg.nodes : Arg → List Node
  | .expr _ value => [.expr value]
  | .wildcard _ _ => []

def argNodes : List Arg → List Node
  | [] => []
  | a :: as => a.nodes ++ argNodes as

def OrderItem.nodes : OrderItem → List Node
  | ⟨expr, _, _, fill⟩ => [.expr expr] ++ optPhraseNodes fill

def orderNodes : List OrderItem → List Node
  | [] => []
  | o :: os => o.nodes ++ orderNodes os

def ColumnDef.nodes : ColumnDef → List Node
  | ⟨_, type⟩ => optPhraseNodes type

def columnDefNodes : List ColumnDef → List Node
  | [] => []
  | c :: cs => c.nodes ++ columnDefNodes cs

def TableAlias.nodes : TableAlias → List Node
  | ⟨_, columns⟩ => columnDefNodes columns

def optAliasNodes : Option TableAlias → List Node
  | none => []
  | some label => label.nodes

def Cte.nodes : Cte → List Node
  | ⟨label, query, _, _⟩ => label.nodes ++ [.query query]

def cteNodes : List Cte → List Node
  | [] => []
  | c :: cs => c.nodes ++ cteNodes cs

/-- The outermost nodes of what produces rows. -/
def Body.nodes : Body → List Node
  | .select s => s.nodes
  | .query q => [.query q]
  | .setOperation _ _ left right => left.nodes ++ right.nodes
  | .values _ rows => rowNodes rows
  | .table _ _ => []
  | .command _ phrase => phrase.nodes

def rowNodes : List (List Expr) → List Node
  | [] => []
  | row :: rows => row.map .expr ++ rowNodes rows

/-- The outermost nodes of a selection. -/
def Select.nodes : Select → List Node
  | ⟨_, distinct, top, items, _, from_, lateralViews, prewhere, where_, _, groupBy, _, clusterBy, distributeBy, sortBy,
      having, windows, qualify, _, connectBy⟩ =>
    optPhraseNodes distinct ++ (optPhraseNodes top ++ (selectItemNodes items ++ (fromNodes from_ ++
      (phraseNodes lateralViews ++ (prewhere.toList.map .expr ++ (where_.toList.map .expr ++ (groupBy.map .expr ++
        (clusterBy.map .expr ++ (distributeBy.map .expr ++ (sortBy.map .expr ++ (having.toList.map .expr ++
          (phraseNodes windows ++ (qualify.toList.map .expr ++ optPhraseNodes connectBy)))))))))))))

def SelectItem.nodes : SelectItem → List Node
  | .expr e _ => [.expr e]
  | .wildcard _ _ options => optPhraseNodes options

def selectItemNodes : List SelectItem → List Node
  | [] => []
  | i :: is => i.nodes ++ selectItemNodes is

def FromItem.nodes : FromItem → List Node
  | ⟨relation, joins⟩ => relation.nodes ++ joinNodes joins

def fromNodes : List FromItem → List Node
  | [] => []
  | f :: fs => f.nodes ++ fromNodes fs

/-- The outermost nodes of a source of rows. -/
def Relation.nodes : Relation → List Node
  | .table _ _ args _ _ label hints => optAliasNodes label ++ (optArgNodes args ++ hints.map .expr)
  | .derived _ query label => [.query query] ++ optAliasNodes label
  | .function e label => [.expr e] ++ optAliasNodes label
  | .nested inner label => inner.nodes ++ optAliasNodes label
  | .unnest arrays _ _ label => optAliasNodes label ++ arrays.map .expr
  | .phrase phrase label => phrase.nodes ++ optAliasNodes label

def optArgNodes : Option (List Arg) → List Node
  | none => []
  | some args => argNodes args

def Join.nodes : Join → List Node
  | ⟨_, _, relation, matching, constraint⟩ => relation.nodes ++ (matching.toList.map .expr ++ constraint.nodes)

def joinNodes : List Join → List Node
  | [] => []
  | j :: js => j.nodes ++ joinNodes js

def JoinConstraint.nodes : JoinConstraint → List Node
  | .none => []
  | .natural => []
  | .on condition => [.expr condition]
  | .using _ => []

/-- The outermost nodes of a phrase. -/
def Phrase.nodes : Phrase → List Node
  | ⟨_, _, parts⟩ => partNodes parts

def optPhraseNodes : Option Phrase → List Node
  | none => []
  | some p => p.nodes

def phraseNodes : List Phrase → List Node
  | [] => []
  | p :: ps => p.nodes ++ phraseNodes ps

def Part.nodes : Part → List Node
  | .expr e => [.expr e]
  | .arg a => a.nodes
  | .order o => o.nodes
  | .query q => [.query q]
  | .item i => i.nodes
  | .source f => f.nodes
  | .relation r => r.nodes
  | .phrase p => p.nodes

def partNodes : List Part → List Node
  | [] => []
  | p :: ps => p.nodes ++ partNodes ps

end

def optArgListNodes : Option ArgList → List Node
  | none => []
  | some a => a.nodes

/-- The nodes right below an expression. -/
def Expr.children : Expr → List Node
  | .ident _ | .compound _ | .literal _ | .bareCall _ => []
  | .typedString type _ => type.nodes
  | .nested inner => [.expr inner]
  | .unary _ operand => [.expr operand]
  | .binary left _ right | .compare left _ _ right | .isDistinct left right _ => [.expr left, .expr right]
  | .is operand _ => [.expr operand]
  | .inList operand items _ => .expr operand :: items.map .expr
  | .inQuery operand query _ => [.expr operand, .query query]
  | .between operand low high _ => [.expr operand, .expr low, .expr high]
  | .like _ operand pattern _ _ _ => [.expr operand, .expr pattern]
  | .case operand conditions results otherwise =>
    operand.toList.map .expr ++ (conditions.map .expr ++ (results.map .expr ++ otherwise.toList.map .expr))
  | .cast _ operand type => .expr operand :: type.nodes
  | .exists query _ | .subquery query | .queryCall _ query => [.query query]
  | .tuple items | .array items _ => items.map .expr
  | .subscript operand index => [.expr operand, .expr index]
  | .element operand keys => .expr operand :: keys.map .expr
  | .interval value _ => [.expr value]
  | .call _ parameters args _ window withinGroup =>
    optArgListNodes parameters ++ (args.nodes ++ (optPhraseNodes window ++ optPhraseNodes withinGroup))
  | .phrase p => p.nodes

/-- The nodes right below a query. -/
def Query.children : Query → List Node
  | ⟨_, _, ctes, body, orderBy, interpolate, limit, limitBy, offset, _, _, _, _⟩ =>
    cteNodes ctes ++ (body.nodes ++ (orderNodes orderBy ++ (optPhraseNodes interpolate ++
      (limit.toList.map .expr ++ (limitBy.map .expr ++ offset.toList.map .expr)))))

/-- The nodes right below a node. -/
def Node.children : Node → List Node
  | .expr e => e.children
  | .query q => q.children

/-- The outermost nodes of a statement. -/
def Statement.nodes : Statement → List Node
  | .query q => [.query q]
  | .explain _ _ _ _ _ options inner => inner.nodes ++ optPhraseNodes options
  | .explainTable _ _ _ _ => []
  | .command phrase => phrase.nodes

/-- The named queries of a query stand right below it. -/
theorem mem_children_of_cte {q : Query} {cte : Cte} (h : cte ∈ q.ctes) : Node.query cte.query ∈ q.children := by
  cases q with
  | mk withWord recursive ctes body orderBy interpolate limit limitBy offset offsetRows settings delivery format =>
    have hquery : Node.query cte.query ∈ cte.nodes := by
      obtain ⟨label, query, source, closing⟩ := cte
      exact List.mem_append_right _ List.mem_cons_self
    exact List.mem_append_left _ (Macro.mem_listed cteNodes (fun _ _ => rfl) hquery h)

/-- The arguments of a call stand right below it. -/
theorem mem_children_of_arg {e a : Expr} {i : Macro.Invocation} (h : Macro.callOf e = some (.ok i)) (ha : a ∈ i.args) :
    Node.expr a ∈ e.children := by
  obtain ⟨name, hcandidate⟩ := Macro.candidate?_of_callOf h
  generalize i.args = es at hcandidate ha
  cases e with
  | call names parameters args style window withinGroup =>
    rcases names with _ | ⟨name', _ | ⟨name'', names⟩⟩
    · cases hcandidate
    · obtain ⟨repeats, args, clauses⟩ := args
      simp only [Macro.candidate?, Macro.macroArgs, Option.some.injEq, Prod.mk.injEq] at hcandidate
      have harg := Macro.mem_listed argNodes (fun _ _ => rfl) (List.mem_cons_self (a := Node.expr a))
        (Macro.mem_of_plainArgs hcandidate.2 ha)
      simp [Expr.children, ArgList.nodes, harg]
    · cases hcandidate
  | ident name' =>
    cases hcandidate
    cases ha
  | bareCall names =>
    rcases names with _ | ⟨name', _ | ⟨name'', names⟩⟩ <;> cases hcandidate
    cases ha
  | queryCall names query =>
    rcases names with _ | ⟨name', _ | ⟨name'', names⟩⟩ <;> cases hcandidate
  | _ => cases hcandidate

/-! ## Refilling -/

/-- A computation that takes nodes from the front of a list. -/
abbrev Refill := StateM (List Node)

/-- The expression that comes next; the one that stands here if none does. -/
def takeExpr (e : Expr) : Refill Expr := fun ns =>
  match ns with
  | .expr e' :: rest => (e', rest)
  | _ => (e, ns)

/-- The query that comes next; the one that stands here if none does. -/
def takeQuery (q : Query) : Refill Query := fun ns =>
  match ns with
  | .query q' :: rest => (q', rest)
  | _ => (q, ns)

def refillExprs : List Expr → Refill (List Expr)
  | [] => pure []
  | e :: es => do
    let e ← takeExpr e
    let es ← refillExprs es
    pure (e :: es)

def refillOptExpr : Option Expr → Refill (Option Expr)
  | none => pure none
  | some e => do
    let e ← takeExpr e
    pure (some e)

mutual

/-- Arguments with other nodes in the place of the outermost ones. -/
def ArgList.refill : ArgList → Refill ArgList
  | ⟨repeats, args, clauses⟩ => do
    let args ← refillArgs args
    let clauses ← refillPhrases clauses
    pure ⟨repeats, args, clauses⟩

def Arg.refill : Arg → Refill Arg
  | .expr name value => do
    let value ← takeExpr value
    pure (.expr name value)
  | .wildcard name qualifier => pure (.wildcard name qualifier)

def refillArgs : List Arg → Refill (List Arg)
  | [] => pure []
  | a :: as => do
    let a ← a.refill
    let as ← refillArgs as
    pure (a :: as)

def OrderItem.refill : OrderItem → Refill OrderItem
  | ⟨expr, ascending, nullsFirst, fill⟩ => do
    let expr ← takeExpr expr
    let fill ← refillOptPhrase fill
    pure ⟨expr, ascending, nullsFirst, fill⟩

def refillOrder : List OrderItem → Refill (List OrderItem)
  | [] => pure []
  | o :: os => do
    let o ← o.refill
    let os ← refillOrder os
    pure (o :: os)

def ColumnDef.refill : ColumnDef → Refill ColumnDef
  | ⟨name, type⟩ => do
    let type ← refillOptPhrase type
    pure ⟨name, type⟩

def refillColumnDefs : List ColumnDef → Refill (List ColumnDef)
  | [] => pure []
  | c :: cs => do
    let c ← c.refill
    let cs ← refillColumnDefs cs
    pure (c :: cs)

def TableAlias.refill : TableAlias → Refill TableAlias
  | ⟨name, columns⟩ => do
    let columns ← refillColumnDefs columns
    pure ⟨name, columns⟩

def refillOptAlias : Option TableAlias → Refill (Option TableAlias)
  | none => pure none
  | some label => do
    let label ← label.refill
    pure (some label)

def Cte.refill : Cte → Refill Cte
  | ⟨label, query, source, closing⟩ => do
    let label ← label.refill
    let query ← takeQuery query
    pure ⟨label, query, source, closing⟩

def refillCtes : List Cte → Refill (List Cte)
  | [] => pure []
  | c :: cs => do
    let c ← c.refill
    let cs ← refillCtes cs
    pure (c :: cs)

/-- What produces rows, with other nodes in the place of the outermost ones. -/
def Body.refill : Body → Refill Body
  | .select s => do
    let s ← s.refill
    pure (.select s)
  | .query q => do
    let q ← takeQuery q
    pure (.query q)
  | .setOperation op quantifier left right => do
    let left ← left.refill
    let right ← right.refill
    pure (.setOperation op quantifier left right)
  | .values explicitRow rows => do
    let rows ← refillRows rows
    pure (.values explicitRow rows)
  | .table schema table => pure (.table schema table)
  | .command kind phrase => do
    let phrase ← phrase.refill
    pure (.command kind phrase)

def refillRows : List (List Expr) → Refill (List (List Expr))
  | [] => pure []
  | row :: rows => do
    let row ← refillExprs row
    let rows ← refillRows rows
    pure (row :: rows)

/-- A selection with other nodes in the place of the outermost ones. -/
def Select.refill : Select → Refill Select
  | ⟨selectWord, distinct, top, items, into, from_, lateralViews, prewhere, where_, groupByAll, groupBy, groupModifiers,
      clusterBy, distributeBy, sortBy, having, windows, qualify, windowsFirst, connectBy⟩ => do
    let distinct ← refillOptPhrase distinct
    let top ← refillOptPhrase top
    let items ← refillSelectItems items
    let from_ ← refillFrom from_
    let lateralViews ← refillPhrases lateralViews
    let prewhere ← refillOptExpr prewhere
    let where_ ← refillOptExpr where_
    let groupBy ← refillExprs groupBy
    let clusterBy ← refillExprs clusterBy
    let distributeBy ← refillExprs distributeBy
    let sortBy ← refillExprs sortBy
    let having ← refillOptExpr having
    let windows ← refillPhrases windows
    let qualify ← refillOptExpr qualify
    let connectBy ← refillOptPhrase connectBy
    pure ⟨selectWord, distinct, top, items, into, from_, lateralViews, prewhere, where_, groupByAll, groupBy,
      groupModifiers, clusterBy, distributeBy, sortBy, having, windows, qualify, windowsFirst, connectBy⟩

def SelectItem.refill : SelectItem → Refill SelectItem
  | .expr e label => do
    let e ← takeExpr e
    pure (.expr e label)
  | .wildcard qualifier star options => do
    let options ← refillOptPhrase options
    pure (.wildcard qualifier star options)

def refillSelectItems : List SelectItem → Refill (List SelectItem)
  | [] => pure []
  | i :: is => do
    let i ← i.refill
    let is ← refillSelectItems is
    pure (i :: is)

def FromItem.refill : FromItem → Refill FromItem
  | ⟨relation, joins⟩ => do
    let relation ← relation.refill
    let joins ← refillJoins joins
    pure ⟨relation, joins⟩

def refillFrom : List FromItem → Refill (List FromItem)
  | [] => pure []
  | f :: fs => do
    let f ← f.refill
    let fs ← refillFrom fs
    pure (f :: fs)

/-- A source of rows with other nodes in the place of the outermost ones. -/
def Relation.refill : Relation → Refill Relation
  | .table name partitions args settings ordinality label hints => do
    let label ← refillOptAlias label
    let args ← refillOptArgs args
    let hints ← refillExprs hints
    pure (.table name partitions args settings ordinality label hints)
  | .derived lateral query label => do
    let query ← takeQuery query
    let label ← refillOptAlias label
    pure (.derived lateral query label)
  | .function e label => do
    let e ← takeExpr e
    let label ← refillOptAlias label
    pure (.function e label)
  | .nested inner label => do
    let inner ← inner.refill
    let label ← refillOptAlias label
    pure (.nested inner label)
  | .unnest arrays ordinality offset label => do
    let label ← refillOptAlias label
    let arrays ← refillExprs arrays
    pure (.unnest arrays ordinality offset label)
  | .phrase phrase label => do
    let phrase ← phrase.refill
    let label ← refillOptAlias label
    pure (.phrase phrase label)

def refillOptArgs : Option (List Arg) → Refill (Option (List Arg))
  | none => pure none
  | some args => do
    let args ← refillArgs args
    pure (some args)

def Join.refill : Join → Refill Join
  | ⟨kind, global, relation, matching, constraint⟩ => do
    let relation ← relation.refill
    let matching ← refillOptExpr matching
    let constraint ← constraint.refill
    pure ⟨kind, global, relation, matching, constraint⟩

def refillJoins : List Join → Refill (List Join)
  | [] => pure []
  | j :: js => do
    let j ← j.refill
    let js ← refillJoins js
    pure (j :: js)

def JoinConstraint.refill : JoinConstraint → Refill JoinConstraint
  | .none => pure .none
  | .natural => pure .natural
  | .on condition => do
    let condition ← takeExpr condition
    pure (.on condition)
  | .using columns => pure (.using columns)

/-- A phrase with other nodes in the place of the outermost ones. -/
def Phrase.refill : Phrase → Refill Phrase
  | ⟨segments, shape, parts⟩ => do
    let parts ← refillParts parts
    pure ⟨segments, shape, parts⟩

def refillOptPhrase : Option Phrase → Refill (Option Phrase)
  | none => pure none
  | some p => do
    let p ← p.refill
    pure (some p)

def refillPhrases : List Phrase → Refill (List Phrase)
  | [] => pure []
  | p :: ps => do
    let p ← p.refill
    let ps ← refillPhrases ps
    pure (p :: ps)

def Part.refill : Part → Refill Part
  | .expr e => do
    let e ← takeExpr e
    pure (.expr e)
  | .arg a => do
    let a ← a.refill
    pure (.arg a)
  | .order o => do
    let o ← o.refill
    pure (.order o)
  | .query q => do
    let q ← takeQuery q
    pure (.query q)
  | .item i => do
    let i ← i.refill
    pure (.item i)
  | .source f => do
    let f ← f.refill
    pure (.source f)
  | .relation r => do
    let r ← r.refill
    pure (.relation r)
  | .phrase p => do
    let p ← p.refill
    pure (.phrase p)

def refillParts : List Part → Refill (List Part)
  | [] => pure []
  | p :: ps => do
    let p ← p.refill
    let ps ← refillParts ps
    pure (p :: ps)

end

def refillOptArgList : Option ArgList → Refill (Option ArgList)
  | none => pure none
  | some a => do
    let a ← a.refill
    pure (some a)

/-- An expression with other nodes in the place of those right below it. -/
def Expr.refill : Expr → Refill Expr
  | .ident name => pure (.ident name)
  | .compound name => pure (.compound name)
  | .literal value => pure (.literal value)
  | .typedString type text => do
    let type ← type.refill
    pure (.typedString type text)
  | .nested inner => do
    let inner ← takeExpr inner
    pure (.nested inner)
  | .unary op operand => do
    let operand ← takeExpr operand
    pure (.unary op operand)
  | .binary left op right => do
    let left ← takeExpr left
    let right ← takeExpr right
    pure (.binary left op right)
  | .compare left op among right => do
    let left ← takeExpr left
    let right ← takeExpr right
    pure (.compare left op among right)
  | .is operand property => do
    let operand ← takeExpr operand
    pure (.is operand property)
  | .isDistinct left right negated => do
    let left ← takeExpr left
    let right ← takeExpr right
    pure (.isDistinct left right negated)
  | .inList operand items negated => do
    let operand ← takeExpr operand
    let items ← refillExprs items
    pure (.inList operand items negated)
  | .inQuery operand query negated => do
    let operand ← takeExpr operand
    let query ← takeQuery query
    pure (.inQuery operand query negated)
  | .between operand low high negated => do
    let operand ← takeExpr operand
    let low ← takeExpr low
    let high ← takeExpr high
    pure (.between operand low high negated)
  | .like kind operand pattern negated any escape => do
    let operand ← takeExpr operand
    let pattern ← takeExpr pattern
    pure (.like kind operand pattern negated any escape)
  | .case operand conditions results otherwise => do
    let operand ← refillOptExpr operand
    let conditions ← refillExprs conditions
    let results ← refillExprs results
    let otherwise ← refillOptExpr otherwise
    pure (.case operand conditions results otherwise)
  | .cast style operand type => do
    let operand ← takeExpr operand
    let type ← type.refill
    pure (.cast style operand type)
  | .exists query negated => do
    let query ← takeQuery query
    pure (.exists query negated)
  | .subquery query => do
    let query ← takeQuery query
    pure (.subquery query)
  | .tuple items => do
    let items ← refillExprs items
    pure (.tuple items)
  | .array items named => do
    let items ← refillExprs items
    pure (.array items named)
  | .subscript operand index => do
    let operand ← takeExpr operand
    let index ← takeExpr index
    pure (.subscript operand index)
  | .element operand keys => do
    let operand ← takeExpr operand
    let keys ← refillExprs keys
    pure (.element operand keys)
  | .interval value qualifier => do
    let value ← takeExpr value
    pure (.interval value qualifier)
  | .bareCall name => pure (.bareCall name)
  | .queryCall name query => do
    let query ← takeQuery query
    pure (.queryCall name query)
  | .call name parameters args style window withinGroup => do
    let parameters ← refillOptArgList parameters
    let args ← args.refill
    let window ← refillOptPhrase window
    let withinGroup ← refillOptPhrase withinGroup
    pure (.call name parameters args style window withinGroup)
  | .phrase p => do
    let p ← p.refill
    pure (.phrase p)

/-- A query with other nodes in the place of those right below it. -/
def Query.refill : Query → Refill Query
  | ⟨withWord, recursive, ctes, body, orderBy, interpolate, limit, limitBy, offset, offsetRows, settings, delivery,
      format⟩ => do
    let ctes ← refillCtes ctes
    let body ← body.refill
    let orderBy ← refillOrder orderBy
    let interpolate ← refillOptPhrase interpolate
    let limit ← refillOptExpr limit
    let limitBy ← refillExprs limitBy
    let offset ← refillOptExpr offset
    pure ⟨withWord, recursive, ctes, body, orderBy, interpolate, limit, limitBy, offset, offsetRows, settings, delivery,
      format⟩

/-- A node with other nodes in the place of those right below it. -/
def Node.refill : Node → List Node → Node
  | .expr e, ns => .expr (e.refill ns).1
  | .query q, ns => .query (q.refill ns).1

/-- A statement with other nodes in the place of the outermost ones. -/
def Statement.refill : Statement → Refill Statement
  | .query q => do
    let q ← takeQuery q
    pure (.query q)
  | .explain word analyze verbose queryPlan format options inner => do
    let inner ← inner.refill
    let options ← refillOptPhrase options
    pure (.explain word analyze verbose queryPlan format options inner)
  | .explainTable word format tableWord name => pure (.explainTable word format tableWord name)
  | .command phrase => do
    let phrase ← phrase.refill
    pure (.command phrase)

end Sql

namespace Macro

open Sql

/-! ## Courses of a walk -/

section

variable {m : Type → Type} [Monad m] (v : Visitor m)

/-- Walks what stands below a query. -/
def walkWithin : Query → m Query
  | ⟨withWord, recursive, ctes, body, orderBy, interpolate, limit, limitBy, offset, offsetRows, settings, delivery,
      format⟩ => do
    let ctes ← walkCtes v ctes
    let body ← walkBody v body
    let orderBy ← walkOrder v orderBy
    let interpolate ← walkOptPhrase v interpolate
    let limit ← walkOptExpr v limit
    let limitBy ← walkExprs v limitBy
    let offset ← walkOptExpr v offset
    pure ⟨withWord, recursive, ctes, body, orderBy, interpolate, limit, limitBy, offset, offsetRows, settings, delivery,
      format⟩

theorem walkQuery_eq (q : Query) : walkQuery v q = v.ctes q.ctes >>= fun _ => walkWithin v q := by
  cases q
  rfl

end

/-- What is known of the computations of a walk by the nodes that they walk: `holds x y ns` says so of a computation
`x` that walks the nodes `ns`, where `y` puts together what comes of them. -/
structure Course {m : Type → Type} [Monad m] (v : Visitor m) where
  holds : {α : Type} → m α → Refill α → List Node → Prop
  pure : ∀ {α : Type} (a : α), holds (Pure.pure a) (Pure.pure a) []
  bind : ∀ {α β : Type} {x : m α} {y : Refill α} {f : α → m β} {g : α → Refill β} {ns ns' : List Node},
    holds x y ns → (∀ a, holds (f a) (g a) ns') → holds (x >>= f) (y >>= g) (ns ++ ns')
  expr : ∀ e : Expr, holds (walkInside v e) e.refill e.children → holds (walkExpr v e) (takeExpr e) [.expr e]
  query : ∀ q : Query, holds (walkWithin v q) q.refill q.children → holds (walkQuery v q) (takeQuery q) [.query q]

namespace Course

variable {m : Type → Type} [Monad m] {v : Visitor m} (c : Course v)

/-- A computation and a value that is made of its result. -/
theorem last {α β : Type} {x : m α} {y : Refill α} {ns : List Node} (h : c.holds x y ns) (f : α → β) :
    c.holds (do let a ← x; Pure.pure (f a)) (do let a ← y; Pure.pure (f a)) ns := by
  simpa using c.bind h fun a => c.pure (f a)

mutual

/-- An expression is walked after the nodes below it. -/
theorem walkExpr_course : ∀ e : Expr, c.holds (walkExpr v e) (takeExpr e) [.expr e]
  | .ident _ => c.expr _ (c.pure _)
  | .compound _ => c.expr _ (c.pure _)
  | .literal _ => c.expr _ (c.pure _)
  | .typedString type _ => c.expr _ (c.last (walkPhrase_course type) _)
  | .nested inner => c.expr _ (c.last (walkExpr_course inner) _)
  | .unary _ operand => c.expr _ (c.last (walkExpr_course operand) _)
  | .binary left _ right => c.expr _ (c.bind (walkExpr_course left) fun _ => c.last (walkExpr_course right) _)
  | .compare left _ _ right => c.expr _ (c.bind (walkExpr_course left) fun _ => c.last (walkExpr_course right) _)
  | .is operand _ => c.expr _ (c.last (walkExpr_course operand) _)
  | .isDistinct left right _ => c.expr _ (c.bind (walkExpr_course left) fun _ => c.last (walkExpr_course right) _)
  | .inList operand items _ => c.expr _ (c.bind (walkExpr_course operand) fun _ => c.last (walkExprs_course items) _)
  | .inQuery operand query _ => c.expr _ (c.bind (walkExpr_course operand) fun _ => c.last (walkQuery_course query) _)
  | .between operand low high _ =>
    c.expr _ (c.bind (walkExpr_course operand) fun _ => c.bind (walkExpr_course low) fun _ =>
      c.last (walkExpr_course high) _)
  | .like _ operand pattern _ _ _ =>
    c.expr _ (c.bind (walkExpr_course operand) fun _ => c.last (walkExpr_course pattern) _)
  | .case operand conditions results otherwise =>
    c.expr _ (c.bind (walkOptExpr_course operand) fun _ => c.bind (walkExprs_course conditions) fun _ =>
      c.bind (walkExprs_course results) fun _ => c.last (walkOptExpr_course otherwise) _)
  | .cast _ operand type => c.expr _ (c.bind (walkExpr_course operand) fun _ => c.last (walkPhrase_course type) _)
  | .exists query _ => c.expr _ (c.last (walkQuery_course query) _)
  | .subquery query => c.expr _ (c.last (walkQuery_course query) _)
  | .tuple items => c.expr _ (c.last (walkExprs_course items) _)
  | .array items _ => c.expr _ (c.last (walkExprs_course items) _)
  | .subscript operand index =>
    c.expr _ (c.bind (walkExpr_course operand) fun _ => c.last (walkExpr_course index) _)
  | .element operand keys => c.expr _ (c.bind (walkExpr_course operand) fun _ => c.last (walkExprs_course keys) _)
  | .interval value _ => c.expr _ (c.last (walkExpr_course value) _)
  | .bareCall _ => c.expr _ (c.pure _)
  | .queryCall _ query => c.expr _ (c.last (walkQuery_course query) _)
  | .call _ parameters args _ window withinGroup =>
    c.expr _ (c.bind (walkOptArgList_course parameters) fun _ => c.bind (walkArgList_course args) fun _ =>
      c.bind (walkOptPhrase_course window) fun _ => c.last (walkOptPhrase_course withinGroup) _)
  | .phrase p => c.expr _ (c.last (walkPhrase_course p) _)

theorem walkExprs_course : ∀ es : List Expr, c.holds (walkExprs v es) (refillExprs es) (es.map .expr)
  | [] => c.pure _
  | e :: es => c.bind (walkExpr_course e) fun _ => c.last (walkExprs_course es) _

theorem walkOptExpr_course : ∀ e : Option Expr, c.holds (walkOptExpr v e) (refillOptExpr e) (e.toList.map .expr)
  | none => c.pure _
  | some e => c.last (walkExpr_course e) _

theorem walkArgList_course : ∀ x : ArgList, c.holds (walkArgList v x) x.refill x.nodes
  | ⟨_, args, clauses⟩ => c.bind (walkArgs_course args) fun _ => c.last (walkPhrases_course clauses) _

theorem walkOptArgList_course :
    ∀ x : Option ArgList, c.holds (walkOptArgList v x) (refillOptArgList x) (optArgListNodes x)
  | none => c.pure _
  | some a => c.last (walkArgList_course a) _

theorem walkArg_course : ∀ x : Arg, c.holds (walkArg v x) x.refill x.nodes
  | .expr _ value => c.last (walkExpr_course value) _
  | .wildcard _ _ => c.pure _

theorem walkArgs_course : ∀ x : List Arg, c.holds (walkArgs v x) (refillArgs x) (argNodes x)
  | [] => c.pure _
  | a :: as => c.bind (walkArg_course a) fun _ => c.last (walkArgs_course as) _

theorem walkOrderItem_course : ∀ x : OrderItem, c.holds (walkOrderItem v x) x.refill x.nodes
  | ⟨expr, _, _, fill⟩ => c.bind (walkExpr_course expr) fun _ => c.last (walkOptPhrase_course fill) _

theorem walkOrder_course : ∀ x : List OrderItem, c.holds (walkOrder v x) (refillOrder x) (orderNodes x)
  | [] => c.pure _
  | o :: os => c.bind (walkOrderItem_course o) fun _ => c.last (walkOrder_course os) _

/-- A query is walked before the nodes below it. -/
theorem walkQuery_course : ∀ q : Query, c.holds (walkQuery v q) (takeQuery q) [.query q]
  | ⟨_, _, ctes, body, orderBy, interpolate, limit, limitBy, offset, _, _, _, _⟩ =>
    c.query _ (c.bind (walkCtes_course ctes) fun _ => c.bind (walkBody_course body) fun _ =>
      c.bind (walkOrder_course orderBy) fun _ => c.bind (walkOptPhrase_course interpolate) fun _ =>
      c.bind (walkOptExpr_course limit) fun _ => c.bind (walkExprs_course limitBy) fun _ =>
      c.last (walkOptExpr_course offset) _)

theorem walkColumnDef_course : ∀ x : ColumnDef, c.holds (walkColumnDef v x) x.refill x.nodes
  | ⟨_, type⟩ => c.last (walkOptPhrase_course type) _

theorem walkColumnDefs_course :
    ∀ x : List ColumnDef, c.holds (walkColumnDefs v x) (refillColumnDefs x) (columnDefNodes x)
  | [] => c.pure _
  | d :: ds => c.bind (walkColumnDef_course d) fun _ => c.last (walkColumnDefs_course ds) _

theorem walkAlias_course : ∀ x : TableAlias, c.holds (walkAlias v x) x.refill x.nodes
  | ⟨_, columns⟩ => c.last (walkColumnDefs_course columns) _

theorem walkOptAlias_course : ∀ x : Option TableAlias, c.holds (walkOptAlias v x) (refillOptAlias x) (optAliasNodes x)
  | none => c.pure _
  | some label => c.last (walkAlias_course label) _

theorem walkCte_course : ∀ x : Cte, c.holds (walkCte v x) x.refill x.nodes
  | ⟨label, query, _, _⟩ => c.bind (walkAlias_course label) fun _ => c.last (walkQuery_course query) _

theorem walkCtes_course : ∀ x : List Cte, c.holds (walkCtes v x) (refillCtes x) (cteNodes x)
  | [] => c.pure _
  | d :: ds => c.bind (walkCte_course d) fun _ => c.last (walkCtes_course ds) _

theorem walkBody_course : ∀ x : Body, c.holds (walkBody v x) x.refill x.nodes
  | .select s => c.last (walkSelect_course s) _
  | .query q => c.last (walkQuery_course q) _
  | .setOperation _ _ left right => c.bind (walkBody_course left) fun _ => c.last (walkBody_course right) _
  | .values _ rows => c.last (walkRows_course rows) _
  | .table _ _ => c.pure _
  | .command _ phrase => c.last (walkPhrase_course phrase) _

theorem walkRows_course : ∀ x : List (List Expr), c.holds (walkRows v x) (refillRows x) (rowNodes x)
  | [] => c.pure _
  | row :: rows => c.bind (walkExprs_course row) fun _ => c.last (walkRows_course rows) _

theorem walkSelect_course : ∀ x : Select, c.holds (walkSelect v x) x.refill x.nodes
  | ⟨_, distinct, top, items, _, from_, lateralViews, prewhere, where_, _, groupBy, _, clusterBy, distributeBy, sortBy,
      having, windows, qualify, _, connectBy⟩ =>
    c.bind (walkOptPhrase_course distinct) fun _ => c.bind (walkOptPhrase_course top) fun _ =>
      c.bind (walkSelectItems_course items) fun _ => c.bind (walkFrom_course from_) fun _ =>
      c.bind (walkPhrases_course lateralViews) fun _ => c.bind (walkOptExpr_course prewhere) fun _ =>
      c.bind (walkOptExpr_course where_) fun _ => c.bind (walkExprs_course groupBy) fun _ =>
      c.bind (walkExprs_course clusterBy) fun _ => c.bind (walkExprs_course distributeBy) fun _ =>
      c.bind (walkExprs_course sortBy) fun _ => c.bind (walkOptExpr_course having) fun _ =>
      c.bind (walkPhrases_course windows) fun _ => c.bind (walkOptExpr_course qualify) fun _ =>
      c.last (walkOptPhrase_course connectBy) _

theorem walkSelectItem_course : ∀ x : SelectItem, c.holds (walkSelectItem v x) x.refill x.nodes
  | .expr e _ => c.last (walkExpr_course e) _
  | .wildcard _ _ options => c.last (walkOptPhrase_course options) _

theorem walkSelectItems_course :
    ∀ x : List SelectItem, c.holds (walkSelectItems v x) (refillSelectItems x) (selectItemNodes x)
  | [] => c.pure _
  | i :: is => c.bind (walkSelectItem_course i) fun _ => c.last (walkSelectItems_course is) _

theorem walkFromItem_course : ∀ x : FromItem, c.holds (walkFromItem v x) x.refill x.nodes
  | ⟨relation, joins⟩ => c.bind (walkRelation_course relation) fun _ => c.last (walkJoins_course joins) _

theorem walkFrom_course : ∀ x : List FromItem, c.holds (walkFrom v x) (refillFrom x) (fromNodes x)
  | [] => c.pure _
  | f :: fs => c.bind (walkFromItem_course f) fun _ => c.last (walkFrom_course fs) _

theorem walkRelation_course : ∀ x : Relation, c.holds (walkRelation v x) x.refill x.nodes
  | .table _ _ args _ _ label hints =>
    c.bind (walkOptAlias_course label) fun _ => c.bind (walkOptArgs_course args) fun _ =>
      c.last (walkExprs_course hints) _
  | .derived _ query label => c.bind (walkQuery_course query) fun _ => c.last (walkOptAlias_course label) _
  | .function e label => c.bind (walkExpr_course e) fun _ => c.last (walkOptAlias_course label) _
  | .nested inner label => c.bind (walkFromItem_course inner) fun _ => c.last (walkOptAlias_course label) _
  | .unnest arrays _ _ label => c.bind (walkOptAlias_course label) fun _ => c.last (walkExprs_course arrays) _
  | .phrase phrase label => c.bind (walkPhrase_course phrase) fun _ => c.last (walkOptAlias_course label) _

theorem walkOptArgs_course : ∀ x : Option (List Arg), c.holds (walkOptArgs v x) (refillOptArgs x) (optArgNodes x)
  | none => c.pure _
  | some args => c.last (walkArgs_course args) _

theorem walkJoin_course : ∀ x : Join, c.holds (walkJoin v x) x.refill x.nodes
  | ⟨_, _, relation, matching, constraint⟩ =>
    c.bind (walkRelation_course relation) fun _ => c.bind (walkOptExpr_course matching) fun _ =>
      c.last (walkConstraint_course constraint) _

theorem walkJoins_course : ∀ x : List Join, c.holds (walkJoins v x) (refillJoins x) (joinNodes x)
  | [] => c.pure _
  | j :: js => c.bind (walkJoin_course j) fun _ => c.last (walkJoins_course js) _

theorem walkConstraint_course : ∀ x : JoinConstraint, c.holds (walkConstraint v x) x.refill x.nodes
  | .none => c.pure _
  | .natural => c.pure _
  | .on condition => c.last (walkExpr_course condition) _
  | .using _ => c.pure _

theorem walkPhrase_course : ∀ x : Phrase, c.holds (walkPhrase v x) x.refill x.nodes
  | ⟨_, _, parts⟩ => c.last (walkParts_course parts) _

theorem walkOptPhrase_course : ∀ x : Option Phrase, c.holds (walkOptPhrase v x) (refillOptPhrase x) (optPhraseNodes x)
  | none => c.pure _
  | some p => c.last (walkPhrase_course p) _

theorem walkPhrases_course : ∀ x : List Phrase, c.holds (walkPhrases v x) (refillPhrases x) (phraseNodes x)
  | [] => c.pure _
  | p :: ps => c.bind (walkPhrase_course p) fun _ => c.last (walkPhrases_course ps) _

theorem walkPart_course : ∀ x : Part, c.holds (walkPart v x) x.refill x.nodes
  | .expr e => c.last (walkExpr_course e) _
  | .arg a => c.last (walkArg_course a) _
  | .order o => c.last (walkOrderItem_course o) _
  | .query q => c.last (walkQuery_course q) _
  | .item i => c.last (walkSelectItem_course i) _
  | .source f => c.last (walkFromItem_course f) _
  | .relation r => c.last (walkRelation_course r) _
  | .phrase p => c.last (walkPhrase_course p) _

theorem walkParts_course : ∀ x : List Part, c.holds (walkParts v x) (refillParts x) (partNodes x)
  | [] => c.pure _
  | p :: ps => c.bind (walkPart_course p) fun _ => c.last (walkParts_course ps) _

end

/-- A statement is walked through its nodes. -/
theorem walkStatement_course (s : Statement) : c.holds (walkStatement v s) s.refill s.nodes := by
  induction s with
  | query q => exact c.last (c.walkQuery_course q) _
  | explain word analyze verbose queryPlan format options inner ih =>
    exact c.bind ih fun _ => c.last (c.walkOptPhrase_course options) _
  | explainTable word format tableWord name => exact c.pure _
  | command phrase => exact c.last (c.walkPhrase_course phrase) _

/-- What is below an expression or a query is walked through its nodes. -/
theorem walkInside_course (n : Node) :
    match n with
    | .expr e => c.holds (walkInside v e) e.refill e.children
    | .query q => c.holds (walkWithin v q) q.refill q.children := by
  -- a course that keeps what is known of the nodes that it passes
  let c' : Course v :=
    { holds := fun x y ns => c.holds x y ns ∧ ∀ n ∈ ns, match n with
        | .expr e => c.holds (walkInside v e) e.refill e.children
        | .query q => c.holds (walkWithin v q) q.refill q.children
      pure := fun a => ⟨c.pure a, by simp⟩
      bind := by
        intro α β x y f g ns ns' hx hf
        refine ⟨c.bind hx.1 fun a => (hf a).1, fun n hn => ?_⟩
        rcases List.mem_append.1 hn with hn | hn
        · exact hx.2 n hn
        · exact (hf (y []).1).2 n hn
      expr := by
        intro e h
        refine ⟨c.expr e h.1, fun n hn => ?_⟩
        rw [List.mem_singleton.1 hn]
        exact h.1
      query := by
        intro q h
        refine ⟨c.query q h.1, fun n hn => ?_⟩
        rw [List.mem_singleton.1 hn]
        exact h.1 }
  cases n with
  | expr e => exact (c'.walkExpr_course e).2 _ List.mem_cons_self
  | query q => exact (c'.walkQuery_course q).2 _ List.mem_cons_self

end Course

/-! ## The induction over nodes -/

/-- What holds of a node if it holds of those right below it, holds of every node. -/
theorem node_induction {P : Node → Prop} (h : ∀ n : Node, (∀ c ∈ n.children, P c) → P n) (n : Node) : P n := by
  let c : Course (substituter fun _ e => e) :=
    { holds := fun _ _ ns => ∀ n ∈ ns, P n
      pure := by simp
      bind := by
        intro α β x y f g ns ns' hx hf n hn
        rcases List.mem_append.1 hn with hn | hn
        · exact hx n hn
        · exact hf (y []).1 n hn
      expr := by
        intro e he n hn
        rw [List.mem_singleton.1 hn]
        exact h (.expr e) he
      query := by
        intro q hq n hn
        rw [List.mem_singleton.1 hn]
        exact h (.query q) hq }
  cases n with
  | expr e => exact c.walkExpr_course e _ List.mem_cons_self
  | query q => exact c.walkQuery_course q _ List.mem_cons_self

/-- A node is reached from those below it. -/
theorem acc_node (n : Node) : Acc (fun c n : Node => c ∈ n.children) n :=
  node_induction (fun n ih => Acc.intro n ih) n

instance : WellFoundedRelation Node where
  rel c n := c ∈ n.children
  wf := ⟨acc_node⟩

/-! ## Walking node by node -/

section

variable {m : Type → Type} [Monad m] (v : Visitor m)

/-- Walks a node. -/
def walkNode : Node → m Node
  | .expr e => do
    let e ← walkExpr v e
    pure (.expr e)
  | .query q => do
    let q ← walkQuery v q
    pure (.query q)

/-- Walks nodes in order. -/
def walkNodes : List Node → m (List Node)
  | [] => pure []
  | n :: ns => do
    let n ← walkNode v n
    let ns ← walkNodes ns
    pure (n :: ns)

theorem walkNodes_append [LawfulMonad m] (ns ns' : List Node) :
    walkNodes v (ns ++ ns') = walkNodes v ns >>= fun as => walkNodes v ns' >>= fun bs => pure (as ++ bs) := by
  induction ns with
  | nil => simp [walkNodes]
  | cons n ns ih => simp [walkNodes, ih]

/-- A walk walks its nodes in order, and puts what comes of them in their place. The nodes are taken from the front of
a list, so that what is left of it goes on to the next part of the tree. -/
def byNodes [LawfulMonad m] : Course v where
  holds x y ns :=
    (walkNodes v ns >>= fun as => pure fun rest => y (as ++ rest)) = x >>= fun a => pure fun rest => (a, rest)
  pure a := by simp [walkNodes]; rfl
  bind := by
    intro α β x y f g ns ns' hx hf
    have hbind : ∀ ns, (y >>= g) ns = g (y ns).1 (y ns).2 := fun _ => rfl
    calc (walkNodes v (ns ++ ns') >>= fun cs => pure fun rest => (y >>= g) (cs ++ rest))
        = (walkNodes v ns >>= fun as => pure fun rest => y (as ++ rest)) >>= fun take =>
            walkNodes v ns' >>= fun bs => pure fun rest => g (take (bs ++ rest)).1 (take (bs ++ rest)).2 := by
          simp [walkNodes_append, hbind]
      _ = x >>= fun a => walkNodes v ns' >>= fun bs => pure fun rest => g a (bs ++ rest) := by
          simp [hx]
      _ = x >>= f >>= fun b => pure fun rest => (b, rest) := by
          simp [hf]
  expr e _ := by
    simp [walkNodes, walkNode, takeExpr]
  query q _ := by
    simp [walkNodes, walkNode, takeQuery]

end

section

variable {m : Type → Type} [Monad m] [LawfulMonad m] {v : Visitor m}

/-- A computation that walks nodes, and what comes after it. -/
theorem bind_of_byNodes {α β : Type} {x : m α} {y : Refill α} {ns : List Node} (h : (byNodes v).holds x y ns)
    (k : α → m β) : x >>= k = walkNodes v ns >>= fun as => k (y as).1 := by
  have := congrArg (· >>= fun take => k (take []).1) h
  simpa using this.symm

variable (v)

/-- An expression is visited when the nodes below it have been walked and put in their place. -/
theorem walkNode_expr (e : Expr) :
    walkNode v (.expr e) = walkNodes v e.children >>= fun ns => Node.expr <$> v.expr (e.refill ns).1 := by
  have hwalk : walkNode v (.expr e) = walkInside v e >>= fun e => Node.expr <$> v.expr e := by
    simp [walkNode, walkExpr_eq]
  rw [hwalk]
  exact bind_of_byNodes ((byNodes v).walkInside_course (.expr e)) _

/-- The placeholders of a query are visited before the nodes below it are walked and put in their place. -/
theorem walkNode_query (q : Query) :
    walkNode v (.query q) =
      v.ctes q.ctes >>= fun _ => walkNodes v q.children >>= fun ns => pure (.query (q.refill ns).1) := by
  have hwalk : walkNode v (.query q) = v.ctes q.ctes >>= fun _ => walkWithin v q >>= fun q => pure (.query q) := by
    simp [walkNode, walkQuery_eq]
  rw [hwalk]
  exact bind_congr fun _ => bind_of_byNodes ((byNodes v).walkInside_course (.query q)) _

theorem walkStatement_eq (s : Statement) :
    walkStatement v s = walkNodes v s.nodes >>= fun ns => pure (s.refill ns).1 := by
  have h := bind_of_byNodes ((byNodes v).walkStatement_course s) pure
  simpa using h

end

/-! ## Refilling with what is there -/

/-- A walk that replaces nothing changes nothing. -/
theorem rewriteExpr_id (e : Expr) : rewriteExpr (fun _ e => e) e = e := by
  induction e using parts_induction with
  | h e ih =>
    rw [rewriteExpr_eq, rewriteInside_eq_mapParts, e.mapParts_eq_self ih, replaced]
    split <;> rfl

theorem walkNode_id (n : Node) : walkNode (substituter fun _ e => e) n = n := by
  cases n with
  | expr e => exact congrArg Node.expr (rewriteExpr_id e)
  | query q =>
    refine congrArg Node.query ((walkQuery_substituter _ q).trans ?_)
    exact q.mapExprs_eq_self fun p _ => rewriteExpr_id p

theorem walkNodes_id (ns : List Node) : walkNodes (substituter fun _ e => e) ns = ns := by
  induction ns with
  | nil => rfl
  | cons n ns ih =>
    calc walkNodes (substituter fun _ e => e) (n :: ns)
        = (walkNode (substituter fun _ e => e) n : Node) :: (walkNodes (substituter fun _ e => e) ns : List Node) := rfl
      _ = n :: ns := by rw [walkNode_id, ih]

/-- The nodes below a node, put in their own place, change nothing. -/
theorem refill_children (n : Node) : n.refill n.children = n := by
  cases n with
  | expr e =>
    have h := bind_of_byNodes ((byNodes (substituter fun _ e => e)).walkInside_course (.expr e)) pure
    have hid : rewriteInside (fun _ e => e) e = e := by
      rw [rewriteInside_eq_mapParts, e.mapParts_eq_self fun p _ => rewriteExpr_id p]
    rw [walkNodes_id] at h
    exact congrArg Node.expr (h.symm.trans hid)
  | query q =>
    have h := bind_of_byNodes ((byNodes (substituter fun _ e => e)).walkInside_course (.query q)) pure
    have hwithin : walkWithin (substituter fun _ e => e) q = walkQuery (substituter fun _ e => e) q :=
      (walkQuery_eq (substituter fun _ e => e) q).symm
    rw [walkNodes_id] at h
    exact congrArg Node.query (h.symm.trans (hwithin.trans (Node.query.inj (walkNode_id (.query q)))))

theorem refill_nodes (s : Statement) : (s.refill s.nodes).1 = s := by
  have h := walkStatement_eq (substituter fun _ e => e) s
  rw [walkNodes_id] at h
  refine h.symm.trans ((rewriteStatement_eq_mapExprs _ s).trans ?_)
  exact s.mapExprs_eq_self fun p _ => rewriteExpr_id p

end Macro

end SqlTemplate
