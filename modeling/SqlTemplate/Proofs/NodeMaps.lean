import SqlTemplate.Proofs.Visits

/-!
# The nodes of a tree with other expressions

Other expressions in the place of the outermost ones of a tree change its nodes one by one: an expression below it gives
way to another one, and a query below it keeps its own shape. So do the named queries of a query, which keep their names.

* `Node.map`: a node with other expressions in it.
* `Query.children_mapExprs`, `Expr.children_mapParts`, `Statement.nodes_mapExprs`: the nodes of a tree that has changed.
-/

namespace SqlTemplate.Sql

variable (f : Expr → Expr)

/-- An expression gives way to another one, a query keeps its shape. -/
def Node.map : Node → Node
  | .expr e => .expr (f e)
  | .query q => .query (q.mapExprs f)

theorem mapped {as bs ns ns' : List Node} (h : as = ns.map (Node.map f)) (h' : bs = ns'.map (Node.map f)) :
    as ++ bs = (ns ++ ns').map (Node.map f) := by
  rw [h, h', List.map_append]

theorem mapped_list (es : List Expr) : (es.map f).map Node.expr = (es.map Node.expr).map (Node.map f) := by
  simp [Node.map]

theorem mapped_option (e : Option Expr) :
    (e.map f).toList.map Node.expr = (e.toList.map Node.expr).map (Node.map f) := by
  cases e <;> rfl

mutual

theorem ArgList.nodes_mapExprs : ∀ x : ArgList, (x.mapExprs f).nodes = x.nodes.map (Node.map f)
  | ⟨_, args, clauses⟩ => mapped f (nodes_mapArgs args) (nodes_mapPhrases clauses)

theorem Arg.nodes_mapExprs : ∀ x : Arg, (x.mapExprs f).nodes = x.nodes.map (Node.map f)
  | .expr _ _ => rfl
  | .wildcard _ _ => rfl

theorem nodes_mapArgs : ∀ x : List Arg, argNodes (mapArgs f x) = (argNodes x).map (Node.map f)
  | [] => rfl
  | a :: as => mapped f a.nodes_mapExprs (nodes_mapArgs as)

theorem OrderItem.nodes_mapExprs : ∀ x : OrderItem, (x.mapExprs f).nodes = x.nodes.map (Node.map f)
  | ⟨_, _, _, fill⟩ => mapped f rfl (nodes_mapOptPhrase fill)

theorem nodes_mapOrder : ∀ x : List OrderItem, orderNodes (mapOrder f x) = (orderNodes x).map (Node.map f)
  | [] => rfl
  | o :: os => mapped f o.nodes_mapExprs (nodes_mapOrder os)

theorem ColumnDef.nodes_mapExprs : ∀ x : ColumnDef, (x.mapExprs f).nodes = x.nodes.map (Node.map f)
  | ⟨_, type⟩ => nodes_mapOptPhrase type

theorem nodes_mapColumnDefs :
    ∀ x : List ColumnDef, columnDefNodes (mapColumnDefs f x) = (columnDefNodes x).map (Node.map f)
  | [] => rfl
  | c :: cs => mapped f c.nodes_mapExprs (nodes_mapColumnDefs cs)

theorem TableAlias.nodes_mapExprs : ∀ x : TableAlias, (x.mapExprs f).nodes = x.nodes.map (Node.map f)
  | ⟨_, columns⟩ => nodes_mapColumnDefs columns

theorem nodes_mapOptAlias :
    ∀ x : Option TableAlias, optAliasNodes (mapOptAlias f x) = (optAliasNodes x).map (Node.map f)
  | none => rfl
  | some label => label.nodes_mapExprs

theorem Cte.nodes_mapExprs : ∀ x : Cte, (x.mapExprs f).nodes = x.nodes.map (Node.map f)
  | ⟨label, _, _, _⟩ => mapped f label.nodes_mapExprs rfl

theorem nodes_mapCtes : ∀ x : List Cte, cteNodes (mapCtes f x) = (cteNodes x).map (Node.map f)
  | [] => rfl
  | c :: cs => mapped f c.nodes_mapExprs (nodes_mapCtes cs)

theorem Body.nodes_mapExprs : ∀ x : Body, (x.mapExprs f).nodes = x.nodes.map (Node.map f)
  | .select s => s.nodes_mapExprs
  | .query _ => rfl
  | .setOperation _ _ left right => mapped f left.nodes_mapExprs right.nodes_mapExprs
  | .values _ rows => nodes_mapRows rows
  | .table _ _ => rfl
  | .command _ phrase => phrase.nodes_mapExprs

theorem nodes_mapRows : ∀ x : List (List Expr), rowNodes (mapRows f x) = (rowNodes x).map (Node.map f)
  | [] => rfl
  | row :: rows => mapped f (mapped_list f row) (nodes_mapRows rows)

theorem Select.nodes_mapExprs : ∀ x : Select, (x.mapExprs f).nodes = x.nodes.map (Node.map f)
  | ⟨_, distinct, top, items, _, from_, lateralViews, prewhere, where_, _, groupBy, _, clusterBy, distributeBy, sortBy,
      having, windows, qualify, _, connectBy⟩ =>
    mapped f (nodes_mapOptPhrase distinct) (mapped f (nodes_mapOptPhrase top) (mapped f (nodes_mapSelectItems items)
      (mapped f (nodes_mapFrom from_) (mapped f (nodes_mapPhrases lateralViews) (mapped f (mapped_option f prewhere)
        (mapped f (mapped_option f where_) (mapped f (mapped_list f groupBy) (mapped f (mapped_list f clusterBy)
          (mapped f (mapped_list f distributeBy) (mapped f (mapped_list f sortBy) (mapped f (mapped_option f having)
            (mapped f (nodes_mapPhrases windows) (mapped f (mapped_option f qualify)
              (nodes_mapOptPhrase connectBy))))))))))))))

theorem SelectItem.nodes_mapExprs : ∀ x : SelectItem, (x.mapExprs f).nodes = x.nodes.map (Node.map f)
  | .expr _ _ => rfl
  | .wildcard _ _ options => nodes_mapOptPhrase options

theorem nodes_mapSelectItems :
    ∀ x : List SelectItem, selectItemNodes (mapSelectItems f x) = (selectItemNodes x).map (Node.map f)
  | [] => rfl
  | i :: is => mapped f i.nodes_mapExprs (nodes_mapSelectItems is)

theorem FromItem.nodes_mapExprs : ∀ x : FromItem, (x.mapExprs f).nodes = x.nodes.map (Node.map f)
  | ⟨relation, joins⟩ => mapped f relation.nodes_mapExprs (nodes_mapJoins joins)

theorem nodes_mapFrom : ∀ x : List FromItem, fromNodes (mapFrom f x) = (fromNodes x).map (Node.map f)
  | [] => rfl
  | x :: xs => mapped f x.nodes_mapExprs (nodes_mapFrom xs)

theorem Relation.nodes_mapExprs : ∀ x : Relation, (x.mapExprs f).nodes = x.nodes.map (Node.map f)
  | .table _ _ args _ _ label hints =>
    mapped f (nodes_mapOptAlias label) (mapped f (nodes_mapOptArgs args) (mapped_list f hints))
  | .derived _ _ label => mapped f rfl (nodes_mapOptAlias label)
  | .function _ label => mapped f rfl (nodes_mapOptAlias label)
  | .nested inner label => mapped f inner.nodes_mapExprs (nodes_mapOptAlias label)
  | .unnest arrays _ _ label => mapped f (nodes_mapOptAlias label) (mapped_list f arrays)
  | .phrase phrase label => mapped f phrase.nodes_mapExprs (nodes_mapOptAlias label)

theorem nodes_mapOptArgs :
    ∀ x : Option (List Arg), optArgNodes (mapOptArgs f x) = (optArgNodes x).map (Node.map f)
  | none => rfl
  | some args => nodes_mapArgs args

theorem Join.nodes_mapExprs : ∀ x : Join, (x.mapExprs f).nodes = x.nodes.map (Node.map f)
  | ⟨_, _, relation, matching, constraint⟩ =>
    mapped f relation.nodes_mapExprs (mapped f (mapped_option f matching) constraint.nodes_mapExprs)

theorem nodes_mapJoins : ∀ x : List Join, joinNodes (mapJoins f x) = (joinNodes x).map (Node.map f)
  | [] => rfl
  | j :: js => mapped f j.nodes_mapExprs (nodes_mapJoins js)

theorem JoinConstraint.nodes_mapExprs : ∀ x : JoinConstraint, (x.mapExprs f).nodes = x.nodes.map (Node.map f)
  | .none => rfl
  | .natural => rfl
  | .on _ => rfl
  | .using _ => rfl

theorem Phrase.nodes_mapExprs : ∀ x : Phrase, (x.mapExprs f).nodes = x.nodes.map (Node.map f)
  | ⟨_, _, parts⟩ => nodes_mapPartList parts

theorem nodes_mapOptPhrase :
    ∀ x : Option Phrase, optPhraseNodes (mapOptPhrase f x) = (optPhraseNodes x).map (Node.map f)
  | none => rfl
  | some p => p.nodes_mapExprs

theorem nodes_mapPhrases : ∀ x : List Phrase, phraseNodes (mapPhrases f x) = (phraseNodes x).map (Node.map f)
  | [] => rfl
  | p :: ps => mapped f p.nodes_mapExprs (nodes_mapPhrases ps)

theorem Part.nodes_mapExprs : ∀ x : Part, (x.mapExprs f).nodes = x.nodes.map (Node.map f)
  | .expr _ => rfl
  | .arg a => a.nodes_mapExprs
  | .order o => o.nodes_mapExprs
  | .query _ => rfl
  | .item i => i.nodes_mapExprs
  | .source x => x.nodes_mapExprs
  | .relation r => r.nodes_mapExprs
  | .phrase p => p.nodes_mapExprs

theorem nodes_mapPartList : ∀ x : List Part, partNodes (mapPartList f x) = (partNodes x).map (Node.map f)
  | [] => rfl
  | p :: ps => mapped f p.nodes_mapExprs (nodes_mapPartList ps)

end

theorem nodes_mapOptArgList (x : Option ArgList) :
    optArgListNodes (mapOptArgList f x) = (optArgListNodes x).map (Node.map f) := by
  cases x with
  | none => rfl
  | some a => exact a.nodes_mapExprs f

/-- The nodes below a query with other expressions in it. -/
theorem Query.children_mapExprs (q : Query) : (q.mapExprs f).children = q.children.map (Node.map f) := by
  obtain ⟨_, _, ctes, body, orderBy, interpolate, limit, limitBy, offset, _, _, _, _⟩ := q
  exact mapped f (nodes_mapCtes f ctes) (mapped f (body.nodes_mapExprs f) (mapped f (nodes_mapOrder f orderBy)
    (mapped f (nodes_mapOptPhrase f interpolate) (mapped f (mapped_option f limit)
      (mapped f (mapped_list f limitBy) (mapped_option f offset))))))

/-- The nodes below an expression with other parts. -/
theorem Expr.children_mapParts (e : Expr) : (e.mapParts f).children = e.children.map (Node.map f) := by
  cases e with
  | typedString type text => exact type.nodes_mapExprs f
  | inList operand items negated => exact congrArg (List.cons _) (mapped_list f items)
  | case operand conditions results otherwise =>
    exact mapped f (mapped_option f operand) (mapped f (mapped_list f conditions)
      (mapped f (mapped_list f results) (mapped_option f otherwise)))
  | cast style operand type => exact congrArg (List.cons _) (type.nodes_mapExprs f)
  | tuple items => exact mapped_list f items
  | array items named => exact mapped_list f items
  | element operand keys => exact congrArg (List.cons _) (mapped_list f keys)
  | call name parameters args style window withinGroup =>
    exact mapped f (nodes_mapOptArgList f parameters) (mapped f (args.nodes_mapExprs f)
      (mapped f (nodes_mapOptPhrase f window) (nodes_mapOptPhrase f withinGroup)))
  | phrase p => exact p.nodes_mapExprs f
  | _ => rfl

/-- The outermost nodes of a statement with other expressions in it. -/
theorem Statement.nodes_mapExprs (s : Statement) : (s.mapExprs f).nodes = s.nodes.map (Node.map f) := by
  induction s with
  | query q => rfl
  | explain word analyze verbose queryPlan format options inner ih => exact mapped f ih (nodes_mapOptPhrase f options)
  | explainTable word format tableWord name => rfl
  | command phrase => exact phrase.nodes_mapExprs f

/-- The named queries of a query with other expressions in it. -/
theorem Query.ctes_mapExprs (q : Query) : (q.mapExprs f).ctes = q.ctes.map (Cte.mapExprs f) := by
  have hmap : ∀ cs : List Cte, mapCtes f cs = cs.map (Cte.mapExprs f) := by
    intro cs
    induction cs with
    | nil => rfl
    | cons c cs ih => exact congrArg (List.cons _) ih
  cases q with
  | mk withWord recursive ctes body orderBy interpolate limit limitBy offset offsetRows settings delivery format =>
    exact hmap ctes

end SqlTemplate.Sql
