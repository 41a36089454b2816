import SqlTemplate.Proofs.CallForms
import SqlTemplate.Proofs.Expansion

/-!
# Interpolation as a substitution

Putting other expressions in the place of the outermost ones of a tree leaves everything else in it as it is: names,
aliases, placeholders, marks and words. Interpolation is such a substitution, carried on into the expressions: one that
names no macro stays, with its parts substituted, and one that names a macro gives way to what the macro stands for
when its arguments are substituted. What is put in is not looked at again.

* `Expr.mapParts`, `Statement.mapExprs`: other expressions in the place of the outermost ones.
* `rewriteInside_eq_mapParts`, `rewriteStatement_eq_mapExprs`: a walk that replaces calls is such a substitution.
* `NamesMacro`: the expressions that are substituted.
* `interpolation_substitutes`: what comes of a template.
-/

namespace SqlTemplate

namespace Sql

variable (f : Expr → Expr)

mutual

/-- The arguments with other expressions in the place of the outermost ones. -/
def ArgList.mapExprs : ArgList → ArgList
  | ⟨repeats, args, clauses⟩ => ⟨repeats, mapArgs args, mapPhrases clauses⟩

def Arg.mapExprs : Arg → Arg
  | .expr name value => .expr name (f value)
  | .wildcard name qualifier => .wildcard name qualifier

def mapArgs : List Arg → List Arg
  | [] => []
  | a :: as => a.mapExprs :: mapArgs as

def OrderItem.mapExprs : OrderItem → OrderItem
  | ⟨expr, ascending, nullsFirst, fill⟩ => ⟨f expr, ascending, nullsFirst, mapOptPhrase fill⟩

def mapOrder : List OrderItem → List OrderItem
  | [] => []
  | o :: os => o.mapExprs :: mapOrder os

/-- The query with other expressions in the place of the outermost ones. -/
def Query.mapExprs : Query → Query
  | ⟨withWord, recursive, ctes, body, orderBy, interpolate, limit, limitBy, offset, offsetRows, settings, delivery,
      format⟩ =>
    ⟨withWord, recursive, mapCtes ctes, body.mapExprs, mapOrder orderBy, mapOptPhrase interpolate, limit.map f,
      limitBy.map f, offset.map f, offsetRows, settings, delivery, format⟩

def ColumnDef.mapExprs : ColumnDef → ColumnDef
  | ⟨name, type⟩ => ⟨name, mapOptPhrase type⟩

def mapColumnDefs : List ColumnDef → List ColumnDef
  | [] => []
  | c :: cs => c.mapExprs :: mapColumnDefs cs

def TableAlias.mapExprs : TableAlias → TableAlias
  | ⟨name, columns⟩ => ⟨name, mapColumnDefs columns⟩

def mapOptAlias : Option TableAlias → Option TableAlias
  | none => none
  | some label => some label.mapExprs

def Cte.mapExprs : Cte → Cte
  | ⟨label, query, source, closing⟩ => ⟨label.mapExprs, query.mapExprs, source, closing⟩

def mapCtes : List Cte → List Cte
  | [] => []
  | c :: cs => c.mapExprs :: mapCtes cs

/-- What produces rows, with other expressions in the place of the outermost ones. -/
def Body.mapExprs : Body → Body
  | .select s => .select s.mapExprs
  | .query q => .query q.mapExprs
  | .setOperation op quantifier left right => .setOperation op quantifier left.mapExprs right.mapExprs
  | .values explicitRow rows => .values explicitRow (mapRows rows)
  | .table schema table => .table schema table
  | .command kind phrase => .command kind phrase.mapExprs

def mapRows : List (List Expr) → List (List Expr)
  | [] => []
  | row :: rows => row.map f :: mapRows rows

/-- The selection with other expressions in the place of the outermost ones. -/
def Select.mapExprs : Select → Select
  | ⟨selectWord, distinct, top, items, into, from_, lateralViews, prewhere, where_, groupByAll, groupBy, groupModifiers,
      clusterBy, distributeBy, sortBy, having, windows, qualify, windowsFirst, connectBy⟩ =>
    ⟨selectWord, mapOptPhrase distinct, mapOptPhrase top, mapSelectItems items, into, mapFrom from_,
      mapPhrases lateralViews, prewhere.map f, where_.map f, groupByAll, groupBy.map f, groupModifiers, clusterBy.map f,
      distributeBy.map f, sortBy.map f, having.map f, mapPhrases windows, qualify.map f, windowsFirst,
      mapOptPhrase connectBy⟩

def SelectItem.mapExprs : SelectItem → SelectItem
  | .expr e label => .expr (f e) label
  | .wildcard qualifier star options => .wildcard qualifier star (mapOptPhrase options)

def mapSelectItems : List SelectItem → List SelectItem
  | [] => []
  | i :: is => i.mapExprs :: mapSelectItems is

def FromItem.mapExprs : FromItem → FromItem
  | ⟨relation, joins⟩ => ⟨relation.mapExprs, mapJoins joins⟩

def mapFrom : List FromItem → List FromItem
  | [] => []
  | x :: xs => x.mapExprs :: mapFrom xs

/-- The source of rows with other expressions in the place of the outermost ones. -/
def Relation.mapExprs : Relation → Relation
  | .table name partitions args settings ordinality label hints =>
    .table name partitions (mapOptArgs args) settings ordinality (mapOptAlias label) (hints.map f)
  | .derived lateral query label => .derived lateral query.mapExprs (mapOptAlias label)
  | .function e label => .function (f e) (mapOptAlias label)
  | .nested inner label => .nested inner.mapExprs (mapOptAlias label)
  | .unnest arrays ordinality offset label => .unnest (arrays.map f) ordinality offset (mapOptAlias label)
  | .phrase phrase label => .phrase phrase.mapExprs (mapOptAlias label)

def mapOptArgs : Option (List Arg) → Option (List Arg)
  | none => none
  | some args => some (mapArgs args)

def Join.mapExprs : Join → Join
  | ⟨kind, global, relation, matching, constraint⟩ =>
    ⟨kind, global, relation.mapExprs, matching.map f, constraint.mapExprs⟩

def mapJoins : List Join → List Join
  | [] => []
  | j :: js => j.mapExprs :: mapJoins js

def JoinConstraint.mapExprs : JoinConstraint → JoinConstraint
  | .none => .none
  | .natural => .natural
  | .on condition => .on (f condition)
  | .using columns => .using columns

/-- The phrase with other expressions in the place of the outermost ones. -/
def Phrase.mapExprs : Phrase → Phrase
  | ⟨segments, shape, parts⟩ => ⟨segments, shape, mapPartList parts⟩

def mapOptPhrase : Option Phrase → Option Phrase
  | none => none
  | some p => some p.mapExprs

def mapPhrases : List Phrase → List Phrase
  | [] => []
  | p :: ps => p.mapExprs :: mapPhrases ps

def Part.mapExprs : Part → Part
  | .expr e => .expr (f e)
  | .arg a => .arg a.mapExprs
  | .order o => .order o.mapExprs
  | .query q => .query q.mapExprs
  | .item i => .item i.mapExprs
  | .source x => .source x.mapExprs
  | .relation r => .relation r.mapExprs
  | .phrase p => .phrase p.mapExprs

def mapPartList : List Part → List Part
  | [] => []
  | p :: ps => p.mapExprs :: mapPartList ps

end

def mapOptArgList : Option ArgList → Option ArgList
  | none => none
  | some a => some (a.mapExprs f)

/-- The expression with other ones in the place of those right below it. -/
def Expr.mapParts : Expr → Expr
  | .ident name => .ident name
  | .compound name => .compound name
  | .literal value => .literal value
  | .typedString type text => .typedString (type.mapExprs f) text
  | .nested inner => .nested (f inner)
  | .unary op operand => .unary op (f operand)
  | .binary left op right => .binary (f left) op (f right)
  | .compare left op among right => .compare (f left) op among (f right)
  | .is operand property => .is (f operand) property
  | .isDistinct left right negated => .isDistinct (f left) (f right) negated
  | .inList operand items negated => .inList (f operand) (items.map f) negated
  | .inQuery operand query negated => .inQuery (f operand) (query.mapExprs f) negated
  | .between operand low high negated => .between (f operand) (f low) (f high) negated
  | .like kind operand pattern negated any escape => .like kind (f operand) (f pattern) negated any escape
  | .case operand conditions results otherwise =>
    .case (operand.map f) (conditions.map f) (results.map f) (otherwise.map f)
  | .cast style operand type => .cast style (f operand) (type.mapExprs f)
  | .exists query negated => .exists (query.mapExprs f) negated
  | .subquery query => .subquery (query.mapExprs f)
  | .tuple items => .tuple (items.map f)
  | .array items named => .array (items.map f) named
  | .subscript operand index => .subscript (f operand) (f index)
  | .element operand keys => .element (f operand) (keys.map f)
  | .interval value qualifier => .interval (f value) qualifier
  | .bareCall name => .bareCall name
  | .queryCall name query => .queryCall name (query.mapExprs f)
  | .call name parameters args style window withinGroup =>
    .call name (mapOptArgList f parameters) (args.mapExprs f) style (mapOptPhrase f window) (mapOptPhrase f withinGroup)
  | .phrase p => .phrase (p.mapExprs f)

/-- The statement with other expressions in the place of the outermost ones. -/
def Statement.mapExprs : Statement → Statement
  | .query q => .query (q.mapExprs f)
  | .explain word analyze verbose queryPlan format options inner =>
    .explain word analyze verbose queryPlan format (mapOptPhrase f options) inner.mapExprs
  | .explainTable word format tableWord name => .explainTable word format tableWord name
  | .command phrase => .command (phrase.mapExprs f)

/-! ## Expressions that stay -/

variable {f}

theorem map_eq_self {es : List Expr} (h : ∀ e ∈ es, f e = e) : es.map f = es :=
  (List.map_congr_left h).trans (List.map_id es)

theorem optMap_eq_self {e : Option Expr} (h : ∀ p ∈ e.toList, f p = p) : e.map f = e := by
  cases e with
  | none => rfl
  | some e => exact congrArg some (h e List.mem_cons_self)

/-- What holds of the members of two lists together holds of those of each. -/
theorem both {P : Expr → Prop} {es es' : List Expr} (h : ∀ p ∈ es ++ es', P p) :
    (∀ p ∈ es, P p) ∧ ∀ p ∈ es', P p :=
  ⟨fun p hp => h p (List.mem_append_left _ hp), fun p hp => h p (List.mem_append_right _ hp)⟩

mutual

theorem ArgList.mapExprs_eq_self : ∀ x : ArgList, (∀ p ∈ x.exprs, f p = p) → x.mapExprs f = x
  | ⟨_, args, clauses⟩, h => by
    rw [ArgList.mapExprs, mapArgs_eq_self args (both h).1, mapPhrases_eq_self clauses (both h).2]

theorem Arg.mapExprs_eq_self : ∀ x : Arg, (∀ p ∈ x.exprs, f p = p) → x.mapExprs f = x
  | .expr _ value, h => by rw [Arg.mapExprs, h value List.mem_cons_self]
  | .wildcard _ _, _ => rfl

theorem mapArgs_eq_self : ∀ x : List Arg, (∀ p ∈ argExprs x, f p = p) → mapArgs f x = x
  | [], _ => rfl
  | a :: as, h => by rw [mapArgs, a.mapExprs_eq_self (both h).1, mapArgs_eq_self as (both h).2]

theorem OrderItem.mapExprs_eq_self : ∀ x : OrderItem, (∀ p ∈ x.exprs, f p = p) → x.mapExprs f = x
  | ⟨expr, _, _, fill⟩, h => by
    rw [OrderItem.mapExprs, h expr List.mem_cons_self, mapOptPhrase_eq_self fill (both h).2]

theorem mapOrder_eq_self : ∀ x : List OrderItem, (∀ p ∈ orderExprs x, f p = p) → mapOrder f x = x
  | [], _ => rfl
  | o :: os, h => by rw [mapOrder, o.mapExprs_eq_self (both h).1, mapOrder_eq_self os (both h).2]

theorem Query.mapExprs_eq_self : ∀ x : Query, (∀ p ∈ x.exprs, f p = p) → x.mapExprs f = x
  | ⟨_, _, ctes, body, orderBy, interpolate, limit, limitBy, offset, _, _, _, _⟩, h => by
    obtain ⟨hctes, h⟩ := both h
    obtain ⟨hbody, h⟩ := both h
    obtain ⟨horderBy, h⟩ := both h
    obtain ⟨hinterpolate, h⟩ := both h
    obtain ⟨hlimit, h⟩ := both h
    obtain ⟨hlimitBy, hoffset⟩ := both h
    rw [Query.mapExprs, mapCtes_eq_self ctes hctes, body.mapExprs_eq_self hbody, mapOrder_eq_self orderBy horderBy,
      mapOptPhrase_eq_self interpolate hinterpolate, optMap_eq_self hlimit, map_eq_self hlimitBy,
      optMap_eq_self hoffset]

theorem ColumnDef.mapExprs_eq_self : ∀ x : ColumnDef, (∀ p ∈ x.exprs, f p = p) → x.mapExprs f = x
  | ⟨_, type⟩, h => by rw [ColumnDef.mapExprs, mapOptPhrase_eq_self type h]

theorem mapColumnDefs_eq_self : ∀ x : List ColumnDef, (∀ p ∈ columnDefExprs x, f p = p) → mapColumnDefs f x = x
  | [], _ => rfl
  | c :: cs, h => by rw [mapColumnDefs, c.mapExprs_eq_self (both h).1, mapColumnDefs_eq_self cs (both h).2]

theorem TableAlias.mapExprs_eq_self : ∀ x : TableAlias, (∀ p ∈ x.exprs, f p = p) → x.mapExprs f = x
  | ⟨_, columns⟩, h => by rw [TableAlias.mapExprs, mapColumnDefs_eq_self columns h]

theorem mapOptAlias_eq_self : ∀ x : Option TableAlias, (∀ p ∈ optAliasExprs x, f p = p) → mapOptAlias f x = x
  | none, _ => rfl
  | some label, h => by rw [mapOptAlias, label.mapExprs_eq_self h]

theorem Cte.mapExprs_eq_self : ∀ x : Cte, (∀ p ∈ x.exprs, f p = p) → x.mapExprs f = x
  | ⟨label, query, _, _⟩, h => by
    rw [Cte.mapExprs, label.mapExprs_eq_self (both h).1, query.mapExprs_eq_self (both h).2]

theorem mapCtes_eq_self : ∀ x : List Cte, (∀ p ∈ cteExprs x, f p = p) → mapCtes f x = x
  | [], _ => rfl
  | c :: cs, h => by rw [mapCtes, c.mapExprs_eq_self (both h).1, mapCtes_eq_self cs (both h).2]

theorem Body.mapExprs_eq_self : ∀ x : Body, (∀ p ∈ x.exprs, f p = p) → x.mapExprs f = x
  | .select s, h => by rw [Body.mapExprs, s.mapExprs_eq_self h]
  | .query q, h => by rw [Body.mapExprs, q.mapExprs_eq_self h]
  | .setOperation _ _ left right, h => by
    rw [Body.mapExprs, left.mapExprs_eq_self (both h).1, right.mapExprs_eq_self (both h).2]
  | .values _ rows, h => by rw [Body.mapExprs, mapRows_eq_self rows h]
  | .table _ _, _ => rfl
  | .command _ phrase, h => by rw [Body.mapExprs, phrase.mapExprs_eq_self h]

theorem mapRows_eq_self : ∀ x : List (List Expr), (∀ p ∈ rowExprs x, f p = p) → mapRows f x = x
  | [], _ => rfl
  | _ :: rows, h => by rw [mapRows, map_eq_self (both h).1, mapRows_eq_self rows (both h).2]

theorem Select.mapExprs_eq_self : ∀ x : Select, (∀ p ∈ x.exprs, f p = p) → x.mapExprs f = x
  | ⟨_, distinct, top, items, _, from_, lateralViews, prewhere, where_, _, groupBy, _, clusterBy, distributeBy, sortBy,
      having, windows, qualify, _, connectBy⟩, h => by
    obtain ⟨hdistinct, h⟩ := both h
    obtain ⟨htop, h⟩ := both h
    obtain ⟨hitems, h⟩ := both h
    obtain ⟨hfrom, h⟩ := both h
    obtain ⟨hviews, h⟩ := both h
    obtain ⟨hprewhere, h⟩ := both h
    obtain ⟨hwhere, h⟩ := both h
    obtain ⟨hgroupBy, h⟩ := both h
    obtain ⟨hclusterBy, h⟩ := both h
    obtain ⟨hdistributeBy, h⟩ := both h
    obtain ⟨hsortBy, h⟩ := both h
    obtain ⟨hhaving, h⟩ := both h
    obtain ⟨hwindows, h⟩ := both h
    obtain ⟨hqualify, hconnectBy⟩ := both h
    rw [Select.mapExprs, mapOptPhrase_eq_self distinct hdistinct, mapOptPhrase_eq_self top htop,
      mapSelectItems_eq_self items hitems, mapFrom_eq_self from_ hfrom, mapPhrases_eq_self lateralViews hviews,
      optMap_eq_self hprewhere, optMap_eq_self hwhere, map_eq_self hgroupBy, map_eq_self hclusterBy,
      map_eq_self hdistributeBy, map_eq_self hsortBy, optMap_eq_self hhaving, mapPhrases_eq_self windows hwindows,
      optMap_eq_self hqualify, mapOptPhrase_eq_self connectBy hconnectBy]

theorem SelectItem.mapExprs_eq_self : ∀ x : SelectItem, (∀ p ∈ x.exprs, f p = p) → x.mapExprs f = x
  | .expr e _, h => by rw [SelectItem.mapExprs, h e List.mem_cons_self]
  | .wildcard _ _ options, h => by rw [SelectItem.mapExprs, mapOptPhrase_eq_self options h]

theorem mapSelectItems_eq_self : ∀ x : List SelectItem, (∀ p ∈ selectItemExprs x, f p = p) → mapSelectItems f x = x
  | [], _ => rfl
  | i :: is, h => by rw [mapSelectItems, i.mapExprs_eq_self (both h).1, mapSelectItems_eq_self is (both h).2]

theorem FromItem.mapExprs_eq_self : ∀ x : FromItem, (∀ p ∈ x.exprs, f p = p) → x.mapExprs f = x
  | ⟨relation, joins⟩, h => by
    rw [FromItem.mapExprs, relation.mapExprs_eq_self (both h).1, mapJoins_eq_self joins (both h).2]

theorem mapFrom_eq_self : ∀ x : List FromItem, (∀ p ∈ fromExprs x, f p = p) → mapFrom f x = x
  | [], _ => rfl
  | x :: xs, h => by rw [mapFrom, x.mapExprs_eq_self (both h).1, mapFrom_eq_self xs (both h).2]

theorem Relation.mapExprs_eq_self : ∀ x : Relation, (∀ p ∈ x.exprs, f p = p) → x.mapExprs f = x
  | .table _ _ args _ _ label hints, h => by
    obtain ⟨hlabel, h⟩ := both h
    rw [Relation.mapExprs, mapOptArgs_eq_self args (both h).1, mapOptAlias_eq_self label hlabel, map_eq_self (both h).2]
  | .derived _ query label, h => by
    rw [Relation.mapExprs, query.mapExprs_eq_self (both h).1, mapOptAlias_eq_self label (both h).2]
  | .function e label, h => by
    rw [Relation.mapExprs, h e List.mem_cons_self, mapOptAlias_eq_self label (both h).2]
  | .nested inner label, h => by
    rw [Relation.mapExprs, inner.mapExprs_eq_self (both h).1, mapOptAlias_eq_self label (both h).2]
  | .unnest arrays _ _ label, h => by
    rw [Relation.mapExprs, mapOptAlias_eq_self label (both h).1, map_eq_self (both h).2]
  | .phrase phrase label, h => by
    rw [Relation.mapExprs, phrase.mapExprs_eq_self (both h).1, mapOptAlias_eq_self label (both h).2]

theorem mapOptArgs_eq_self : ∀ x : Option (List Arg), (∀ p ∈ optArgExprs x, f p = p) → mapOptArgs f x = x
  | none, _ => rfl
  | some args, h => by rw [mapOptArgs, mapArgs_eq_self args h]

theorem Join.mapExprs_eq_self : ∀ x : Join, (∀ p ∈ x.exprs, f p = p) → x.mapExprs f = x
  | ⟨_, _, relation, matching, constraint⟩, h => by
    obtain ⟨hrelation, h⟩ := both h
    rw [Join.mapExprs, relation.mapExprs_eq_self hrelation, optMap_eq_self (both h).1,
      constraint.mapExprs_eq_self (both h).2]

theorem mapJoins_eq_self : ∀ x : List Join, (∀ p ∈ joinExprs x, f p = p) → mapJoins f x = x
  | [], _ => rfl
  | j :: js, h => by rw [mapJoins, j.mapExprs_eq_self (both h).1, mapJoins_eq_self js (both h).2]

theorem JoinConstraint.mapExprs_eq_self : ∀ x : JoinConstraint, (∀ p ∈ x.exprs, f p = p) → x.mapExprs f = x
  | .none, _ => rfl
  | .natural, _ => rfl
  | .on condition, h => by rw [JoinConstraint.mapExprs, h condition List.mem_cons_self]
  | .using _, _ => rfl

theorem Phrase.mapExprs_eq_self : ∀ x : Phrase, (∀ p ∈ x.exprs, f p = p) → x.mapExprs f = x
  | ⟨_, _, parts⟩, h => by rw [Phrase.mapExprs, mapPartList_eq_self parts h]

theorem mapOptPhrase_eq_self : ∀ x : Option Phrase, (∀ p ∈ optPhraseExprs x, f p = p) → mapOptPhrase f x = x
  | none, _ => rfl
  | some p, h => by rw [mapOptPhrase, p.mapExprs_eq_self h]

theorem mapPhrases_eq_self : ∀ x : List Phrase, (∀ p ∈ phraseExprs x, f p = p) → mapPhrases f x = x
  | [], _ => rfl
  | p :: ps, h => by rw [mapPhrases, p.mapExprs_eq_self (both h).1, mapPhrases_eq_self ps (both h).2]

theorem Part.mapExprs_eq_self : ∀ x : Part, (∀ p ∈ x.exprs, f p = p) → x.mapExprs f = x
  | .expr e, h => by rw [Part.mapExprs, h e List.mem_cons_self]
  | .arg a, h => by rw [Part.mapExprs, a.mapExprs_eq_self h]
  | .order o, h => by rw [Part.mapExprs, o.mapExprs_eq_self h]
  | .query q, h => by rw [Part.mapExprs, q.mapExprs_eq_self h]
  | .item i, h => by rw [Part.mapExprs, i.mapExprs_eq_self h]
  | .source x, h => by rw [Part.mapExprs, x.mapExprs_eq_self h]
  | .relation r, h => by rw [Part.mapExprs, r.mapExprs_eq_self h]
  | .phrase p, h => by rw [Part.mapExprs, p.mapExprs_eq_self h]

theorem mapPartList_eq_self : ∀ x : List Part, (∀ p ∈ partExprs x, f p = p) → mapPartList f x = x
  | [], _ => rfl
  | p :: ps, h => by rw [mapPartList, p.mapExprs_eq_self (both h).1, mapPartList_eq_self ps (both h).2]

end

theorem mapOptArgList_eq_self {x : Option ArgList} (h : ∀ p ∈ optArgListExprs x, f p = p) : mapOptArgList f x = x := by
  cases x with
  | none => rfl
  | some a => rw [mapOptArgList, a.mapExprs_eq_self h]

/-- An expression whose parts stay is the same. -/
theorem Expr.mapParts_eq_self {e : Expr} (h : ∀ p ∈ e.parts, f p = p) : e.mapParts f = e := by
  cases e with
  | ident name => rfl
  | compound name => rfl
  | literal value => rfl
  | bareCall name => rfl
  | typedString type text => rw [mapParts, type.mapExprs_eq_self h]
  | nested inner => rw [mapParts, h inner (by simp [parts])]
  | unary op operand => rw [mapParts, h operand (by simp [parts])]
  | is operand property => rw [mapParts, h operand (by simp [parts])]
  | interval value qualifier => rw [mapParts, h value (by simp [parts])]
  | binary left op right => rw [mapParts, h left (by simp [parts]), h right (by simp [parts])]
  | compare left op among right => rw [mapParts, h left (by simp [parts]), h right (by simp [parts])]
  | isDistinct left right negated => rw [mapParts, h left (by simp [parts]), h right (by simp [parts])]
  | like kind operand pattern negated any escape =>
    rw [mapParts, h operand (by simp [parts]), h pattern (by simp [parts])]
  | subscript operand index => rw [mapParts, h operand (by simp [parts]), h index (by simp [parts])]
  | between operand low high negated =>
    rw [mapParts, h operand (by simp [parts]), h low (by simp [parts]), h high (by simp [parts])]
  | inList operand items negated =>
    obtain ⟨hoperand, hitems⟩ := List.forall_mem_cons.1 h
    rw [mapParts, hoperand, map_eq_self hitems]
  | element operand keys =>
    obtain ⟨hoperand, hkeys⟩ := List.forall_mem_cons.1 h
    rw [mapParts, hoperand, map_eq_self hkeys]
  | inQuery operand query negated =>
    obtain ⟨hoperand, hquery⟩ := List.forall_mem_cons.1 h
    rw [mapParts, hoperand, query.mapExprs_eq_self hquery]
  | cast style operand type =>
    obtain ⟨hoperand, htype⟩ := List.forall_mem_cons.1 h
    rw [mapParts, hoperand, type.mapExprs_eq_self htype]
  | case operand conditions results otherwise =>
    obtain ⟨hoperand, h⟩ := both h
    obtain ⟨hconditions, h⟩ := both h
    obtain ⟨hresults, hotherwise⟩ := both h
    rw [mapParts, optMap_eq_self hoperand, map_eq_self hconditions, map_eq_self hresults, optMap_eq_self hotherwise]
  | «exists» query negated => rw [mapParts, query.mapExprs_eq_self h]
  | subquery query => rw [mapParts, query.mapExprs_eq_self h]
  | queryCall name query => rw [mapParts, query.mapExprs_eq_self h]
  | tuple items => exact congrArg tuple (map_eq_self h)
  | array items named => exact congrArg (array · named) (map_eq_self h)
  | call name parameters args style window withinGroup =>
    obtain ⟨hparameters, h⟩ := both h
    obtain ⟨hargs, h⟩ := both h
    obtain ⟨hwindow, hgroup⟩ := both h
    rw [mapParts, mapOptArgList_eq_self hparameters, args.mapExprs_eq_self hargs, mapOptPhrase_eq_self window hwindow,
      mapOptPhrase_eq_self withinGroup hgroup]
  | phrase p => rw [mapParts, p.mapExprs_eq_self h]

theorem Statement.mapExprs_eq_self (s : Statement) (h : ∀ p ∈ s.exprs, f p = p) : s.mapExprs f = s := by
  induction s with
  | query q => rw [Statement.mapExprs, q.mapExprs_eq_self h]
  | explain word analyze verbose queryPlan format options inner ih =>
    rw [Statement.mapExprs, ih (both h).1, mapOptPhrase_eq_self options (both h).2]
  | explainTable word format tableWord name => rfl
  | command phrase => rw [Statement.mapExprs, phrase.mapExprs_eq_self h]

end Sql

/-! ## A walk as a substitution -/

namespace Macro

open Sql

variable (c : Invocation → Expr → Expr)

theorem walkOptExpr_substituter (e : Option Expr) : walkOptExpr (substituter c) e = e.map (rewriteExpr c) := by
  cases e <;> rfl

mutual

theorem walkArgList_substituter : ∀ x : ArgList, walkArgList (substituter c) x = x.mapExprs (rewriteExpr c)
  | ⟨_, args, clauses⟩ => by
    rw [ArgList.mapExprs, ← walkArgs_substituter args, ← walkPhrases_substituter clauses]
    rfl

theorem walkArg_substituter : ∀ x : Arg, walkArg (substituter c) x = x.mapExprs (rewriteExpr c)
  | .expr _ _ => rfl
  | .wildcard _ _ => rfl

theorem walkArgs_substituter : ∀ x : List Arg, walkArgs (substituter c) x = mapArgs (rewriteExpr c) x
  | [] => rfl
  | a :: as => by
    rw [mapArgs, ← walkArg_substituter a, ← walkArgs_substituter as]
    rfl

theorem walkOrderItem_substituter : ∀ x : OrderItem, walkOrderItem (substituter c) x = x.mapExprs (rewriteExpr c)
  | ⟨_, _, _, fill⟩ => by
    rw [OrderItem.mapExprs, ← walkOptPhrase_substituter fill]
    rfl

theorem walkOrder_substituter : ∀ x : List OrderItem, walkOrder (substituter c) x = mapOrder (rewriteExpr c) x
  | [] => rfl
  | o :: os => by
    rw [mapOrder, ← walkOrderItem_substituter o, ← walkOrder_substituter os]
    rfl

theorem walkQuery_substituter : ∀ x : Query, walkQuery (substituter c) x = x.mapExprs (rewriteExpr c)
  | ⟨_, _, ctes, body, orderBy, interpolate, limit, limitBy, offset, _, _, _, _⟩ => by
    rw [Query.mapExprs, ← walkCtes_substituter ctes, ← walkBody_substituter body, ← walkOrder_substituter orderBy,
      ← walkOptPhrase_substituter interpolate, ← exprs_walkExprs c limitBy, ← walkOptExpr_substituter c limit,
      ← walkOptExpr_substituter c offset]
    rfl

theorem walkColumnDef_substituter : ∀ x : ColumnDef, walkColumnDef (substituter c) x = x.mapExprs (rewriteExpr c)
  | ⟨_, type⟩ => by
    rw [ColumnDef.mapExprs, ← walkOptPhrase_substituter type]
    rfl

theorem walkColumnDefs_substituter :
    ∀ x : List ColumnDef, walkColumnDefs (substituter c) x = mapColumnDefs (rewriteExpr c) x
  | [] => rfl
  | x :: xs => by
    rw [mapColumnDefs, ← walkColumnDef_substituter x, ← walkColumnDefs_substituter xs]
    rfl

theorem walkAlias_substituter : ∀ x : TableAlias, walkAlias (substituter c) x = x.mapExprs (rewriteExpr c)
  | ⟨_, columns⟩ => by
    rw [TableAlias.mapExprs, ← walkColumnDefs_substituter columns]
    rfl

theorem walkOptAlias_substituter :
    ∀ x : Option TableAlias, walkOptAlias (substituter c) x = mapOptAlias (rewriteExpr c) x
  | none => rfl
  | some label => congrArg some (walkAlias_substituter label)

theorem walkCte_substituter : ∀ x : Cte, walkCte (substituter c) x = x.mapExprs (rewriteExpr c)
  | ⟨label, query, _, _⟩ => by
    rw [Cte.mapExprs, ← walkAlias_substituter label, ← walkQuery_substituter query]
    rfl

theorem walkCtes_substituter : ∀ x : List Cte, walkCtes (substituter c) x = mapCtes (rewriteExpr c) x
  | [] => rfl
  | x :: xs => by
    rw [mapCtes, ← walkCte_substituter x, ← walkCtes_substituter xs]
    rfl

theorem walkBody_substituter : ∀ x : Body, walkBody (substituter c) x = x.mapExprs (rewriteExpr c)
  | .select s => congrArg Body.select (walkSelect_substituter s)
  | .query q => congrArg Body.query (walkQuery_substituter q)
  | .setOperation _ _ left right => by
    rw [Body.mapExprs, ← walkBody_substituter left, ← walkBody_substituter right]
    rfl
  | .values _ rows => congrArg (Body.values _) (walkRows_substituter rows)
  | .table _ _ => rfl
  | .command _ phrase => congrArg (Body.command _) (walkPhrase_substituter phrase)

theorem walkRows_substituter : ∀ x : List (List Expr), walkRows (substituter c) x = mapRows (rewriteExpr c) x
  | [] => rfl
  | row :: rows => by
    rw [mapRows, ← exprs_walkExprs c row, ← walkRows_substituter rows]
    rfl

theorem walkSelect_substituter : ∀ x : Select, walkSelect (substituter c) x = x.mapExprs (rewriteExpr c)
  | ⟨_, distinct, top, items, _, from_, lateralViews, prewhere, where_, _, groupBy, _, clusterBy, distributeBy, sortBy,
      having, windows, qualify, _, connectBy⟩ => by
    rw [Select.mapExprs, ← walkOptPhrase_substituter distinct, ← walkOptPhrase_substituter top,
      ← walkSelectItems_substituter items, ← walkFrom_substituter from_, ← walkPhrases_substituter lateralViews,
      ← walkOptExpr_substituter c prewhere, ← walkOptExpr_substituter c where_, ← exprs_walkExprs c groupBy,
      ← exprs_walkExprs c clusterBy, ← exprs_walkExprs c distributeBy, ← exprs_walkExprs c sortBy,
      ← walkOptExpr_substituter c having, ← walkPhrases_substituter windows, ← walkOptExpr_substituter c qualify,
      ← walkOptPhrase_substituter connectBy]
    rfl

theorem walkSelectItem_substituter :
    ∀ x : SelectItem, walkSelectItem (substituter c) x = x.mapExprs (rewriteExpr c)
  | .expr _ _ => rfl
  | .wildcard _ _ options => congrArg (SelectItem.wildcard _ _) (walkOptPhrase_substituter options)

theorem walkSelectItems_substituter :
    ∀ x : List SelectItem, walkSelectItems (substituter c) x = mapSelectItems (rewriteExpr c) x
  | [] => rfl
  | i :: is => by
    rw [mapSelectItems, ← walkSelectItem_substituter i, ← walkSelectItems_substituter is]
    rfl

theorem walkFromItem_substituter : ∀ x : FromItem, walkFromItem (substituter c) x = x.mapExprs (rewriteExpr c)
  | ⟨relation, joins⟩ => by
    rw [FromItem.mapExprs, ← walkRelation_substituter relation, ← walkJoins_substituter joins]
    rfl

theorem walkFrom_substituter : ∀ x : List FromItem, walkFrom (substituter c) x = mapFrom (rewriteExpr c) x
  | [] => rfl
  | x :: xs => by
    rw [mapFrom, ← walkFromItem_substituter x, ← walkFrom_substituter xs]
    rfl

theorem walkRelation_substituter : ∀ x : Relation, walkRelation (substituter c) x = x.mapExprs (rewriteExpr c)
  | .table _ _ args _ _ label hints => by
    rw [Relation.mapExprs, ← walkOptAlias_substituter label, ← walkOptArgs_substituter args, ← exprs_walkExprs c hints]
    rfl
  | .derived _ query label => by
    rw [Relation.mapExprs, ← walkQuery_substituter query, ← walkOptAlias_substituter label]
    rfl
  | .function _ label => congrArg (Relation.function _) (walkOptAlias_substituter label)
  | .nested inner label => by
    rw [Relation.mapExprs, ← walkFromItem_substituter inner, ← walkOptAlias_substituter label]
    rfl
  | .unnest arrays _ _ label => by
    rw [Relation.mapExprs, ← walkOptAlias_substituter label, ← exprs_walkExprs c arrays]
    rfl
  | .phrase phrase label => by
    rw [Relation.mapExprs, ← walkPhrase_substituter phrase, ← walkOptAlias_substituter label]
    rfl

theorem walkOptArgs_substituter : ∀ x : Option (List Arg), walkOptArgs (substituter c) x = mapOptArgs (rewriteExpr c) x
  | none => rfl
  | some args => congrArg some (walkArgs_substituter args)

theorem walkJoin_substituter : ∀ x : Join, walkJoin (substituter c) x = x.mapExprs (rewriteExpr c)
  | ⟨_, _, relation, matching, constraint⟩ => by
    rw [Join.mapExprs, ← walkRelation_substituter relation, ← walkOptExpr_substituter c matching,
      ← walkConstraint_substituter constraint]
    rfl

theorem walkJoins_substituter : ∀ x : List Join, walkJoins (substituter c) x = mapJoins (rewriteExpr c) x
  | [] => rfl
  | j :: js => by
    rw [mapJoins, ← walkJoin_substituter j, ← walkJoins_substituter js]
    rfl

theorem walkConstraint_substituter :
    ∀ x : JoinConstraint, walkConstraint (substituter c) x = x.mapExprs (rewriteExpr c)
  | .none => rfl
  | .natural => rfl
  | .on _ => rfl
  | .using _ => rfl

theorem walkPhrase_substituter : ∀ x : Phrase, walkPhrase (substituter c) x = x.mapExprs (rewriteExpr c)
  | ⟨_, _, parts⟩ => congrArg (Phrase.mk _ _) (walkParts_substituter parts)

theorem walkOptPhrase_substituter :
    ∀ x : Option Phrase, walkOptPhrase (substituter c) x = mapOptPhrase (rewriteExpr c) x
  | none => rfl
  | some p => congrArg some (walkPhrase_substituter p)

theorem walkPhrases_substituter : ∀ x : List Phrase, walkPhrases (substituter c) x = mapPhrases (rewriteExpr c) x
  | [] => rfl
  | p :: ps => by
    rw [mapPhrases, ← walkPhrase_substituter p, ← walkPhrases_substituter ps]
    rfl

theorem walkPart_substituter : ∀ x : Part, walkPart (substituter c) x = x.mapExprs (rewriteExpr c)
  | .expr _ => rfl
  | .arg a => congrArg Part.arg (walkArg_substituter a)
  | .order o => congrArg Part.order (walkOrderItem_substituter o)
  | .query q => congrArg Part.query (walkQuery_substituter q)
  | .item i => congrArg Part.item (walkSelectItem_substituter i)
  | .source x => congrArg Part.source (walkFromItem_substituter x)
  | .relation r => congrArg Part.relation (walkRelation_substituter r)
  | .phrase p => congrArg Part.phrase (walkPhrase_substituter p)

theorem walkParts_substituter : ∀ x : List Part, walkParts (substituter c) x = mapPartList (rewriteExpr c) x
  | [] => rfl
  | p :: ps => by
    rw [mapPartList, ← walkPart_substituter p, ← walkParts_substituter ps]
    rfl

end

theorem walkOptArgList_substituter (x : Option ArgList) :
    walkOptArgList (substituter c) x = mapOptArgList (rewriteExpr c) x := by
  cases x with
  | none => rfl
  | some a => exact congrArg some (walkArgList_substituter c a)

/-- Replacing the calls inside an expression puts other expressions in the place of its parts. -/
theorem rewriteInside_eq_mapParts (e : Expr) : rewriteInside c e = e.mapParts (rewriteExpr c) := by
  cases e with
  | typedString type text => exact congrArg (Expr.typedString · text) (walkPhrase_substituter c type)
  | inList operand items negated => exact congrArg (Expr.inList _ · negated) (exprs_walkExprs c items)
  | inQuery operand query negated => exact congrArg (Expr.inQuery _ · negated) (walkQuery_substituter c query)
  | case operand conditions results otherwise =>
    rw [Expr.mapParts, ← walkOptExpr_substituter c operand, ← exprs_walkExprs c conditions, ← exprs_walkExprs c results,
      ← walkOptExpr_substituter c otherwise]
    rfl
  | cast style operand type => exact congrArg (Expr.cast style _) (walkPhrase_substituter c type)
  | «exists» query negated => exact congrArg (Expr.exists · negated) (walkQuery_substituter c query)
  | subquery query => exact congrArg Expr.subquery (walkQuery_substituter c query)
  | tuple items => exact congrArg Expr.tuple (exprs_walkExprs c items)
  | array items named => exact congrArg (Expr.array · named) (exprs_walkExprs c items)
  | element operand keys => exact congrArg (Expr.element _) (exprs_walkExprs c keys)
  | queryCall name query => exact congrArg (Expr.queryCall name) (walkQuery_substituter c query)
  | call name parameters args style window withinGroup =>
    rw [Expr.mapParts, ← walkOptArgList_substituter c parameters, ← walkArgList_substituter c args,
      ← walkOptPhrase_substituter c window, ← walkOptPhrase_substituter c withinGroup]
    rfl
  | phrase p => exact congrArg Expr.phrase (walkPhrase_substituter c p)
  | _ => rfl

theorem rewriteStatement_eq_mapExprs (s : Statement) : rewriteStatement c s = s.mapExprs (rewriteExpr c) := by
  induction s with
  | query q => exact congrArg Statement.query (walkQuery_substituter c q)
  | explain word analyze verbose queryPlan format options inner ih =>
    rw [Statement.mapExprs, ← ih, ← walkOptPhrase_substituter c options]
    rfl
  | explainTable word format tableWord name => rfl
  | command phrase => exact congrArg Statement.command (walkPhrase_substituter c phrase)

/-! ## The expressions that are replaced -/

/-- The expression is a name of the catalog, in one part and without quotes, with or without arguments. -/
def NamesMacro (e : Expr) : Prop :=
  ∃ name args, candidate? e = some (name, args) ∧ name.quote = none ∧ isRegistered name.text = true

theorem isRegistered_iff {name : String} : isRegistered name = true ↔ entriesOf name ≠ [] := by
  simp [isRegistered, entriesOf, List.filter_eq_nil_iff]

theorem resolve_eq_unknown_iff {name : String} {arity : Nat} :
    resolve name arity = .unknown ↔ ¬ isRegistered name = true := by
  rw [isRegistered_iff, Classical.not_not, resolve]
  cases hentries : entriesOf name with
  | nil => simp
  | cons entry entries => cases (entry :: entries).find? (·.arity == arity) <;> simp

theorem isMacroName_of_isRegistered {name : String} (h : isRegistered name = true) : isMacroName name = true := by
  obtain ⟨entry, hentry, hname⟩ := List.any_eq_true.1 h
  rw [← eq_of_beq hname]
  exact isMacroName_of_mem_catalog hentry

/-- The names of macros are what a walk takes for calls. -/
theorem callOf_eq_none_iff {e : Expr} : callOf e = none ↔ ¬ NamesMacro e := by
  unfold callOf NamesMacro
  rcases hcandidate : candidate? e with _ | ⟨name, args⟩
  · simp
  · by_cases hregistered : isRegistered name.text = true
    · have hmacro := isMacroName_of_isRegistered hregistered
      have hfound : invocationOf name args ≠ none := by
        cases args with
        | error message => simp [invocationOf, hregistered]
        | ok es =>
          have hknown : resolve name.text es.length ≠ .unknown := by simp [resolve_eq_unknown_iff, hregistered]
          cases hresolve : resolve name.text es.length <;> simp_all [invocationOf]
      cases hquote : name.quote <;> simp [hquote, hmacro, hregistered, hfound]
    · have hnone : invocationOf name args = none := by
        cases args with
        | error message => simp [invocationOf, hregistered]
        | ok es => simp [invocationOf, resolve_eq_unknown_iff.2 hregistered]
      simp [hregistered, hnone]

end Macro

open Sql Macro

variable {dialect : Dialect} {request : Request}

theorem not_hasCall_iff {e : Expr} : ¬ HasCall e ↔ callOf e = none ∧ ∀ p ∈ e.parts, ¬ HasCall p := by
  rw [hasCall_iff, not_or, Classical.not_not, not_exists]
  simp only [not_and]

theorem rewriteExpr_eq_self {c : Invocation → Expr → Expr} {e : Expr} (h : ¬ HasCall e) : rewriteExpr c e = e := by
  induction e using parts_induction with
  | h e ih =>
    obtain ⟨hcall, hparts⟩ := not_hasCall_iff.1 h
    have hstay : ∀ p ∈ e.parts, rewriteExpr c p = p := fun p hp => ih p hp (hparts p hp)
    rw [rewriteExpr_eq, replaced, (callOf_rewriteInside c e).1 hcall, rewriteInside_eq_mapParts,
      Expr.mapParts_eq_self hstay]

theorem expandable_of_not_hasCall {e : Expr} (h : ¬ HasCall e) : Expandable dialect request e := by
  induction e using parts_induction with
  | h e ih =>
    obtain ⟨hcall, hparts⟩ := not_hasCall_iff.1 h
    exact (expandable_iff e).2 ⟨fun p hp => ih p hp (hparts p hp), by simp [hcall], by simp [hcall]⟩

/-- **What comes of a template**: the statements in which the expressions that name a macro are substituted, the inner
ones first, and everything else stays. A template without calls is written as it was read. -/
theorem interpolation_substitutes (dialect : Dialect) (request rounded : Request) (polls : Polls)
    (statements : List Statement) (hrounded : request.rounded = .ok rounded) (hlive : ∀ n, polls n = .ok ()) :
    (∀ text, interpolateStatements dialect request polls statements = .ok text →
      ∃ (result : List Statement) (σ : Expr → Expr),
        expandRounded dialect request polls statements = .ok result ∧ text = renderStatements result ∧
        result.length = statements.length ∧ result = statements.map (Statement.mapExprs σ) ∧
        ∀ e, StandsIn e statements →
          (¬ NamesMacro e → σ e = e.mapParts σ) ∧
          (NamesMacro e → ∃ i, callOf e = some (.ok i) ∧
            expand dialect rounded { i with args := i.args.map σ } = .ok (σ e))) ∧
    ((∀ s ∈ sites statements, ¬ s.IsCall) →
      interpolateStatements dialect request polls statements = .ok (renderStatements statements)) := by
  have hexpandRounded : ∀ result, expandRounded dialect request polls statements = .ok result ↔
      expandStatements dialect rounded polls statements = .ok result := by
    intro result
    rw [expandRounded, hrounded]
    rfl
  refine ⟨fun text htext => ?_, fun hnone => ?_⟩
  · obtain ⟨result, hresult, hwritten⟩ := Outcome.bind_eq_ok.1 htext
    obtain ⟨-, hexprs, hmap⟩ := expandStatements_eq_ok.1 ((hexpandRounded result).1 hresult)
    refine ⟨result, rewriteExpr (expansionOf dialect rounded), hresult, ?_, by simp [hmap], ?_, fun e he => ?_⟩
    · cases hwritten
      rfl
    · rw [hmap]
      exact List.map_congr_left fun s _ => rewriteStatement_eq_mapExprs _ s
    obtain ⟨-, herror, hexpands⟩ := (expandable_iff e).1 (expandable_of_standsIn hexprs he)
    obtain ⟨hplain, hcalled, -⟩ := callOf_rewriteInside (expansionOf dialect rounded) e
    refine ⟨fun hname => ?_, fun hname => ?_⟩
    · rw [rewriteExpr_eq, replaced, hplain (callOf_eq_none_iff.2 hname), rewriteInside_eq_mapParts]
    · rcases hcall : callOf e with _ | s | i
      · exact absurd hname (callOf_eq_none_iff.1 hcall)
      · exact absurd hcall (herror s)
      · obtain ⟨x, hx⟩ := hexpands i hcall
        refine ⟨i, rfl, ?_⟩
        rw [rewriteExpr_eq, replaced, hcalled i hcall]
        simp only [expansionOf, hx]
        exact hx
  · -- no expression of the template is replaced, so that each of them stays
    have hcalls : ∀ s ∈ statements, ∀ p ∈ s.exprs, ¬ HasCall p := by
      rintro s hs p hp ⟨n, hn, hcall⟩
      obtain ⟨site, hsite, hiscall⟩ := (exists_call_site_iff statements).2 ⟨n, ⟨s, hs, p, hp, hn⟩, hcall⟩
      exact hnone site hsite hiscall
    have hexpand : expandRounded dialect request polls statements = .ok statements := by
      rw [hexpandRounded, expandStatements_eq_ok]
      refine ⟨fun n _ => hlive n, fun s hs p hp => expandable_of_not_hasCall (hcalls s hs p hp), ?_⟩
      conv => lhs; rw [← List.map_id statements]
      refine List.map_congr_left fun s hs => ?_
      rw [rewriteStatement_eq_mapExprs, s.mapExprs_eq_self fun p hp => rewriteExpr_eq_self (hcalls s hs p hp)]
      rfl
    rw [interpolateStatements, hexpand]
    rfl

/-- A call is substituted, and the name of a table stays. -/
theorem call_substituted :
    ∃ statements result σ, parseStatements .clickHouse "SELECT $__round(a) FROM $__round" = .ok statements ∧
      result = statements.map (Statement.mapExprs σ) ∧ renderStatements result = "SELECT a FROM $__round" := by
  let request : Request := ⟨⟨.epoch, .epoch, by decide⟩, [], .zero, .zero⟩
  have hrun : (match parseStatements .clickHouse "SELECT $__round(a) FROM $__round" with
      | .ok statements =>
        match interpolateStatements .clickHouse request (fun _ => .ok ()) statements with
        | .ok text => decide (text = "SELECT a FROM $__round")
        | .error _ => false
      | .error _ => false) = true := by decide +kernel
  split at hrun
  · rename_i statements hparse
    split at hrun
    · rename_i text htext
      obtain ⟨_, hexpand, -⟩ := Outcome.bind_eq_ok.1 htext
      obtain ⟨rounded, hrounded, -⟩ := Outcome.bind_eq_ok.1 hexpand
      obtain ⟨hresult, -⟩ := interpolation_substitutes .clickHouse request rounded (fun _ => .ok ()) statements hrounded
        (fun _ => rfl)
      obtain ⟨result, σ, -, hrender, -, hmap, -⟩ := hresult text htext
      exact ⟨statements, result, σ, hparse, hmap, by rw [← hrender, of_decide_eq_true hrun]⟩
    · cases hrun
  · cases hrun

end SqlTemplate
