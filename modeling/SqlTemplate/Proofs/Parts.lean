import SqlTemplate.Macro.Walk

/-!
# The expressions inside a tree

An expression holds other expressions: its operands, and those of the queries, arguments and phrases in it. The
outermost expressions of each kind of syntax are listed in the order of a walk, and an expression stands in another
one if it is one of its parts, or one of theirs.

* `Expr.parts`, `Statement.exprs`: the outermost expressions.
* `Within`, `StandsIn`: one expression inside another, or inside statements.
-/

namespace SqlTemplate.Sql

mutual

/-- The outermost expressions of arguments. -/
def ArgList.exprs : ArgList → List Expr
  | ⟨_, args, clauses⟩ => argExprs args ++ phraseExprs clauses

def Arg.exprs : Arg → List Expr
  | .expr _ value => [value]
  | .wildcard _ _ => []

def argExprs : List Arg → List Expr
  | [] => []
  | a :: as => a.exprs ++ argExprs as

def OrderItem.exprs : OrderItem → List Expr
  | ⟨expr, _, _, fill⟩ => [expr] ++ optPhraseExprs fill

def orderExprs : List OrderItem → List Expr
  | [] => []
  | o :: os => o.exprs ++ orderExprs os

/-- The outermost expressions of a query. -/
def Query.exprs : Query → List Expr
  | ⟨_, _, ctes, body, orderBy, interpolate, limit, limitBy, offset, _, _, _, _⟩ =>
    cteExprs ctes ++ (body.exprs ++ (orderExprs orderBy ++ (optPhraseExprs interpolate ++
      (limit.toList ++ (limitBy ++ offset.toList)))))

def ColumnDef.exprs : ColumnDef → List Expr
  | ⟨_, type⟩ => optPhraseExprs type

def columnDefExprs : List ColumnDef → List Expr
  | [] => []
  | c :: cs => c.exprs ++ columnDefExprs cs

def TableAlias.exprs : TableAlias → List Expr
  | ⟨_, columns⟩ => columnDefExprs columns

def optAliasExprs : Option TableAlias → List Expr
  | none => []
  | some label => label.exprs

def Cte.exprs : Cte → List Expr
  | ⟨label, query, _, _⟩ => label.exprs ++ query.exprs

def cteExprs : List Cte → List Expr
  | [] => []
  | c :: cs => c.exprs ++ cteExprs cs

/-- The outermost expressions of what produces rows. -/
def Body.exprs : Body → List Expr
  | .select s => s.exprs
  | .query q => q.exprs
  | .setOperation _ _ left right => left.exprs ++ right.exprs
  | .values _ rows => rowExprs rows
  | .table _ _ => []
  | .command _ phrase => phrase.exprs

def rowExprs : List (List Expr) → List Expr
  | [] => []
  | row :: rows => row ++ rowExprs rows

/-- The outermost expressions of a selection. -/
def Select.exprs : Select → List Expr
  | ⟨_, distinct, top, items, _, from_, lateralViews, prewhere, where_, _, groupBy, _, clusterBy, distributeBy, sortBy,
      having, windows, qualify, _, connectBy⟩ =>
    optPhraseExprs distinct ++ (optPhraseExprs top ++ (selectItemExprs items ++ (fromExprs from_ ++
      (phraseExprs lateralViews ++ (prewhere.toList ++ (where_.toList ++ (groupBy ++ (clusterBy ++ (distributeBy ++
        (sortBy ++ (having.toList ++ (phraseExprs windows ++ (qualify.toList ++ optPhraseExprs connectBy)))))))))))))

def SelectItem.exprs : SelectItem → List Expr
  | .expr e _ => [e]
  | .wildcard _ _ options => optPhraseExprs options

def selectItemExprs : List SelectItem → List Expr
  | [] => []
  | i :: is => i.exprs ++ selectItemExprs is

def FromItem.exprs : FromItem → List Expr
  | ⟨relation, joins⟩ => relation.exprs ++ joinExprs joins

def fromExprs : List FromItem → List Expr
  | [] => []
  | f :: fs => f.exprs ++ fromExprs fs

/-- The outermost expressions of a source of rows. -/
def Relation.exprs : Relation → List Expr
  | .table _ _ args _ _ label hints => optAliasExprs label ++ (optArgExprs args ++ hints)
  | .derived _ query label => query.exprs ++ optAliasExprs label
  | .function e label => [e] ++ optAliasExprs label
  | .nested inner label => inner.exprs ++ optAliasExprs label
  | .unnest arrays _ _ label => optAliasExprs label ++ arrays
  | .phrase phrase label => phrase.exprs ++ optAliasExprs label

def optArgExprs : Option (List Arg) → List Expr
  | none => []
  | some args => argExprs args

def Join.exprs : Join → List Expr
  | ⟨_, _, relation, matching, constraint⟩ => relation.exprs ++ (matching.toList ++ constraint.exprs)

def joinExprs : List Join → List Expr
  | [] => []
  | j :: js => j.exprs ++ joinExprs js

def JoinConstraint.exprs : JoinConstraint → List Expr
  | .none => []
  | .natural => []
  | .on condition => [condition]
  | .using _ => []

/-- The outermost expressions of a phrase. -/
def Phrase.exprs : Phrase → List Expr
  | ⟨_, _, parts⟩ => partExprs parts

def optPhraseExprs : Option Phrase → List Expr
  | none => []
  | some p => p.exprs

def phraseExprs : List Phrase → List Expr
  | [] => []
  | p :: ps => p.exprs ++ phraseExprs ps

def Part.exprs : Part → List Expr
  | .expr e => [e]
  | .arg a => a.exprs
  | .order o => o.exprs
  | .query q => q.exprs
  | .item i => i.exprs
  | .source f => f.exprs
  | .relation r => r.exprs
  | .phrase p => p.exprs

def partExprs : List Part → List Expr
  | [] => []
  | p :: ps => p.exprs ++ partExprs ps

end

def optArgListExprs : Option ArgList → List Expr
  | none => []
  | some a => a.exprs

/-- The expressions right below an expression. -/
def Expr.parts : Expr → List Expr
  | .ident _ | .compound _ | .literal _ | .bareCall _ => []
  | .typedString type _ => type.exprs
  | .nested inner => [inner]
  | .unary _ operand => [operand]
  | .binary left _ right | .compare left _ _ right | .isDistinct left right _ => [left, right]
  | .is operand _ => [operand]
  | .inList operand items _ => operand :: items
  | .inQuery operand query _ => operand :: query.exprs
  | .between operand low high _ => [operand, low, high]
  | .like _ operand pattern _ _ _ => [operand, pattern]
  | .case operand conditions results otherwise => operand.toList ++ (conditions ++ (results ++ otherwise.toList))
  | .cast _ operand type => operand :: type.exprs
  | .exists query _ | .subquery query | .queryCall _ query => query.exprs
  | .tuple items | .array items _ => items
  | .subscript operand index => [operand, index]
  | .element operand keys => operand :: keys
  | .interval value _ => [value]
  | .call _ parameters args _ window withinGroup =>
    optArgListExprs parameters ++ (args.exprs ++ (optPhraseExprs window ++ optPhraseExprs withinGroup))
  | .phrase p => p.exprs

/-- The parts of a call with plain arguments are these. -/
theorem parts_call_plain (name : Name) (args : List Expr) :
    (Expr.call name none ⟨none, args.map (.expr none), []⟩ ⟨false, none⟩ none none).parts = args := by
  have hargs : argExprs (args.map (.expr none)) = args := by
    induction args with
    | nil => rfl
    | cons e es ih => exact congrArg (e :: ·) ih
  show argExprs (args.map (.expr none)) ++ [] ++ ([] ++ []) = args
  rw [hargs, List.append_nil, List.append_nil, List.append_nil]

/-- The outermost expressions of a statement. -/
def Statement.exprs : Statement → List Expr
  | .query q => q.exprs
  | .explain _ _ _ _ _ options inner => inner.exprs ++ optPhraseExprs options
  | .explainTable _ _ _ _ => []
  | .command phrase => phrase.exprs

/-- The first expression is the second one or stands somewhere inside it. -/
inductive Within (n : Expr) : Expr → Prop
  | here : Within n n
  | inside {p e : Expr} (hp : p ∈ e.parts) (h : Within n p) : Within n e

/-- The expression stands somewhere in the statements. -/
def StandsIn (n : Expr) (statements : List Statement) : Prop :=
  ∃ s ∈ statements, ∃ p ∈ s.exprs, Within n p

theorem Within.trans {n m e : Expr} (h : Within n m) (hm : Within m e) : Within n e := by
  induction hm with
  | here => exact h
  | inside hp _ ih => exact .inside hp ih

theorem StandsIn.within {n m : Expr} {statements : List Statement} (h : StandsIn m statements) (hn : Within n m) :
    StandsIn n statements := by
  obtain ⟨s, hs, p, hp, hm⟩ := h
  exact ⟨s, hs, p, hp, hn.trans hm⟩

end SqlTemplate.Sql
