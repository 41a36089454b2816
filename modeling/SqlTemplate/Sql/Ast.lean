import SqlTemplate.Sql.Token

/-!
# Syntax trees

Statements, queries and expressions. Parentheses that were written are nodes of the tree, texts
are held as written, and names keep their places.
-/

namespace SqlTemplate.Sql

/-- A name as written; a name that was written as a text literal has no place. -/
structure Ident where
  text : String
  quote : Option Char
  span : Option Text.Span
deriving DecidableEq, Repr, Inhabited

/-- A name with its qualifiers in front. -/
abbrev Name := List Ident

/-- A keyword as written and where it stands. -/
structure Mark where
  text : String
  span : Text.Span
deriving DecidableEq, Repr, Inhabited

/-- A constant. -/
inductive Literal where
  | number (text : String) (long : Bool)
  | string (kind : StringKind) (text : String)
  | bool (value : Bool)
  | null
  | placeholder (text : String)
deriving DecidableEq, Repr, Inhabited

/-- A sign or word between two operands. -/
inductive BinaryOp where
  | plus | minus | multiply | divide | wholeDivide | modulo | concat
  | eq | notEq | lt | ltEq | gt | gtEq | spaceship
  | and | or | xor
  | bitAnd | bitOr | bitXor | shiftLeft | shiftRight
  | matches | matchesAnyCase | differs | differsAnyCase
  | resembles | resemblesAnyCase | unlike | unlikeAnyCase
  | startsWith | overlaps
  | arrow | longArrow | hashArrow | hashLongArrow
  | atArrow | arrowAt | hashMinus | atQuestion | atAt
  /-- An operator that is called by its name, which is given between parentheses. -/
  | named (parts : List String)
deriving DecidableEq, Repr, Inhabited

/-- A sign or word before an operand. -/
inductive UnaryOp where
  | plus | minus | not
deriving DecidableEq, Repr, Inhabited

/-- What follows `IS`. -/
inductive Property where
  | null | notNull
  | true | notTrue
  | false | notFalse
  | unknown | notUnknown
deriving DecidableEq, Repr, Inhabited

/-- Which members of a set a comparison is about. -/
inductive Among where
  | any | all | some
deriving DecidableEq, Repr, Inhabited

/-- The ways to compare with a pattern. -/
inductive LikeKind where
  | like | ilike | similar | rlike | regexp
deriving DecidableEq, Repr, Inhabited

/-- The ways to write a conversion. -/
inductive CastStyle where
  | cast | tryCast | safeCast | doubleColon
deriving DecidableEq, Repr, Inhabited

/-- Whether repeated values count. -/
inductive Repeats where
  | all | distinct
deriving DecidableEq, Repr, Inhabited

/-- How a named argument is tied to its name. -/
inductive NamedStyle where
  | arrow | assignment | value
deriving DecidableEq, Repr, Inhabited

/-- Whether a window function counts nulls. -/
inductive NullTreatment where
  | ignore | respect
deriving DecidableEq, Repr, Inhabited

/-- How a call is written: between braces or not, and with which words about nulls. -/
structure CallStyle where
  braced : Bool
  nulls : Option NullTreatment
deriving DecidableEq, Repr, Inhabited

/-- An operation on the results of two queries. -/
inductive SetOp where
  | union | except | intersect
deriving DecidableEq, Repr, Inhabited

/-- How a set operation treats repeated rows and matches columns. -/
inductive SetQuantifier where
  | none | all | distinct | byName | allByName | distinctByName
deriving DecidableEq, Repr, Inhabited

/-- What a grouping adds to its groups. -/
inductive GroupModifier where
  | rollup | cube | totals
deriving DecidableEq, Repr, Inhabited

/-- The kinds of join. -/
inductive JoinKind where
  | inner | leftOuter | rightOuter | fullOuter | cross | crossApply | outerApply
  | leftSemi | rightSemi | leftAnti | rightAnti | semi | anti | asOf
deriving DecidableEq, Repr, Inhabited

/-- The word behind an offset. -/
inductive OffsetRows where
  | none | row | rows
deriving DecidableEq, Repr, Inhabited

/-- The words that open a description. -/
inductive DescribeWord where
  | desc | describe | explain
deriving DecidableEq, Repr, Inhabited

/-- What a piece of syntax is in a tree: a node of a kind, a record with named parts, or a leaf.
Parts that are trees themselves are given by their index, and the name of a relation by its
place. -/
inductive Shape where
  | null
  | flag (value : Bool)
  | number (value : Nat)
  | text (value : String)
  | ident (name : Ident)
  | literal (value : Literal)
  | part (index : Nat)
  | label
  | list (items : List Shape)
  | node (kind : String) (inner : Shape)
  | record (keys : List String) (values : List Shape)
deriving Repr, Inhabited

/-- Syntax without expressions in it: how it is written, and what it is in a tree. -/
structure Wording where
  text : String
  shape : Shape
deriving Repr, Inhabited

/-- A piece of a written phrase: words, the part of an index, or the name of a relation. -/
inductive Segment where
  | words (text : String)
  | part (index : Nat)
  | label
deriving DecidableEq, Repr, Inhabited

/-- The units of an interval. -/
structure Qualifier where
  leading : Option Wording
  precision : Option Nat
  last : Option Wording
  fraction : Option Nat
deriving Repr, Inhabited

/-- The output format of a query. -/
inductive OutputFormat where
  | null
  | named (name : Ident)
deriving DecidableEq, Repr, Inhabited

/-- What is read along with a query but holds no expression: which rows are fetched and locked,
and in which form they are delivered. -/
structure Delivery where
  fetch : Option Wording
  locks : List Wording
  form : Option Wording
deriving Repr, Inhabited

mutual

/-- An expression. -/
inductive Expr where
  | ident (name : Ident)
  | compound (name : Name)
  | literal (value : Literal)
  | typedString (type : Phrase) (text : String)
  | nested (inner : Expr)
  | unary (op : UnaryOp) (operand : Expr)
  | binary (left : Expr) (op : BinaryOp) (right : Expr)
  | compare (left : Expr) (op : BinaryOp) (among : Among) (right : Expr)
  | is (operand : Expr) (property : Property)
  | isDistinct (left right : Expr) (negated : Bool)
  | inList (operand : Expr) (items : List Expr) (negated : Bool)
  | inQuery (operand : Expr) (query : Query) (negated : Bool)
  | between (operand low high : Expr) (negated : Bool)
  | like (kind : LikeKind) (operand pattern : Expr) (negated any : Bool) (escape : Option String)
  | case (operand : Option Expr) (conditions results : List Expr) (otherwise : Option Expr)
  | cast (style : CastStyle) (operand : Expr) (type : Phrase)
  | exists (query : Query) (negated : Bool)
  | subquery (query : Query)
  | tuple (items : List Expr)
  | array (items : List Expr) (named : Bool)
  | subscript (operand index : Expr)
  | element (operand : Expr) (keys : List Expr)
  | interval (value : Expr) (qualifier : Qualifier)
  | bareCall (name : Name)
  | queryCall (name : Name) (query : Query)
  | call (name : Name) (parameters : Option ArgList) (args : ArgList) (style : CallStyle)
    (window withinGroup : Option Phrase)
  | phrase (phrase : Phrase)

/-- The arguments between a pair of parentheses, and the clauses behind them. -/
structure ArgList where
  repeats : Option Repeats
  args : List Arg
  clauses : List Phrase

/-- An argument, with a name or without. -/
inductive Arg where
  | expr (name : Option (Ident × NamedStyle)) (value : Expr)
  | wildcard (name : Option (Ident × NamedStyle)) (qualifier : Name)

/-- A key of an order. -/
structure OrderItem where
  expr : Expr
  ascending : Option Bool
  nullsFirst : Option Bool
  fill : Option Phrase

/-- A query. -/
structure Query where
  withWord : Option Mark
  recursive : Bool
  ctes : List Cte
  body : Body
  orderBy : List OrderItem
  interpolate : Option Phrase
  limit : Option Expr
  limitBy : List Expr
  offset : Option Expr
  offsetRows : OffsetRows
  settings : List (Ident × Literal)
  delivery : Delivery
  format : Option OutputFormat

/-- A column of an alias, with an optional type. -/
structure ColumnDef where
  name : Ident
  type : Option Phrase

/-- A name for a relation and its columns. -/
structure TableAlias where
  name : Ident
  columns : List ColumnDef

/-- A named query in front of another. -/
structure Cte where
  label : TableAlias
  query : Query
  source : Option Ident
  closing : Text.Span

/-- What produces the rows of a query. -/
inductive Body where
  | select (select : Select)
  | query (query : Query)
  | setOperation (op : SetOp) (quantifier : SetQuantifier) (left right : Body)
  | values (explicitRow : Bool) (rows : List (List Expr))
  /-- A whole table. -/
  | table (schema : Option String) (table : String)
  /-- A change of a table. -/
  | command (kind : String) (phrase : Phrase)

/-- A selection. -/
structure Select where
  selectWord : Mark
  distinct : Option Phrase
  top : Option Phrase
  items : List SelectItem
  into : Option Wording
  from_ : List FromItem
  lateralViews : List Phrase
  prewhere : Option Expr
  where_ : Option Expr
  groupByAll : Bool
  groupBy : List Expr
  groupModifiers : List GroupModifier
  clusterBy : List Expr
  distributeBy : List Expr
  sortBy : List Expr
  having : Option Expr
  windows : List Phrase
  qualify : Option Expr
  /-- Whether the named windows were written before the condition on windows. -/
  windowsFirst : Bool
  connectBy : Option Phrase

/-- An item of a selection. -/
inductive SelectItem where
  | expr (expr : Expr) (label : Option Ident)
  | wildcard (qualifier : Name) (star : Text.Span) (options : Option Phrase)

/-- A relation and those joined to it. -/
structure FromItem where
  relation : Relation
  joins : List Join

/-- A source of rows. -/
inductive Relation where
  | table (name : Name) (partitions : List Ident) (args : Option (List Arg))
    (settings : List (Ident × Literal)) (ordinality : Bool) (label : Option TableAlias)
    (hints : List Expr)
  | derived (lateral : Bool) (query : Query) (label : Option TableAlias)
  | function (expr : Expr) (label : Option TableAlias)
  | nested (inner : FromItem) (label : Option TableAlias)
  /-- The members of lists; they can be numbered, and `offset` is then what their number is
  called, if it is called anything. -/
  | unnest (arrays : List Expr) (ordinality : Bool) (offset : Option (Option Ident))
    (label : Option TableAlias)
  | phrase (phrase : Phrase) (label : Option TableAlias)

/-- A joined relation. Some joins also match rows by a condition of their own. -/
structure Join where
  kind : JoinKind
  global : Bool
  relation : Relation
  matching : Option Expr
  constraint : JoinConstraint

/-- Which rows of a join belong together. -/
inductive JoinConstraint where
  | none
  | natural
  | on (condition : Expr)
  | using (columns : List Ident)

/-- Syntax that is written as words around its parts. The parts stand in the order of a walk; how
they are written and where they stand in the tree refers to their index. -/
structure Phrase where
  segments : List Segment
  shape : Shape
  parts : List Part

/-- A part of a phrase. -/
inductive Part where
  | expr (expr : Expr)
  | arg (arg : Arg)
  | order (item : OrderItem)
  | query (query : Query)
  | item (item : SelectItem)
  | source (source : FromItem)
  | relation (relation : Relation)
  | phrase (phrase : Phrase)

end

/-- A type of values. Its parts are the types inside it and the expressions of its columns. -/
abbrev DataType := Phrase

/-- A statement. -/
inductive Statement where
  | query (query : Query)
  | explain (word : DescribeWord) (analyze verbose queryPlan : Bool) (format : Option Wording)
    (options : Option Phrase) (inner : Statement)
  | explainTable (word : DescribeWord) (format : Option Wording) (tableWord : Bool) (name : Name)
  | command (phrase : Phrase)

end SqlTemplate.Sql
