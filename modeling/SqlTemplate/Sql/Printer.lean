import SqlTemplate.Sql.Ast
import SqlTemplate.Sql.Escape
import SqlTemplate.Sql.Quoted

/-!
# Writing trees

Every tree has one written form: keywords in upper case, one blank between words, aliases with
`AS`, parentheses only where the tree has them.
-/

namespace SqlTemplate.Sql

/-- Texts with commas between them. -/
def commaJoin (texts : List String) : String := String.intercalate ", " texts

/-- A text behind another, if it is there. -/
def withLead (lead : String) : Option String → String
  | none => ""
  | some text => lead ++ text

/-- Texts behind a lead, with commas; nothing if there are none. -/
def listWithLead (lead : String) : List String → String
  | [] => ""
  | texts => lead ++ commaJoin texts

/-- Texts behind a lead, with commas, as one part; no part if there are none. -/
def partWithLead (lead : String) : List String → List String
  | [] => []
  | texts => [lead ++ commaJoin texts]

/-- A word where a condition holds. -/
def wordIf (condition : Bool) (word : String) : String := if condition then word else ""

/-- A name with its quotes. -/
def Ident.toSql (i : Ident) : String :=
  match i.quote with
  | none => i.text
  | some q => writeQuoted q i.text

/-- A name with its qualifiers. -/
def Name.toSql (name : Name) : String := String.intercalate "." (name.map Ident.toSql)

/-- The names of a list, with commas. -/
def identsText (names : List Ident) : String := commaJoin (names.map Ident.toSql)

/-- A constant. -/
def Literal.toSql : Literal → String
  | .number text long => text ++ wordIf long "L"
  | .string .single text => writeQuoted '\'' text
  | .string .double text => writeQuoted '"' text
  | .string .escaped text => "E'" ++ String.ofList (escapedBody text.toList) ++ "'"
  | .string .unicode text => "U&'" ++ String.ofList (unicodeBody text.toList) ++ "'"
  | .string kind text => (Token.string kind text).display
  | .bool value => if value then "true" else "false"
  | .null => "NULL"
  | .placeholder text => text

/-- The sign or word of an operator. -/
def BinaryOp.toSql : BinaryOp → String
  | .plus => "+"
  | .minus => "-"
  | .multiply => "*"
  | .divide => "/"
  | .wholeDivide => "//"
  | .modulo => "%"
  | .concat => "||"
  | .eq => "="
  | .notEq => "<>"
  | .lt => "<"
  | .ltEq => "<="
  | .gt => ">"
  | .gtEq => ">="
  | .spaceship => "<=>"
  | .and => "AND"
  | .or => "OR"
  | .xor => "XOR"
  | .bitAnd => "&"
  | .bitOr => "|"
  | .bitXor => "^"
  | .shiftLeft => "<<"
  | .shiftRight => ">>"
  | .matches => "~"
  | .matchesAnyCase => "~*"
  | .differs => "!~"
  | .differsAnyCase => "!~*"
  | .resembles => "~~"
  | .resemblesAnyCase => "~~*"
  | .unlike => "!~~"
  | .unlikeAnyCase => "!~~*"
  | .startsWith => "^@"
  | .overlaps => "&&"
  | .arrow => "->"
  | .longArrow => "->>"
  | .hashArrow => "#>"
  | .hashLongArrow => "#>>"
  | .atArrow => "@>"
  | .arrowAt => "<@"
  | .hashMinus => "#-"
  | .atQuestion => "@?"
  | .atAt => "@@"
  | .named parts => "OPERATOR(" ++ String.intercalate "." parts ++ ")"

/-- The sign or word of an operator, with the blank that a word needs. -/
def UnaryOp.toSql : UnaryOp → String
  | .plus => "+"
  | .minus => "-"
  | .not => "NOT "

/-- What stands behind `IS`. -/
def Property.toSql : Property → String
  | .null => "NULL"
  | .notNull => "NOT NULL"
  | .true => "TRUE"
  | .notTrue => "NOT TRUE"
  | .false => "FALSE"
  | .notFalse => "NOT FALSE"
  | .unknown => "UNKNOWN"
  | .notUnknown => "NOT UNKNOWN"

/-- The word of a comparison with a set. -/
def Among.toSql : Among → String
  | .any => "ANY"
  | .all => "ALL"
  | .some => "SOME"

/-- The word of a comparison with a pattern. -/
def LikeKind.toSql : LikeKind → String
  | .like => "LIKE"
  | .ilike => "ILIKE"
  | .similar => "SIMILAR TO"
  | .rlike => "RLIKE"
  | .regexp => "REGEXP"

/-- The word in front of arguments. -/
def Repeats.toSql : Repeats → String
  | .all => "ALL "
  | .distinct => "DISTINCT "

/-- The sign or word behind the name of an argument. -/
def NamedStyle.toSql : NamedStyle → String
  | .arrow => "=>"
  | .assignment => ":="
  | .value => "VALUE"

/-- The words about nulls. -/
def NullTreatment.toSql : NullTreatment → String
  | .ignore => "IGNORE NULLS"
  | .respect => "RESPECT NULLS"

/-- The word of a set operation. -/
def SetOp.toSql : SetOp → String
  | .union => "UNION"
  | .except => "EXCEPT"
  | .intersect => "INTERSECT"

/-- The words behind a set operation, with a blank in front. -/
def SetQuantifier.toSql : SetQuantifier → String
  | .none => ""
  | .all => " ALL"
  | .distinct => " DISTINCT"
  | .byName => " BY NAME"
  | .allByName => " ALL BY NAME"
  | .distinctByName => " DISTINCT BY NAME"

/-- The words behind a grouping. -/
def GroupModifier.toSql : GroupModifier → String
  | .rollup => "WITH ROLLUP"
  | .cube => "WITH CUBE"
  | .totals => "WITH TOTALS"

/-- The words of a join. -/
def JoinKind.toSql : JoinKind → String
  | .inner => "JOIN"
  | .leftOuter => "LEFT JOIN"
  | .rightOuter => "RIGHT JOIN"
  | .fullOuter => "FULL JOIN"
  | .cross => "CROSS JOIN"
  | .crossApply => "CROSS APPLY"
  | .outerApply => "OUTER APPLY"
  | .leftSemi => "LEFT SEMI JOIN"
  | .rightSemi => "RIGHT SEMI JOIN"
  | .leftAnti => "LEFT ANTI JOIN"
  | .rightAnti => "RIGHT ANTI JOIN"
  | .semi => "SEMI JOIN"
  | .anti => "ANTI JOIN"
  | .asOf => "ASOF JOIN"

/-- The word behind an offset, with a blank in front. -/
def OffsetRows.toSql : OffsetRows → String
  | .none => ""
  | .row => " ROW"
  | .rows => " ROWS"

/-- The word of a description. -/
def DescribeWord.toSql : DescribeWord → String
  | .desc => "DESC"
  | .describe => "DESCRIBE"
  | .explain => "EXPLAIN"

/-- The word of a direction, with a blank in front. -/
def directionText : Option Bool → String
  | none => ""
  | some true => " ASC"
  | some false => " DESC"

/-- An output format. -/
def OutputFormat.toSql : OutputFormat → String
  | .null => "NULL"
  | .named name => name.toSql

/-- The units of an interval, with a blank in front. -/
def Qualifier.toSql (q : Qualifier) : String :=
  match q.leading, q.precision, q.fraction with
  | some ⟨"SECOND", _⟩, some precision, some fraction =>
    " SECOND (" ++ toString precision ++ ", " ++ toString fraction ++ ")"
  | _, _, _ =>
    withLead " " (q.leading.map Wording.text) ++
      ((q.precision.map fun n => " (" ++ toString n ++ ")").getD "") ++
      withLead " TO " (q.last.map Wording.text) ++
      ((q.fraction.map fun n => " (" ++ toString n ++ ")").getD "")

/-- Settings as `name = value`. -/
def settingTexts (settings : List (Ident × Literal)) : List String :=
  settings.map fun (name, value) => name.toSql ++ " = " ++ value.toSql

/-- The name of an argument. -/
def argLabel : Option (Ident × NamedStyle) → String
  | none => ""
  | some (name, style) => name.toSql ++ " " ++ style.toSql ++ " "

/-- A wildcard with its qualifier. -/
def wildcardText (qualifier : Name) : String :=
  match qualifier with
  | [] => "*"
  | _ => qualifier.toSql ++ ".*"

/-- Whether a join compares the columns of the same name. -/
def JoinConstraint.isNatural : JoinConstraint → Bool
  | .natural => true
  | _ => false

/-- What stands between the settings of a query and its output format, each with a blank in
front. -/
def Delivery.toSql (d : Delivery) : String :=
  withLead " " (d.fetch.map Wording.text) ++
    String.join (d.locks.map fun lock => " " ++ lock.text) ++
    withLead " " (d.form.map Wording.text)

/-- Whether an expression brings its own parentheses as a query. -/
def Expr.isSubquery : Expr → Bool
  | .subquery _ => true
  | _ => false

/-- Conditions and results in pairs. -/
def branchTexts : List String → List String → String
  | c :: cs, r :: rs => " WHEN " ++ c ++ " THEN " ++ r ++ branchTexts cs rs
  | _, _ => ""

/-- The segments of a phrase one behind the other, given its parts and what stands for the name of
a relation. -/
def segmentsText (parts : List String) (label : String) (segments : List Segment) : String :=
  String.join (segments.map fun
    | .words text => text
    | .part index => parts.getD index ""
    | .label => label)

mutual

/-- An expression. -/
def Expr.toSql : Expr → String
  | .ident name => name.toSql
  | .compound name => Name.toSql name
  | .literal value => value.toSql
  | .typedString type text => type.toSql ++ " " ++ writeQuoted '\'' text
  | .nested inner => "(" ++ inner.toSql ++ ")"
  | .unary op operand => op.toSql ++ operand.toSql
  | .binary left op right => left.toSql ++ " " ++ op.toSql ++ " " ++ right.toSql
  | .compare left op among right =>
    left.toSql ++ " " ++ op.toSql ++ " " ++ among.toSql ++
      wordIf (!right.isSubquery) "(" ++ right.toSql ++ wordIf (!right.isSubquery) ")"
  | .is operand property => operand.toSql ++ " IS " ++ property.toSql
  | .isDistinct left right negated =>
    left.toSql ++ " IS " ++ wordIf negated "NOT " ++ "DISTINCT FROM " ++ right.toSql
  | .inList operand items negated =>
    operand.toSql ++ " " ++ wordIf negated "NOT " ++ "IN (" ++ commaJoin (exprTexts items) ++ ")"
  | .inQuery operand query negated =>
    operand.toSql ++ " " ++ wordIf negated "NOT " ++ "IN (" ++ query.toSql ++ ")"
  | .between operand low high negated =>
    operand.toSql ++ " " ++ wordIf negated "NOT " ++ "BETWEEN " ++ low.toSql ++ " AND " ++
      high.toSql
  | .like kind operand pattern negated any escape =>
    operand.toSql ++ " " ++ wordIf negated "NOT " ++ kind.toSql ++ " " ++ wordIf any "ANY " ++
      pattern.toSql ++ withLead " ESCAPE " (escape.map fun e => "'" ++ e ++ "'")
  | .case operand conditions results otherwise =>
    "CASE" ++ withLead " " (optExprText operand) ++
      branchTexts (exprTexts conditions) (exprTexts results) ++
      withLead " ELSE " (optExprText otherwise) ++ " END"
  | .cast .cast operand type => "CAST(" ++ operand.toSql ++ " AS " ++ type.toSql ++ ")"
  | .cast .tryCast operand type => "TRY_CAST(" ++ operand.toSql ++ " AS " ++ type.toSql ++ ")"
  | .cast .safeCast operand type => "SAFE_CAST(" ++ operand.toSql ++ " AS " ++ type.toSql ++ ")"
  | .cast .doubleColon operand type => operand.toSql ++ "::" ++ type.toSql
  | .exists query negated => wordIf negated "NOT " ++ "EXISTS (" ++ query.toSql ++ ")"
  | .subquery query => "(" ++ query.toSql ++ ")"
  | .tuple items => "(" ++ commaJoin (exprTexts items) ++ ")"
  | .array items named => wordIf named "ARRAY" ++ "[" ++ commaJoin (exprTexts items) ++ "]"
  | .subscript operand index => operand.toSql ++ "[" ++ index.toSql ++ "]"
  | .element operand keys =>
    operand.toSql ++ String.join ((exprTexts keys).map fun key => "[" ++ key ++ "]")
  | .interval value qualifier => "INTERVAL " ++ value.toSql ++ qualifier.toSql
  | .bareCall name => Name.toSql name
  | .queryCall name query => Name.toSql name ++ "(" ++ query.toSql ++ ")"
  | .call name parameters args style window withinGroup =>
    wordIf style.braced "\x7bfn " ++ Name.toSql name ++ (optArgListText parameters).getD "" ++
      args.toSql ++ withLead " " (optPhraseText withinGroup) ++
      withLead " " (style.nulls.map NullTreatment.toSql) ++
      withLead " OVER " (optPhraseText window) ++ wordIf style.braced "\x7d"
  | .phrase phrase => phrase.toSql

/-- Expressions of a list. -/
def exprTexts : List Expr → List String
  | [] => []
  | e :: es => e.toSql :: exprTexts es

/-- An expression that may be missing. -/
def optExprText : Option Expr → Option String
  | none => none
  | some e => some e.toSql

/-- Arguments and their clauses with the parentheses. -/
def ArgList.toSql : ArgList → String
  | ⟨repeats, args, clauses⟩ =>
    let given := match args with
      | [] => []
      | _ => [commaJoin (argTexts args)]
    "(" ++ (repeats.map Repeats.toSql).getD "" ++
      String.intercalate " " (given ++ phraseTexts clauses) ++ ")"

/-- Arguments that may be missing. -/
def optArgListText : Option ArgList → Option String
  | none => none
  | some a => some a.toSql

/-- An argument. -/
def Arg.toSql : Arg → String
  | .expr name value => argLabel name ++ value.toSql
  | .wildcard name qualifier => argLabel name ++ wildcardText qualifier

/-- Arguments of a list. -/
def argTexts : List Arg → List String
  | [] => []
  | a :: as => a.toSql :: argTexts as

/-- A key of an order. -/
def OrderItem.toSql : OrderItem → String
  | ⟨expr, ascending, nullsFirst, fill⟩ =>
    expr.toSql ++ directionText ascending ++
      (match nullsFirst with
        | none => ""
        | some true => " NULLS FIRST"
        | some false => " NULLS LAST") ++
      withLead " " (optPhraseText fill)

/-- Keys of an order. -/
def orderTexts : List OrderItem → List String
  | [] => []
  | o :: os => o.toSql :: orderTexts os

/-- A query. -/
def Query.toSql : Query → String
  | ⟨_, recursive, ctes, body, orderBy, interpolate, limit, limitBy, offset, offsetRows, settings,
      delivery, format⟩ =>
    (match cteTexts ctes with
      | [] => ""
      | texts => "WITH " ++ wordIf recursive "RECURSIVE " ++ commaJoin texts ++ " ") ++
      body.toSql ++
      listWithLead " ORDER BY " (orderTexts orderBy) ++
      withLead " " (optPhraseText interpolate) ++
      withLead " LIMIT " (optExprText limit) ++
      withLead " OFFSET " ((optExprText offset).map (· ++ offsetRows.toSql)) ++
      listWithLead " BY " (exprTexts limitBy) ++
      listWithLead " SETTINGS " (settingTexts settings) ++
      delivery.toSql ++
      withLead " FORMAT " (format.map OutputFormat.toSql)

/-- A column of an alias. -/
def ColumnDef.toSql : ColumnDef → String
  | ⟨name, type⟩ => name.toSql ++ withLead " " (optPhraseText type)

/-- Columns of an alias. -/
def columnDefTexts : List ColumnDef → List String
  | [] => []
  | c :: cs => c.toSql :: columnDefTexts cs

/-- A name for a relation and its columns. -/
def TableAlias.toSql : TableAlias → String
  | ⟨name, columns⟩ =>
    name.toSql ++
      match columnDefTexts columns with
      | [] => ""
      | texts => " (" ++ commaJoin texts ++ ")"

/-- An alias behind a relation. -/
def aliasText : Option TableAlias → String
  | none => ""
  | some label => " AS " ++ label.toSql

/-- A named query. -/
def Cte.toSql : Cte → String
  | ⟨label, query, source, _⟩ =>
    label.toSql ++ " AS (" ++ query.toSql ++ ")" ++ withLead " FROM " (source.map Ident.toSql)

/-- Named queries. -/
def cteTexts : List Cte → List String
  | [] => []
  | c :: cs => c.toSql :: cteTexts cs

/-- What produces the rows of a query. -/
def Body.toSql : Body → String
  | .select s => s.toSql
  | .query q => "(" ++ q.toSql ++ ")"
  | .setOperation op quantifier left right =>
    left.toSql ++ " " ++ op.toSql ++ quantifier.toSql ++ " " ++ right.toSql
  | .values explicitRow rows =>
    "VALUES " ++ commaJoin ((rowTexts rows).map (wordIf explicitRow "ROW" ++ ·))
  | .table schema table => "TABLE " ++ (schema.map (· ++ ".")).getD "" ++ table
  | .command _ phrase => phrase.toSql

/-- Rows of constants. -/
def rowTexts : List (List Expr) → List String
  | [] => []
  | row :: rows => ("(" ++ commaJoin (exprTexts row) ++ ")") :: rowTexts rows

/-- A selection. -/
def Select.toSql : Select → String
  | ⟨_, distinct, top, items, into, from_, lateralViews, prewhere, where_, groupByAll, groupBy,
      groupModifiers, clusterBy, distributeBy, sortBy, having, windows, qualify, windowsFirst,
      connectBy⟩ =>
    let windows := listWithLead " WINDOW " (phraseTexts windows)
    let qualify := withLead " QUALIFY " (optExprText qualify)
    "SELECT" ++ withLead " " (optPhraseText distinct) ++ withLead " " (optPhraseText top) ++ " " ++
      commaJoin (selectItemTexts items) ++
      withLead " " (into.map Wording.text) ++
      listWithLead " FROM " (fromTexts from_) ++
      String.join (phraseTexts lateralViews) ++
      withLead " PREWHERE " (optExprText prewhere) ++
      withLead " WHERE " (optExprText where_) ++
      (if groupByAll || !groupBy.isEmpty then
        " GROUP BY " ++ String.intercalate " "
          ((if groupByAll then "ALL" else commaJoin (exprTexts groupBy)) ::
            groupModifiers.map GroupModifier.toSql)
      else "") ++
      listWithLead " CLUSTER BY " (exprTexts clusterBy) ++
      listWithLead " DISTRIBUTE BY " (exprTexts distributeBy) ++
      listWithLead " SORT BY " (exprTexts sortBy) ++
      withLead " HAVING " (optExprText having) ++
      (if windowsFirst then windows ++ qualify else qualify ++ windows) ++
      withLead " " (optPhraseText connectBy)

/-- An item of a selection. -/
def SelectItem.toSql : SelectItem → String
  | .expr expr label => expr.toSql ++ withLead " AS " (label.map Ident.toSql)
  | .wildcard qualifier _ options =>
    wildcardText qualifier ++ (optPhraseText options).getD ""

/-- Items of a selection. -/
def selectItemTexts : List SelectItem → List String
  | [] => []
  | i :: is => i.toSql :: selectItemTexts is

/-- A relation and those joined to it. -/
def FromItem.toSql : FromItem → String
  | ⟨relation, joins⟩ => relation.toSql ++ joinsText joins

/-- Relations of a list. -/
def fromTexts : List FromItem → List String
  | [] => []
  | f :: fs => f.toSql :: fromTexts fs

/-- A source of rows. -/
def Relation.toSql : Relation → String
  | .table name partitions args settings ordinality label hints =>
    Name.toSql name ++
      (match partitions with
        | [] => ""
        | names => "PARTITION (" ++ identsText names ++ ")") ++
      (match optArgTexts args with
        | none => ""
        | some texts =>
          let settings := match settings with
            | [] => []
            | _ => ["SETTINGS " ++ commaJoin (settingTexts settings)]
          "(" ++ commaJoin (texts ++ settings) ++ ")") ++
      wordIf ordinality " WITH ORDINALITY" ++ aliasText label ++
      (match exprTexts hints with
        | [] => ""
        | texts => " WITH (" ++ commaJoin texts ++ ")")
  | .derived lateral query label =>
    wordIf lateral "LATERAL " ++ "(" ++ query.toSql ++ ")" ++ aliasText label
  | .function expr label => "TABLE(" ++ expr.toSql ++ ")" ++ aliasText label
  | .nested inner label => "(" ++ inner.toSql ++ ")" ++ aliasText label
  | .unnest arrays ordinality offset label =>
    "UNNEST(" ++ commaJoin (exprTexts arrays) ++ ")" ++ wordIf ordinality " WITH ORDINALITY" ++
      aliasText label ++
      (match offset with
        | none => ""
        | some number => " WITH OFFSET" ++ withLead " AS " (number.map Ident.toSql))
  | .phrase ⟨segments, _, parts⟩ label =>
    segmentsText (partTexts parts) (aliasText label) segments

/-- Arguments of a table function. -/
def optArgTexts : Option (List Arg) → Option (List String)
  | none => none
  | some args => some (argTexts args)

/-- A joined relation, with a blank in front. -/
def Join.toSql : Join → String
  | ⟨kind, global, relation, matching, constraint⟩ =>
    wordIf global " GLOBAL" ++ " " ++
      wordIf constraint.isNatural "NATURAL " ++ kind.toSql ++ " " ++ relation.toSql ++
      (match optExprText matching with
        | none => ""
        | some condition => " MATCH_CONDITION (" ++ condition ++ ")") ++
      constraint.toSql

/-- Joined relations. -/
def joinsText : List Join → String
  | [] => ""
  | j :: js => j.toSql ++ joinsText js

/-- What stands behind a joined relation. -/
def JoinConstraint.toSql : JoinConstraint → String
  | .none => ""
  | .natural => ""
  | .on condition => " ON " ++ condition.toSql
  | .using columns => " USING(" ++ identsText columns ++ ")"

/-- A phrase. -/
def Phrase.toSql : Phrase → String
  | ⟨segments, _, parts⟩ => segmentsText (partTexts parts) "" segments

/-- Phrases of a list. -/
def phraseTexts : List Phrase → List String
  | [] => []
  | p :: ps => p.toSql :: phraseTexts ps

/-- A phrase that may be missing. -/
def optPhraseText : Option Phrase → Option String
  | none => none
  | some p => some p.toSql

/-- A part of a phrase. -/
def Part.toSql : Part → String
  | .expr e => e.toSql
  | .arg a => a.toSql
  | .order o => o.toSql
  | .query q => q.toSql
  | .item i => i.toSql
  | .source f => f.toSql
  | .relation r => r.toSql
  | .phrase p => p.toSql

/-- Parts of a list. -/
def partTexts : List Part → List String
  | [] => []
  | p :: ps => p.toSql :: partTexts ps

end

/-! ### The texts of single nodes -/

namespace Expr

variable (e left right low high : Expr) (negated : Bool)

@[simp] theorem toSql_ident (name : Ident) : (ident name).toSql = name.toSql := rfl

@[simp] theorem toSql_literal (value : Literal) : (literal value).toSql = value.toSql := rfl

@[simp] theorem toSql_nested : (nested e).toSql = "(" ++ e.toSql ++ ")" := rfl

@[simp] theorem toSql_unary (op : UnaryOp) : (unary op e).toSql = op.toSql ++ e.toSql := rfl

@[simp] theorem toSql_binary (op : BinaryOp) :
    (binary left op right).toSql = left.toSql ++ " " ++ op.toSql ++ " " ++ right.toSql := rfl

@[simp] theorem toSql_is (property : Property) : (is e property).toSql = e.toSql ++ " IS " ++ property.toSql := rfl

@[simp] theorem toSql_inList (items : List Expr) :
    (inList e items negated).toSql =
      e.toSql ++ " " ++ wordIf negated "NOT " ++ "IN (" ++ commaJoin (exprTexts items) ++ ")" := rfl

@[simp] theorem toSql_between :
    (between e low high negated).toSql =
      e.toSql ++ " " ++ wordIf negated "NOT " ++ "BETWEEN " ++ low.toSql ++ " AND " ++ high.toSql := rfl

@[simp] theorem toSql_bareCall (name : Name) : (bareCall name).toSql = Name.toSql name := rfl

@[simp] theorem toSql_call (name : Name) (parameters : Option ArgList) (args : ArgList) (style : CallStyle)
    (window withinGroup : Option Phrase) :
    (call name parameters args style window withinGroup).toSql =
      wordIf style.braced "\x7bfn " ++ Name.toSql name ++ (optArgListText parameters).getD "" ++ args.toSql ++
        withLead " " (optPhraseText withinGroup) ++ withLead " " (style.nulls.map NullTreatment.toSql) ++
        withLead " OVER " (optPhraseText window) ++ wordIf style.braced "\x7d" := rfl

end Expr

/-- A statement. -/
def Statement.toSql : Statement → String
  | .query q => q.toSql
  | .explain word analyze verbose queryPlan format options inner =>
    word.toSql ++ " " ++ wordIf queryPlan "QUERY PLAN " ++ wordIf analyze "ANALYZE " ++
      wordIf verbose "VERBOSE " ++
      (match format with
        | none => ""
        | some f => "FORMAT " ++ f.text ++ " ") ++
      (match options with
        | none => ""
        | some o => o.toSql ++ " ") ++
      inner.toSql
  | .explainTable word format tableWord name =>
    word.toSql ++ " " ++
      (match format with
        | none => ""
        | some f => f.text ++ " ") ++
      wordIf tableWord "TABLE " ++ Name.toSql name
  | .command phrase => phrase.toSql

/-- Statements, each on a line of its own. -/
def renderStatements (statements : List Statement) : String :=
  String.intercalate ";\n" (statements.map Statement.toSql)

end SqlTemplate.Sql
