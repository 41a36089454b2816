import SqlTemplate.Service.Codec

/-!
# Syntax trees as JSON

A node is an object with one member, whose key is the kind of the node and whose value holds its
parts; a kind without parts is its name alone. Parts that the grammar never fills are written as
empty.

* `statementValue` is the tree of a statement.
-/

namespace SqlTemplate.Service.Tree

open Json Sql

/-- A node of a kind. -/
def node (kind : String) (value : Value) : Value := .object [(kind, value)]

/-- A node of a kind with named parts. -/
def nodeOf (kind : String) (parts : List (String × Value)) : Value := node kind (.ofMembers parts)

/-- A value, or null. -/
def orNull : Option Value → Value
  | none => .null
  | some v => v

/-- An array without items. -/
def noItems : Value := .array []

/-- A span; without a place it is all zeros. -/
def spanValue (span : Option Text.Span) : Value :=
  let s := span.getD ⟨⟨0, 0⟩, ⟨0, 0⟩⟩
  .ofMembers [("start", placeValue s.start), ("end", placeValue s.stop)]

/-- A name. -/
def identValue (i : Ident) : Value :=
  .ofMembers [("value", .string i.text), ("quote_style", .optString (i.quote.map Char.toString)),
    ("span", spanValue i.span)]

/-- Names of a list. -/
def identsValue (names : List Ident) : Value := .array (names.map identValue)

/-- A token and its span. -/
def tokenValue (token : Value) (span : Text.Span) : Value :=
  .ofMembers [("token", token), ("span", spanValue (some span))]

/-- A keyword as a token. -/
def markValue (m : Mark) : Value :=
  tokenValue (nodeOf "Word" [("value", .string m.text), ("quote_style", .null),
    ("keyword", .string (Text.upper m.text))]) m.span

/-- The kind of a text literal without a tag. -/
def stringKindName : StringKind → String
  | .single => "SingleQuotedString"
  | .double => "DoubleQuotedString"
  | .national => "NationalStringLiteral"
  | .hex => "HexStringLiteral"
  | .byte '"' => "DoubleQuotedByteStringLiteral"
  | .byte _ => "SingleQuotedByteStringLiteral"
  | .raw '"' false => "DoubleQuotedRawStringLiteral"
  | .raw '"' true => "TripleDoubleQuotedRawStringLiteral"
  | .raw _ false => "SingleQuotedRawStringLiteral"
  | .raw _ true => "TripleSingleQuotedRawStringLiteral"
  | .escaped => "EscapedStringLiteral"
  | .unicode => "UnicodeStringLiteral"
  | .dollar _ => "DollarQuotedString"

/-- A constant. -/
def literalValue : Literal → Value
  | .number text long => node "Number" (.array [.string text, .bool long])
  | .string (.dollar tag) text =>
    nodeOf "DollarQuotedString"
      [("value", .string text), ("tag", if tag.isEmpty then .null else .string tag)]
  | .string kind text => node (stringKindName kind) (.string text)
  | .bool value => node "Boolean" (.bool value)
  | .null => .string "Null"
  | .placeholder text => node "Placeholder" (.string text)

/-- An operator between two operands. -/
def binaryOpValue : BinaryOp → Value
  | .plus => .string "Plus"
  | .minus => .string "Minus"
  | .multiply => .string "Multiply"
  | .divide => .string "Divide"
  | .wholeDivide => .string "DuckIntegerDivide"
  | .modulo => .string "Modulo"
  | .concat => .string "StringConcat"
  | .eq => .string "Eq"
  | .notEq => .string "NotEq"
  | .lt => .string "Lt"
  | .ltEq => .string "LtEq"
  | .gt => .string "Gt"
  | .gtEq => .string "GtEq"
  | .spaceship => .string "Spaceship"
  | .and => .string "And"
  | .or => .string "Or"
  | .xor => .string "Xor"
  | .bitAnd => .string "BitwiseAnd"
  | .bitOr => .string "BitwiseOr"
  | .bitXor => .string "BitwiseXor"
  | .shiftLeft => .string "PGBitwiseShiftLeft"
  | .shiftRight => .string "PGBitwiseShiftRight"
  | .matches => .string "PGRegexMatch"
  | .matchesAnyCase => .string "PGRegexIMatch"
  | .differs => .string "PGRegexNotMatch"
  | .differsAnyCase => .string "PGRegexNotIMatch"
  | .resembles => .string "PGLikeMatch"
  | .resemblesAnyCase => .string "PGILikeMatch"
  | .unlike => .string "PGNotLikeMatch"
  | .unlikeAnyCase => .string "PGNotILikeMatch"
  | .startsWith => .string "PGStartsWith"
  | .overlaps => .string "PGOverlap"
  | .arrow => .string "Arrow"
  | .longArrow => .string "LongArrow"
  | .hashArrow => .string "HashArrow"
  | .hashLongArrow => .string "HashLongArrow"
  | .atArrow => .string "AtArrow"
  | .arrowAt => .string "ArrowAt"
  | .hashMinus => .string "HashMinus"
  | .atQuestion => .string "AtQuestion"
  | .atAt => .string "AtAt"
  | .named parts => node "PGCustomBinaryOperator" (.array (parts.map .string))

/-- The kind of an operator. -/
def unaryOpName : UnaryOp → String
  | .plus => "Plus"
  | .minus => "Minus"
  | .not => "Not"

/-- The kind of a test. -/
def propertyName : Property → String
  | .null => "IsNull"
  | .notNull => "IsNotNull"
  | .true => "IsTrue"
  | .notTrue => "IsNotTrue"
  | .false => "IsFalse"
  | .notFalse => "IsNotFalse"
  | .unknown => "IsUnknown"
  | .notUnknown => "IsNotUnknown"

/-- The kind of a conversion. -/
def castStyleName : CastStyle → String
  | .cast => "Cast"
  | .tryCast => "TryCast"
  | .safeCast => "SafeCast"
  | .doubleColon => "DoubleColon"

/-- Whether repeated values count. -/
def repeatsName : Repeats → String
  | .all => "All"
  | .distinct => "Distinct"

/-- How a named argument is tied to its name. -/
def namedStyleName : NamedStyle → String
  | .arrow => "RightArrow"
  | .assignment => "Assignment"
  | .value => "Value"

/-- How a call treats nulls. -/
def nullTreatmentName : NullTreatment → String
  | .ignore => "IgnoreNulls"
  | .respect => "RespectNulls"

/-- The kind of a set operation. -/
def setOpName : SetOp → String
  | .union => "Union"
  | .except => "Except"
  | .intersect => "Intersect"

/-- How a set operation treats repeated rows. -/
def setQuantifierName : SetQuantifier → String
  | .none => "None"
  | .all => "All"
  | .distinct => "Distinct"
  | .byName => "ByName"
  | .allByName => "AllByName"
  | .distinctByName => "DistinctByName"

/-- What a grouping adds. -/
def groupModifierName : GroupModifier → String
  | .rollup => "Rollup"
  | .cube => "Cube"
  | .totals => "Totals"

/-- The kind of a join. -/
def joinKindName : JoinKind → String
  | .inner => "Inner"
  | .leftOuter => "LeftOuter"
  | .rightOuter => "RightOuter"
  | .fullOuter => "FullOuter"
  | .cross => "CrossJoin"
  | .crossApply => "CrossApply"
  | .outerApply => "OuterApply"
  | .leftSemi => "LeftSemi"
  | .rightSemi => "RightSemi"
  | .leftAnti => "LeftAnti"
  | .rightAnti => "RightAnti"
  | .semi => "Semi"
  | .anti => "Anti"
  | .asOf => "AsOf"

/-- The word behind an offset. -/
def offsetRowsName : OffsetRows → String
  | .none => "None"
  | .row => "Row"
  | .rows => "Rows"

/-- The word of a description. -/
def describeWordName : DescribeWord → String
  | .desc => "Desc"
  | .describe => "Describe"
  | .explain => "Explain"

mutual

/-- What a piece of syntax is in a tree, given the trees of its parts and the name of its
relation. -/
def shapeValue (parts : List Value) (label : Value) : Shape → Value
  | .null => .null
  | .flag value => .bool value
  | .number value => .nat value
  | .text value => .string value
  | .ident name => identValue name
  | .literal value => literalValue value
  | .part index => parts.getD index .null
  | .label => label
  | .list items => .array (shapeValues parts label items)
  | .node kind inner => node kind (shapeValue parts label inner)
  | .record keys values => .ofMembers (keys.zip (shapeValues parts label values))

/-- Pieces of syntax in a tree. -/
def shapeValues (parts : List Value) (label : Value) : List Shape → List Value
  | [] => []
  | s :: ss => shapeValue parts label s :: shapeValues parts label ss

end

/-- Syntax without expressions. -/
def wordingValue (w : Wording) : Value := shapeValue [] .null w.shape

/-- Settings, or null if there are none. -/
def settingsValue : List (Ident × Literal) → Value
  | [] => .null
  | settings => .array (settings.map fun (key, value) =>
      .ofMembers [("key", identValue key), ("value", literalValue value)])

/-- An output format. -/
def formatValue : OutputFormat → Value
  | .null => .string "Null"
  | .named name => node "Identifier" (identValue name)

/-- An argument, given its value. -/
def argValue (name : Option (Ident × NamedStyle)) (value : Value) : Value :=
  match name with
  | none => node "Unnamed" value
  | some (name, style) =>
    nodeOf "Named" [("name", identValue name), ("arg", value),
      ("operator", .string (namedStyleName style))]

/-- A wildcard as an argument. -/
def wildcardArg (qualifier : Name) : Value :=
  match qualifier with
  | [] => .string "Wildcard"
  | _ => node "QualifiedWildcard" (identsValue qualifier)

/-- A wildcard among the items of a selection: its token, and the options behind it. -/
def wildcardValue (star : Text.Span) (options : Value) : Value :=
  let token := ("wildcard_token", tokenValue (.string "Mul") star)
  match options with
  | .object members => .ofMembers (token :: members)
  | _ => .ofMembers [token, ("opt_ilike", .null), ("opt_exclude", .null), ("opt_except", .null),
      ("opt_replace", .null), ("opt_rename", .null)]

/-- A call, given its parameters, arguments, window and order. -/
def callValue (name : Name) (style : CallStyle) (parameters args window withinGroup : Value) :
    Value :=
  nodeOf "Function" [("name", identsValue name), ("uses_odbc_syntax", .bool style.braced),
    ("parameters", parameters), ("args", args), ("filter", .null),
    ("null_treatment", .optString (style.nulls.map nullTreatmentName)),
    ("over", window), ("within_group", withinGroup)]

/-- A call that has nothing but arguments. -/
def plainCallValue (name : Name) (args : Value) : Value :=
  callValue name ⟨false, none⟩ (.string "None") args .null noItems

/-- The units of an interval. -/
def qualifierMembers (q : Qualifier) : List (String × Value) :=
  [("leading_field", orNull (q.leading.map wordingValue)),
    ("leading_precision", orNull (q.precision.map .nat)),
    ("last_field", orNull (q.last.map wordingValue)),
    ("fractional_seconds_precision", orNull (q.fraction.map .nat))]

/-- A truth value, or null. -/
def optBool : Option Bool → Value
  | none => .null
  | some b => .bool b

mutual

/-- An expression. -/
def exprValue : Expr → Value
  | .ident name => node "Identifier" (identValue name)
  | .compound name => node "CompoundIdentifier" (identsValue name)
  | .literal value => node "Value" (literalValue value)
  | .typedString type text =>
    nodeOf "TypedString" [("data_type", phraseValue type .null), ("value", .string text)]
  | .nested inner => node "Nested" (exprValue inner)
  | .unary op operand =>
    nodeOf "UnaryOp" [("op", .string (unaryOpName op)), ("expr", exprValue operand)]
  | .binary left op right =>
    nodeOf "BinaryOp" [("left", exprValue left), ("op", binaryOpValue op),
      ("right", exprValue right)]
  | .compare left op .all right =>
    nodeOf "AllOp" [("left", exprValue left), ("compare_op", binaryOpValue op),
      ("right", exprValue right)]
  | .compare left op among right =>
    nodeOf "AnyOp" [("left", exprValue left), ("compare_op", binaryOpValue op),
      ("right", exprValue right), ("is_some", .bool (among = .some))]
  | .is operand property => node (propertyName property) (exprValue operand)
  | .isDistinct left right negated =>
    node (if negated then "IsNotDistinctFrom" else "IsDistinctFrom")
      (.array [exprValue left, exprValue right])
  | .inList operand items negated =>
    nodeOf "InList" [("expr", exprValue operand), ("list", .array (exprValues items)),
      ("negated", .bool negated)]
  | .inQuery operand query negated =>
    nodeOf "InSubquery" [("expr", exprValue operand), ("subquery", queryValue query),
      ("negated", .bool negated)]
  | .between operand low high negated =>
    nodeOf "Between" [("expr", exprValue operand), ("negated", .bool negated),
      ("low", exprValue low), ("high", exprValue high)]
  | .like .like operand pattern negated any escape =>
    nodeOf "Like" [("negated", .bool negated), ("any", .bool any), ("expr", exprValue operand),
      ("pattern", exprValue pattern), ("escape_char", .optString escape)]
  | .like .ilike operand pattern negated any escape =>
    nodeOf "ILike" [("negated", .bool negated), ("any", .bool any), ("expr", exprValue operand),
      ("pattern", exprValue pattern), ("escape_char", .optString escape)]
  | .like .similar operand pattern negated _ escape =>
    nodeOf "SimilarTo" [("negated", .bool negated), ("expr", exprValue operand),
      ("pattern", exprValue pattern), ("escape_char", .optString escape)]
  | .like kind operand pattern negated _ _ =>
    nodeOf "RLike" [("negated", .bool negated), ("expr", exprValue operand),
      ("pattern", exprValue pattern), ("regexp", .bool (kind = .regexp))]
  | .case operand conditions results otherwise =>
    nodeOf "Case" [("operand", optExprValue operand),
      ("conditions", .array (exprValues conditions)), ("results", .array (exprValues results)),
      ("else_result", optExprValue otherwise)]
  | .cast style operand type =>
    nodeOf "Cast" [("kind", .string (castStyleName style)), ("expr", exprValue operand),
      ("data_type", phraseValue type .null), ("format", .null)]
  | .exists query negated =>
    nodeOf "Exists" [("subquery", queryValue query), ("negated", .bool negated)]
  | .subquery query => node "Subquery" (queryValue query)
  | .tuple items => node "Tuple" (.array (exprValues items))
  | .array items named =>
    nodeOf "Array" [("elem", .array (exprValues items)), ("named", .bool named)]
  | .subscript operand index =>
    nodeOf "Subscript" [("expr", exprValue operand),
      ("subscript", nodeOf "Index" [("index", exprValue index)])]
  | .element operand keys =>
    nodeOf "MapAccess" [("column", exprValue operand),
      ("keys", .array ((exprValues keys).map fun key =>
        .ofMembers [("key", key), ("syntax", .string "Bracket")]))]
  | .interval value qualifier =>
    nodeOf "Interval" (("value", exprValue value) :: qualifierMembers qualifier)
  | .bareCall name => plainCallValue name (.string "None")
  | .queryCall name query => plainCallValue name (node "Subquery" (queryValue query))
  | .call name parameters args style window withinGroup =>
    callValue name style (optArgListValue parameters) (argListValue args)
      (optPhraseValue window .null) (optPhraseValue withinGroup noItems)
  | .phrase phrase => phraseValue phrase .null

/-- Expressions of a list. -/
def exprValues : List Expr → List Value
  | [] => []
  | e :: es => exprValue e :: exprValues es

/-- An expression, or null. -/
def optExprValue : Option Expr → Value
  | none => .null
  | some e => exprValue e

/-- Arguments between parentheses. -/
def argListValue : ArgList → Value
  | ⟨repeats, args, clauses⟩ =>
    nodeOf "List" [("duplicate_treatment", .optString (repeats.map repeatsName)),
      ("args", .array (argValues args)), ("clauses", .array (phraseValues clauses))]

/-- Arguments that may be missing. -/
def optArgListValue : Option ArgList → Value
  | none => .string "None"
  | some a => argListValue a

/-- An argument. -/
def argumentValue : Arg → Value
  | .expr name value => argValue name (node "Expr" (exprValue value))
  | .wildcard name qualifier => argValue name (wildcardArg qualifier)

/-- Arguments of a list. -/
def argValues : List Arg → List Value
  | [] => []
  | a :: as => argumentValue a :: argValues as

/-- A key of an order. -/
def orderValue : OrderItem → Value
  | ⟨expr, ascending, nullsFirst, fill⟩ =>
    .ofMembers [("expr", exprValue expr), ("asc", optBool ascending),
      ("nulls_first", optBool nullsFirst), ("with_fill", optPhraseValue fill .null)]

/-- Keys of an order. -/
def orderValues : List OrderItem → List Value
  | [] => []
  | o :: os => orderValue o :: orderValues os

/-- A query. -/
def queryValue : Query → Value
  | ⟨withWord, recursive, ctes, body, orderBy, interpolate, limit, limitBy, offset, offsetRows,
      settings, delivery, format⟩ =>
    .ofMembers [
      ("with", match withWord with
        | none => .null
        | some word => .ofMembers [("with_token", markValue word), ("recursive", .bool recursive),
            ("cte_tables", .array (cteValues ctes))]),
      ("body", bodyValue body),
      ("order_by", match orderValues orderBy with
        | [] => .null
        | items => .ofMembers [("exprs", .array items),
            ("interpolate", optPhraseValue interpolate .null)]),
      ("limit", optExprValue limit),
      ("limit_by", .array (exprValues limitBy)),
      ("offset", match optExprValue offset with
        | .null => .null
        | value => .ofMembers [("value", value), ("rows", .string (offsetRowsName offsetRows))]),
      ("fetch", orNull (delivery.fetch.map wordingValue)),
      ("locks", .array (delivery.locks.map wordingValue)),
      ("for_clause", orNull (delivery.form.map wordingValue)),
      ("settings", settingsValue settings),
      ("format_clause", orNull (format.map formatValue))]

/-- Columns of an alias. -/
def columnDefValues : List ColumnDef → List Value
  | [] => []
  | ⟨name, type⟩ :: cs =>
    .ofMembers [("name", identValue name), ("data_type", optPhraseValue type .null)] ::
      columnDefValues cs

/-- The alias of a relation. -/
def aliasValue : TableAlias → Value
  | ⟨name, columns⟩ =>
    .ofMembers [("name", identValue name), ("columns", .array (columnDefValues columns))]

/-- The alias of a relation, or null. -/
def optAliasValue : Option TableAlias → Value
  | none => .null
  | some label => aliasValue label

/-- Named queries. -/
def cteValues : List Cte → List Value
  | [] => []
  | ⟨label, query, source, closing⟩ :: cs =>
    .ofMembers [("alias", aliasValue label), ("query", queryValue query),
      ("from", orNull (source.map identValue)), ("materialized", .null),
      ("closing_paren_token", tokenValue (.string "RParen") closing)] :: cteValues cs

/-- What produces the rows of a query. -/
def bodyValue : Body → Value
  | .select s => node "Select" (selectValue s)
  | .query q => node "Query" (queryValue q)
  | .setOperation op quantifier left right =>
    nodeOf "SetOperation" [("op", .string (setOpName op)),
      ("set_quantifier", .string (setQuantifierName quantifier)), ("left", bodyValue left),
      ("right", bodyValue right)]
  | .values explicitRow rows =>
    nodeOf "Values" [("explicit_row", .bool explicitRow), ("rows", .array (rowValues rows))]
  | .table schema table =>
    nodeOf "Table" [("table_name", .string table), ("schema_name", .optString schema)]
  | .command kind phrase => node kind (phraseValue phrase .null)

/-- Rows of constants. -/
def rowValues : List (List Expr) → List Value
  | [] => []
  | row :: rows => .array (exprValues row) :: rowValues rows

/-- A selection. -/
def selectValue : Select → Value
  | ⟨selectWord, distinct, top, items, into, from_, lateralViews, prewhere, where_, groupByAll,
      groupBy, groupModifiers, clusterBy, distributeBy, sortBy, having, windows, qualify,
      windowsFirst, connectBy⟩ =>
    let modifiers := .array (groupModifiers.map fun m => .string (groupModifierName m))
    .ofMembers [
      ("select_token", markValue selectWord),
      ("distinct", optPhraseValue distinct .null),
      ("top", optPhraseValue top .null), ("top_before_distinct", .bool false),
      ("projection", .array (selectItemValues items)),
      ("into", orNull (into.map wordingValue)),
      ("from", .array (fromValues from_)),
      ("lateral_views", .array (phraseValues lateralViews)),
      ("prewhere", optExprValue prewhere),
      ("selection", optExprValue where_),
      ("group_by", if groupByAll then node "All" modifiers
        else node "Expressions" (.array [.array (exprValues groupBy), modifiers])),
      ("cluster_by", .array (exprValues clusterBy)),
      ("distribute_by", .array (exprValues distributeBy)),
      ("sort_by", .array (exprValues sortBy)),
      ("having", optExprValue having),
      ("named_window", .array (phraseValues windows)), ("qualify", optExprValue qualify),
      ("window_before_qualify", .bool windowsFirst), ("value_table_mode", .null),
      ("connect_by", optPhraseValue connectBy .null)]

/-- An item of a selection. -/
def selectItemValue : SelectItem → Value
  | .expr e none => node "UnnamedExpr" (exprValue e)
  | .expr e (some label) =>
    nodeOf "ExprWithAlias" [("expr", exprValue e), ("alias", identValue label)]
  | .wildcard [] star options =>
    node "Wildcard" (wildcardValue star (optPhraseValue options .null))
  | .wildcard qualifier star options =>
    node "QualifiedWildcard"
      (.array [identsValue qualifier, wildcardValue star (optPhraseValue options .null)])

/-- Items of a selection. -/
def selectItemValues : List SelectItem → List Value
  | [] => []
  | i :: is => selectItemValue i :: selectItemValues is

/-- A relation and those joined to it. -/
def fromValue : FromItem → Value
  | ⟨relation, joins⟩ =>
    .ofMembers [("relation", relationValue relation), ("joins", .array (joinValues joins))]

/-- Relations of a list. -/
def fromValues : List FromItem → List Value
  | [] => []
  | f :: fs => fromValue f :: fromValues fs

/-- A source of rows. -/
def relationValue : Relation → Value
  | .table name partitions args settings ordinality label hints =>
    nodeOf "Table" [("name", identsValue name), ("alias", optAliasValue label),
      ("args", match optArgValues args with
        | none => .null
        | some values =>
          .ofMembers [("args", .array values), ("settings", settingsValue settings)]),
      ("with_hints", .array (exprValues hints)), ("version", .null),
      ("with_ordinality", .bool ordinality), ("partitions", identsValue partitions),
      ("json_path", .null)]
  | .derived lateral query label =>
    nodeOf "Derived" [("lateral", .bool lateral), ("subquery", queryValue query),
      ("alias", optAliasValue label)]
  | .function e label =>
    nodeOf "TableFunction" [("expr", exprValue e), ("alias", optAliasValue label)]
  | .nested inner label =>
    nodeOf "NestedJoin" [("table_with_joins", fromValue inner),
      ("alias", optAliasValue label)]
  | .unnest arrays ordinality offset label =>
    nodeOf "UNNEST" [("alias", optAliasValue label), ("array_exprs", .array (exprValues arrays)),
      ("with_offset", .bool offset.isSome),
      ("with_offset_alias", orNull ((offset.bind id).map identValue)),
      ("with_ordinality", .bool ordinality)]
  | .phrase phrase label => phraseValue phrase (optAliasValue label)

/-- Arguments of a table function. -/
def optArgValues : Option (List Arg) → Option (List Value)
  | none => none
  | some args => some (argValues args)

/-- Joined relations. -/
def joinValues : List Join → List Value
  | [] => []
  | ⟨kind, global, relation, matching, constraint⟩ :: js =>
    .ofMembers [("relation", relationValue relation), ("global", .bool global),
      ("join_operator", match kind with
        | .cross | .crossApply | .outerApply => .string (joinKindName kind)
        | .asOf => nodeOf (joinKindName kind) [("match_condition", optExprValue matching),
            ("constraint", constraintValue constraint)]
        | kind => node (joinKindName kind) (constraintValue constraint))] :: joinValues js

/-- Which rows of a join belong together. -/
def constraintValue : JoinConstraint → Value
  | .none => .string "None"
  | .natural => .string "Natural"
  | .on condition => node "On" (exprValue condition)
  | .using columns => node "Using" (identsValue columns)

/-- A phrase, given the name of its relation. -/
def phraseValue : Phrase → Value → Value
  | ⟨_, shape, parts⟩, label => shapeValue (partValues parts) label shape

/-- A phrase, or what stands for a missing one. -/
def optPhraseValue : Option Phrase → Value → Value
  | none, missing => missing
  | some p, _ => phraseValue p .null

/-- Phrases of a list. -/
def phraseValues : List Phrase → List Value
  | [] => []
  | p :: ps => phraseValue p .null :: phraseValues ps

/-- A part of a phrase. -/
def partValue : Part → Value
  | .expr e => exprValue e
  | .arg a => argumentValue a
  | .order o => orderValue o
  | .query q => queryValue q
  | .item i => selectItemValue i
  | .source f => fromValue f
  | .relation r => relationValue r
  | .phrase p => phraseValue p .null

/-- Parts of a phrase. -/
def partValues : List Part → List Value
  | [] => []
  | p :: ps => partValue p :: partValues ps

end

/-- A statement. -/
def statementValue : Statement → Value
  | .query q => node "Query" (queryValue q)
  | .explain word analyze verbose queryPlan format options inner =>
    nodeOf "Explain" [("describe_alias", .string (describeWordName word)),
      ("analyze", .bool analyze), ("verbose", .bool verbose), ("query_plan", .bool queryPlan),
      ("statement", statementValue inner), ("format", orNull (format.map wordingValue)),
      ("options", optPhraseValue options .null)]
  | .explainTable word format tableWord name =>
    nodeOf "ExplainTable" [("describe_alias", .string (describeWordName word)),
      ("hive_format", orNull (format.map wordingValue)), ("has_table_keyword", .bool tableWord),
      ("table_name", identsValue name)]
  | .command phrase => phraseValue phrase .null

end SqlTemplate.Service.Tree
