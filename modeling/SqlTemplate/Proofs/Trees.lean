import SqlTemplate.Service.Tree

/-!
# Trees without places

Two texts have the same tree if the trees that are shown for them differ in no member but the spans. A tree is changed
by overwriting the members of some keys, at any depth.

* `exprTree`, `statementTree`: the tree of an expression or a statement, its spans blotted out.
* `Json.Value.blanked`: a tree with the texts of its literals blotted out; `Json.Value.literals` are these texts.
-/

namespace SqlTemplate.Json.Value

variable {f : String → Value → Option Value}

mutual

/-- The value with members overwritten at any depth: where `f` has a value for a member, it stands in its place. -/
def overwrite (f : String → Value → Option Value) : Value → Value
  | .array items => .array (overwriteItems f items)
  | .object members => .object (overwriteMembers f members)
  | .null => .null
  | .bool b => .bool b
  | .number n => .number n
  | .string s => .string s

/-- The items of an array with members overwritten inside them. -/
def overwriteItems (f : String → Value → Option Value) : List Value → List Value
  | [] => []
  | v :: vs => overwrite f v :: overwriteItems f vs

/-- The members of an object, overwritten themselves or inside. -/
def overwriteMembers (f : String → Value → Option Value) : List (String × Value) → List (String × Value)
  | [] => []
  | (k, v) :: rest => (k, (f k v).getD (overwrite f v)) :: overwriteMembers f rest

end

theorem overwriteItems_eq (items : List Value) : overwriteItems f items = items.map (overwrite f) := by
  induction items with
  | nil => rfl
  | cons v vs ih => exact congrArg (overwrite f v :: ·) ih

theorem overwriteMembers_eq (members : List (String × Value)) :
    overwriteMembers f members = members.map fun (k, v) => (k, (f k v).getD (overwrite f v)) := by
  induction members with
  | nil => rfl
  | cons m ms ih => exact congrArg ((m.1, (f m.1 m.2).getD (overwrite f m.2)) :: ·) ih

@[simp] theorem overwrite_null : overwrite f .null = .null := rfl

@[simp] theorem overwrite_bool (b : Bool) : overwrite f (.bool b) = .bool b := rfl

@[simp] theorem overwrite_string (s : String) : overwrite f (.string s) = .string s := rfl

@[simp] theorem overwrite_array (items : List Value) : overwrite f (.array items) = .array (items.map (overwrite f)) :=
  congrArg array (overwriteItems_eq items)

@[simp] theorem overwrite_object (members : List (String × Value)) :
    overwrite f (.object members) = .object (members.map fun (k, v) => (k, (f k v).getD (overwrite f v))) :=
  congrArg object (overwriteMembers_eq members)

/-- A change of the values commutes with the order of the keys. -/
theorem map_insertMember (h : String → Value → Value) (k : String) (v : Value) (members : List (String × Value)) :
    (insertMember k v members).map (fun (k, v) => (k, h k v)) =
      insertMember k (h k v) (members.map fun (k, v) => (k, h k v)) := by
  induction members with
  | nil => rfl
  | cons m ms ih =>
    obtain ⟨k', v'⟩ := m
    simp only [insertMember, List.map_cons]
    split
    · rfl
    · split
      · rfl
      · rw [List.map_cons, ih]

/-- An object is overwritten member by member. -/
theorem overwrite_ofMembers (members : List (String × Value)) :
    overwrite f (.ofMembers members) = .ofMembers (members.map fun (k, v) => (k, (f k v).getD (overwrite f v))) := by
  have hfold : ∀ (ms sorted : List (String × Value)),
      (ms.foldl (fun sorted (k, v) => insertMember k v sorted) sorted).map
          (fun (k, v) => (k, (f k v).getD (overwrite f v))) =
        (ms.map fun (k, v) => (k, (f k v).getD (overwrite f v))).foldl (fun sorted (k, v) => insertMember k v sorted)
          (sorted.map fun (k, v) => (k, (f k v).getD (overwrite f v))) := by
    intro ms
    induction ms with
    | nil => intro sorted; rfl
    | cons m ms ih =>
      intro sorted
      rw [List.foldl_cons, ih, List.map_cons, List.foldl_cons,
        map_insertMember (fun k v => (f k v).getD (overwrite f v))]
  rw [ofMembers, overwrite_object, hfold]
  rfl

/-- The spans, each of which gives way to nothing. -/
def spans (key : String) (_ : Value) : Option Value := if key = "span" then some .null else none

/-- The texts of literals between single quotes, each of which gives way to the empty text. -/
def quotedTexts (key : String) (_ : Value) : Option Value :=
  if key = "SingleQuotedString" then some (.string "") else none

/-- A tree with the texts of its literals blotted out. -/
def blanked (v : Value) : Value := v.overwrite quotedTexts

mutual

/-- The texts of the literals between single quotes, in the order of the tree. -/
def literals : Value → List String
  | .array items => literalsOfItems items
  | .object members => literalsOfMembers members
  | _ => []

/-- The texts of the literals in the items of an array. -/
def literalsOfItems : List Value → List String
  | [] => []
  | v :: vs => literals v ++ literalsOfItems vs

/-- The texts of the literals in the members of an object. -/
def literalsOfMembers : List (String × Value) → List String
  | [] => []
  | (k, v) :: rest =>
    (match k, v with
      | "SingleQuotedString", .string text => [text]
      | _, v => literals v) ++ literalsOfMembers rest

end

@[simp] theorem literals_null : literals .null = [] := rfl

@[simp] theorem literals_bool (b : Bool) : literals (.bool b) = [] := rfl

@[simp] theorem literals_string (s : String) : literals (.string s) = [] := rfl

@[simp] theorem literals_array (items : List Value) : literals (.array items) = items.flatMap literals := by
  show literalsOfItems items = items.flatMap literals
  induction items with
  | nil => rfl
  | cons v vs ih => exact congrArg (literals v ++ ·) ih

@[simp] theorem literals_object (members : List (String × Value)) : literals (.object members) = literalsOfMembers members :=
  rfl

@[simp] theorem literalsOfMembers_nil : literalsOfMembers [] = [] := rfl

@[simp] theorem literalsOfMembers_quoted (text : String) (rest : List (String × Value)) :
    literalsOfMembers (("SingleQuotedString", .string text) :: rest) = text :: literalsOfMembers rest := rfl

@[simp] theorem literalsOfMembers_cons {k : String} (hk : k ≠ "SingleQuotedString") (v : Value)
    (rest : List (String × Value)) : literalsOfMembers ((k, v) :: rest) = literals v ++ literalsOfMembers rest := by
  conv => lhs; unfold literalsOfMembers
  split
  · exact absurd rfl hk
  · rfl

end SqlTemplate.Json.Value

namespace SqlTemplate.Service.Tree

open Json Sql

/-- The tree of an expression without places. -/
def exprTree (e : Expr) : Value := (exprValue e).overwrite Value.spans

/-- The tree of a statement without places. -/
def statementTree (s : Statement) : Value := (statementValue s).overwrite Value.spans


section Overwriting

variable {f : String → Value → Option Value} {kind : String}

theorem overwrite_node (hk : ∀ v, f kind v = none) (v : Value) :
    (node kind v).overwrite f = node kind (v.overwrite f) := by
  simp [node, hk]

theorem overwrite_nodeOf (hk : ∀ v, f kind v = none) (parts : List (String × Value)) :
    (nodeOf kind parts).overwrite f = nodeOf kind (parts.map fun (k, v) => (k, (f k v).getD (v.overwrite f))) := by
  rw [nodeOf, overwrite_node hk, Value.overwrite_ofMembers, nodeOf]

/-- Operators hold no members but the name of one that is called by a name. -/
theorem overwrite_binaryOpValue (hk : ∀ v, f "PGCustomBinaryOperator" v = none) (op : BinaryOp) :
    (binaryOpValue op).overwrite f = binaryOpValue op := by
  cases op with
  | named parts => simp [binaryOpValue, node, hk, Function.comp_def]
  | _ => rfl

end Overwriting

/-- The tree of a name without its place. -/
def identTree (name : Ident) : Value :=
  .ofMembers [("value", .string name.text), ("quote_style", .optString (name.quote.map Char.toString)), ("span", .null)]

theorem overwrite_identValue (name : Ident) : (identValue name).overwrite Value.spans = identTree name := by
  rw [identValue, Value.overwrite_ofMembers, identTree]
  cases name.quote <;> simp [Value.spans, Value.optString]

theorem overwrite_identsValue (names : List Ident) :
    (identsValue names).overwrite Value.spans = .array (names.map identTree) := by
  rw [identsValue, Value.overwrite_array, List.map_map]
  exact congrArg Value.array (List.map_congr_left fun name _ => overwrite_identValue name)

theorem exprTree_ident (name : Ident) : exprTree (.ident name) = node "Identifier" (identTree name) := by
  show (node "Identifier" (identValue name)).overwrite Value.spans = _
  rw [overwrite_node (by simp [Value.spans]), overwrite_identValue]

theorem exprTree_compound (name : Name) :
    exprTree (.compound name) = node "CompoundIdentifier" (.array (name.map identTree)) := by
  show (node "CompoundIdentifier" (identsValue name)).overwrite Value.spans = _
  rw [overwrite_node (by simp [Value.spans]), overwrite_identsValue]

/-- The tree of a call, given those of its names and arguments. -/
def callTree (name args : Value) : Value :=
  nodeOf "Function" [("name", name), ("uses_odbc_syntax", .bool false), ("parameters", .string "None"), ("args", args),
    ("filter", .null), ("null_treatment", .null), ("over", .null), ("within_group", .array [])]

theorem overwrite_plainCallValue (name : Name) (args : Value) :
    (plainCallValue name args).overwrite Value.spans =
      callTree (.array (name.map identTree)) (args.overwrite Value.spans) := by
  rw [plainCallValue, callValue, overwrite_nodeOf (by simp [Value.spans])]
  simp [Value.spans, overwrite_identsValue, Value.optString, noItems, callTree]

theorem exprTree_bareCall (name : Name) :
    exprTree (.bareCall name) = callTree (.array (name.map identTree)) (.string "None") := by
  show (plainCallValue name (.string "None")).overwrite Value.spans = _
  rw [overwrite_plainCallValue, Value.overwrite_string]

/-- The tree of two arguments without names. -/
def argumentsTree (args : List Value) : Value :=
  nodeOf "List" [("duplicate_treatment", .null), ("args", .array (args.map fun arg => node "Unnamed" (node "Expr" arg))),
    ("clauses", .array [])]

theorem exprTree_plainCall (name : Name) (args : List Expr) :
    exprTree (.call name none ⟨none, args.map (.expr none), []⟩ ⟨false, none⟩ none none) =
      callTree (.array (name.map identTree)) (argumentsTree (args.map exprTree)) := by
  have hargs : (argValues (args.map (.expr none))).map (Value.overwrite Value.spans) =
      (args.map exprTree).map fun arg => node "Unnamed" (node "Expr" arg) := by
    induction args with
    | nil => rfl
    | cons e es ih =>
      show (node "Unnamed" (node "Expr" (exprValue e))).overwrite Value.spans ::
        (argValues (es.map (.expr none))).map (Value.overwrite Value.spans) = _
      rw [ih, overwrite_node (by simp [Value.spans]), overwrite_node (by simp [Value.spans])]
      rfl
  have hlist : (argListValue ⟨none, args.map (.expr none), []⟩).overwrite Value.spans =
      argumentsTree (args.map exprTree) := by
    show (nodeOf "List" [("duplicate_treatment", .optString none), ("args", .array (argValues (args.map (.expr none)))),
      ("clauses", .array [])]).overwrite Value.spans = _
    rw [overwrite_nodeOf (by simp [Value.spans]), argumentsTree, ← hargs]
    simp [Value.spans, Value.optString]
  rw [← hlist, ← overwrite_plainCallValue]
  rfl

theorem exprTree_nested (e : Expr) : exprTree (.nested e) = node "Nested" (exprTree e) := by
  show (node "Nested" (exprValue e)).overwrite Value.spans = _
  rw [overwrite_node (by simp [Value.spans]), exprTree]

theorem exprTree_literal (text : String) :
    exprTree (.literal (.string .single text)) = node "Value" (node "SingleQuotedString" (.string text)) := by
  show (node "Value" (node "SingleQuotedString" (.string text))).overwrite Value.spans = _
  rw [overwrite_node (by simp [Value.spans]), overwrite_node (by simp [Value.spans]), Value.overwrite_string]

theorem exprTree_binary (left right : Expr) (op : BinaryOp) :
    exprTree (.binary left op right) = nodeOf "BinaryOp" [("left", exprTree left),
      ("op", (binaryOpValue op).overwrite Value.spans), ("right", exprTree right)] := by
  show (nodeOf "BinaryOp" [("left", exprValue left), ("op", binaryOpValue op),
    ("right", exprValue right)]).overwrite Value.spans = _
  rw [overwrite_nodeOf (by simp [Value.spans])]
  simp [Value.spans, exprTree]

theorem exprTree_unary (op : UnaryOp) (operand : Expr) :
    exprTree (.unary op operand) = nodeOf "UnaryOp" [("op", .string (unaryOpName op)), ("expr", exprTree operand)] := by
  show (nodeOf "UnaryOp" [("op", .string (unaryOpName op)), ("expr", exprValue operand)]).overwrite Value.spans = _
  rw [overwrite_nodeOf (by simp [Value.spans])]
  simp [Value.spans, exprTree]

theorem exprTree_is (operand : Expr) (property : Property) :
    exprTree (.is operand property) = node (propertyName property) (exprTree operand) := by
  show (node (propertyName property) (exprValue operand)).overwrite Value.spans = _
  rw [overwrite_node (by cases property <;> simp [Value.spans, propertyName]), exprTree]

theorem exprTree_between (operand low high : Expr) (negated : Bool) :
    exprTree (.between operand low high negated) =
      nodeOf "Between" [("expr", exprTree operand), ("negated", .bool negated), ("low", exprTree low),
        ("high", exprTree high)] := by
  show (nodeOf "Between" [("expr", exprValue operand), ("negated", .bool negated), ("low", exprValue low),
    ("high", exprValue high)]).overwrite Value.spans = _
  rw [overwrite_nodeOf (by simp [Value.spans])]
  simp [Value.spans, exprTree]

theorem exprValues_eq (es : List Expr) : exprValues es = es.map exprValue := by
  induction es with
  | nil => rfl
  | cons e es ih => exact congrArg (exprValue e :: ·) ih

theorem exprTree_inList (operand : Expr) (items : List Expr) (negated : Bool) :
    exprTree (.inList operand items negated) = nodeOf "InList" [("expr", exprTree operand),
      ("list", .array (items.map exprTree)), ("negated", .bool negated)] := by
  show (nodeOf "InList" [("expr", exprValue operand), ("list", .array (exprValues items)),
    ("negated", .bool negated)]).overwrite Value.spans = _
  rw [overwrite_nodeOf (by simp [Value.spans]), exprValues_eq]
  simp [Value.spans, exprTree, Function.comp_def]
  rfl

end SqlTemplate.Service.Tree
