/-!
# Ad-hoc filters

A filter asks that a column stand in some relation to one value or to a list of values.
-/

namespace SqlTemplate

namespace Filter

/-- The relation that a filter asks for. -/
inductive Operator where
  | equal
  | notEqual
  | less
  | greater
  | lessOrEqual
  | greaterOrEqual
  | regexMatch
  | regexNotMatch
  | oneOf
  | notOneOf
deriving DecidableEq, Repr, Inhabited

namespace Operator

/-- All operators, in the order in which messages list them. -/
def all : List Operator :=
  [.equal, .notEqual, .less, .greater, .lessOrEqual, .greaterOrEqual, .regexMatch, .regexNotMatch,
    .oneOf, .notOneOf]

/-- The sign of an operator. -/
def symbol : Operator → String
  | .equal => "="
  | .notEqual => "!="
  | .less => "<"
  | .greater => ">"
  | .lessOrEqual => "<="
  | .greaterOrEqual => ">="
  | .regexMatch => "=~"
  | .regexNotMatch => "!~"
  | .oneOf => "=|"
  | .notOneOf => "!=|"

/-- Whether the operator takes a list of values. -/
def isMultiValue : Operator → Bool
  | .oneOf | .notOneOf => true
  | _ => false

/-- Whether the operator is the negation of another one. -/
def isNegated : Operator → Bool
  | .notEqual | .regexNotMatch | .notOneOf => true
  | _ => false

/-- The operator of a sign. -/
def ofSymbol? (symbol : String) : Option Operator :=
  all.find? (·.symbol == symbol)

/-- The wording of a refused sign. -/
def unknownMessage (symbol : String) : String :=
  "unknown ad-hoc filter operator: " ++ symbol

theorem mem_all (op : Operator) : op ∈ all := by
  cases op <;> decide

theorem ofSymbol?_symbol (op : Operator) : ofSymbol? op.symbol = some op := by
  cases op <;> rfl

end Operator

/-- The value that stands for a missing column value. -/
def nullMark : String := "__null__"

/-- The value that stands for the empty text. -/
def emptyMark : String := "__empty__"

end Filter

/-- A column, a relation, and a value or a list of values. -/
structure Filter where
  key : String
  operator : Filter.Operator
  value : String
  values : Option (List String)
deriving DecidableEq, Repr, Inhabited

/-- The values of a filter: its list, or its single value where the list is missing or empty. -/
def Filter.operands (f : Filter) : List String :=
  match f.values with
  | some (v :: vs) => v :: vs
  | _ => [f.value]

theorem Filter.operands_ne_nil (f : Filter) : f.operands ≠ [] := by
  unfold operands
  split <;> simp

end SqlTemplate
