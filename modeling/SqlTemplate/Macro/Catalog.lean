/-!
# The catalog of macros

Every macro has a name, a number of arguments and a meaning. A name may stand for several macros
that differ in their number of arguments.

* `catalog` lists the macros.
* `resolve` finds the macro of a name and a number of arguments.
-/

namespace SqlTemplate.Macro

/-- How finely a time is written. -/
inductive Precision where
  | seconds
  | millis
deriving DecidableEq, Repr, Inhabited

/-- What a macro about the time range stands for. -/
inductive TimeFilter where
  /-- A column lies in the range. -/
  | range (precision : Precision)
  /-- A column of dates lies in the range. -/
  | date
  /-- A column of dates and a column of times lie in the range. -/
  | dateTime
  /-- The start of the range. -/
  | start (precision : Precision)
  /-- The end of the range. -/
  | stop (precision : Precision)
deriving DecidableEq, Repr, Inhabited

/-- What a macro about the interval stands for. -/
inductive Interval where
  /-- The start of the interval in which a column lies. -/
  | bucket (precision : Precision)
  /-- The whole seconds of the interval. -/
  | seconds
  /-- The whole milliseconds of the interval. -/
  | millis
deriving DecidableEq, Repr, Inhabited

/-- What a macro stands for. -/
inductive Kind where
  | timeFilter (filter : TimeFilter)
  | interval (interval : Interval)
  | adHocFilter
  | round
  /-- The name of a query in front of another one; it stands for no expression. -/
  | ctePlaceholder
deriving DecidableEq, Repr, Inhabited

/-- An entry of the catalog. -/
structure Entry where
  name : String
  arity : Nat
  kind : Kind
deriving DecidableEq, Repr, Inhabited

/-- The macros that stand for expressions. -/
def catalog : List Entry :=
  [⟨"$__timeFilter", 1, .timeFilter (.range .seconds)⟩,
   ⟨"$__timeFilter_ms", 1, .timeFilter (.range .millis)⟩,
   ⟨"$__dateFilter", 1, .timeFilter .date⟩,
   ⟨"$__dateTimeFilter", 2, .timeFilter .dateTime⟩,
   ⟨"$__dt", 2, .timeFilter .dateTime⟩,
   ⟨"$__fromTime", 0, .timeFilter (.start .seconds)⟩,
   ⟨"$__toTime", 0, .timeFilter (.stop .seconds)⟩,
   ⟨"$__fromTime_ms", 0, .timeFilter (.start .millis)⟩,
   ⟨"$__toTime_ms", 0, .timeFilter (.stop .millis)⟩,
   ⟨"$__timeInterval", 1, .interval (.bucket .seconds)⟩,
   ⟨"$__timeInterval_ms", 1, .interval (.bucket .millis)⟩,
   ⟨"$__interval_s", 0, .interval .seconds⟩,
   ⟨"$__interval_ms", 0, .interval .millis⟩,
   ⟨"$__adHocFilter", 0, .adHocFilter⟩,
   ⟨"$__round", 1, .round⟩]

/-- What the catalog knows about a name with some number of arguments. -/
inductive Resolution where
  | found (entry : Entry)
  /-- The name takes other numbers of arguments. -/
  | mismatch (expected : List Nat)
  | unknown
deriving DecidableEq, Repr, Inhabited

/-- The entries of a name. -/
def entriesOf (name : String) : List Entry :=
  catalog.filter (·.name == name)

/-- Whether a name is that of a macro, with whatever number of arguments. -/
def isRegistered (name : String) : Bool :=
  catalog.any (·.name == name)

/-- Looks a name up with a number of arguments. -/
def resolve (name : String) (arity : Nat) : Resolution :=
  match (entriesOf name).find? (·.arity == arity), entriesOf name with
  | some entry, _ => .found entry
  | none, [] => .unknown
  | none, entries => .mismatch (entries.map Entry.arity)

end SqlTemplate.Macro
