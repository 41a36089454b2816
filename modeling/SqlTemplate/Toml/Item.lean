/-!
# Items of a TOML document

A document is a table of named items. A table remembers how it came about, because that decides
how it may still grow: one between braces is complete, one that a dotted key made grows by dotted
keys, one that a header went through can still be declared, and one that was declared cannot be
declared again.

* `assign` gives a dotted key its item.
* `within` changes the table at a path of headers.
-/

namespace SqlTemplate.Toml

/-- How a table came about. -/
inductive Origin where
  | braces
  | dotted
  | implied
  | declared
deriving DecidableEq, Repr, Inhabited

/-- An item. Only the kinds that a setting can have keep their value. -/
inductive Item where
  | string (text : String)
  | integer (value : Int)
  | bool (value : Bool)
  | float
  | moment
  | array (items : List Item)
  | table (origin : Origin) (members : List (String × Item))
  | tables (tables : List (List (String × Item)))
deriving Inhabited

/-- Named items in the order in which they came. -/
abbrev Table := List (String × Item)

namespace Table

/-- The item of a name. -/
def get? (t : Table) (name : String) : Option Item :=
  (t.find? (·.1 == name)).map (·.2)

/-- The table with an item in place of the one of the same name, or at the end. -/
def put (name : String) (item : Item) : Table → Table
  | [] => [(name, item)]
  | (n, i) :: rest => if n = name then (name, item) :: rest else (n, i) :: put name item rest

/-- Gives a dotted key its item; none if the key has one, or leads through something that dotted
keys cannot enter. -/
def assign : (path : List String) → (key : String) → Item → Table → Option Table
  | [], key, item, t =>
    match t.get? key with
    | none => some (t.put key item)
    | some _ => none
  | name :: path, key, item, t =>
    match t.get? name with
    | none => (assign path key item []).map fun inner => t.put name (.table .dotted inner)
    | some (.table .dotted inner) =>
      (assign path key item inner).map fun inner => t.put name (.table .dotted inner)
    | some (.table .implied inner) =>
      if path.isEmpty then none
      else (assign path key item inner).map fun inner => t.put name (.table .implied inner)
    | some (.tables tables) =>
      if path.isEmpty then none
      else (assign path key item (tables.getLast?.getD [])).map fun inner =>
        t.put name (.tables (tables.dropLast ++ [inner]))
    | some _ => none

/-- Changes the table at the end of a path of headers, and makes the tables on the way that are
missing. -/
def within : (path : List String) → (Table → Option Table) → Table → Option Table
  | [], f, t => f t
  | name :: path, f, t =>
    match t.get? name with
    | none => (within path f []).map fun inner => t.put name (.table .implied inner)
    | some (.table .braces _) => none
    | some (.table origin inner) =>
      (within path f inner).map fun inner => t.put name (.table origin inner)
    | some (.tables tables) =>
      (within path f (tables.getLast?.getD [])).map fun inner =>
        t.put name (.tables (tables.dropLast ++ [inner]))
    | some _ => none

/-- Gives several dotted keys their items. -/
def assignAll : List (List String × String × Item) → Table → Option Table
  | [], t => some t
  | (path, key, item) :: rest, t => (t.assign path key item).bind (assignAll rest)

/-- Declares a table by a header, with the keys that follow the header. -/
def declare (key : String) (keys : List (List String × String × Item)) (t : Table) :
    Option Table :=
  match t.get? key with
  | none => (assignAll keys []).map fun inner => t.put key (.table .declared inner)
  | some (.table .implied inner) =>
    (assignAll keys inner).map fun inner => t.put key (.table .declared inner)
  | some _ => none

/-- Adds a table to an array of tables, with the keys that follow the header. -/
def append (key : String) (keys : List (List String × String × Item)) (t : Table) :
    Option Table :=
  match t.get? key with
  | none => (assignAll keys []).map fun inner => t.put key (.tables [inner])
  | some (.tables tables) =>
    (assignAll keys []).map fun inner => t.put key (.tables (tables ++ [inner]))
  | some _ => none

end Table

end SqlTemplate.Toml
