import SqlTemplate.Sql.Printer

/-!
# Building phrases

A phrase is drafted from slots: a slot knows how it is written and what it is in a tree. Parts are
put into a draft in the order in which a walk meets them; their slots can then be written in any
order.

* `Draft.phrase` finishes a draft.
* `Draft.part` puts a part into a draft.
-/

namespace SqlTemplate.Sql

/-- A piece of a draft: how it is written, and what it is in a tree. -/
structure Slot where
  written : List Segment
  shape : Shape
deriving Repr, Inhabited

/-- Words of a phrase. -/
def words (text : String) : List Segment := [.words text]

/-- Words where a condition holds. -/
def wordsIf (condition : Bool) (text : String) : List Segment :=
  if condition then words text else []

/-- Syntax without parts as a slot. -/
def Wording.slot (w : Wording) : Slot := ⟨words w.text, w.shape⟩

/-- A word that is a kind of its own. -/
def keywordSlot (text kind : String) : Slot := ⟨words text, .text kind⟩

/-- A name as a slot. -/
def Ident.slot (i : Ident) : Slot := ⟨words i.toSql, .ident i⟩

/-- A name with its qualifiers in a tree. -/
def Name.shape (name : Name) : Shape := .list (name.map .ident)

/-- A name with its qualifiers as a slot. -/
def Name.slot (name : Name) : Slot := ⟨words name.toSql, name.shape⟩

/-- A constant as a slot. -/
def Literal.slot (value : Literal) : Slot := ⟨words value.toSql, .literal value⟩

/-- A text between quotes as a slot. -/
def textSlot (text : String) : Slot := ⟨words (writeQuoted '\'' text), .text text⟩

/-- A record with named parts. -/
def fields (members : List (String × Shape)) : Shape :=
  .record (members.map Prod.fst) (members.map Prod.snd)

/-- A node of a kind with named parts. -/
def form (kind : String) (members : List (String × Shape)) : Shape := .node kind (fields members)

/-- A slot in a tree, or nothing. -/
def optShape : Option Slot → Shape
  | none => .null
  | some slot => slot.shape

/-- Slots of a list in a tree. -/
def listShape (slots : List Slot) : Shape := .list (slots.map Slot.shape)

/-- Slots of a list in a tree, or nothing. -/
def optListShape : Option (List Slot) → Shape
  | none => .null
  | some slots => listShape slots

/-- A name with its qualifiers in a tree, or nothing. -/
def nameShape : Option Name → Shape
  | none => .null
  | some n => n.shape

/-- A truth value in a tree, or nothing. -/
def flagShape : Option Bool → Shape
  | none => .null
  | some b => .flag b

/-- A text in a tree, or nothing. -/
def textShape : Option String → Shape
  | none => .null
  | some text => .text text

/-- A name in a tree, or nothing. -/
def identShape : Option Ident → Shape
  | none => .null
  | some name => .ident name

/-- Segments with others between them. -/
def separated (separator : String) : List Slot → List Segment
  | [] => []
  | [slot] => slot.written
  | slot :: rest => slot.written ++ words separator ++ separated separator rest

/-- Slots with commas between them. -/
def commas (slots : List Slot) : List Segment := separated ", " slots

/-- A slot behind a lead, if it is there. -/
def behind (lead : String) : Option Slot → List Segment
  | none => []
  | some slot => words lead ++ slot.written

/-- Slots behind a lead, with commas; nothing if there are none. -/
def commasBehind (lead : String) : List Slot → List Segment
  | [] => []
  | slots => words lead ++ commas slots

/-- Slots between a lead and an end, with commas; nothing if there are none. -/
def commasWithin (lead closing : String) : List Slot → List Segment
  | [] => []
  | slots => words lead ++ commas slots ++ words closing

/-- A phrase in the making: the parts that it has so far. -/
abbrev Draft := StateM (List Part)

namespace Draft

/-- Puts a part into the draft. -/
def part (p : Part) : Draft Slot := do
  let parts ← get
  set (parts ++ [p])
  return ⟨[.part parts.length], .part parts.length⟩

/-- Puts parts into the draft in order. -/
def parts (ps : List Part) : Draft (List Slot) := ps.mapM part

/-- Puts a part into the draft, if it is there. -/
def optPart : Option Part → Draft (Option Slot)
  | none => return none
  | some p => return some (← part p)

/-- Puts an expression into the draft. -/
def expr (e : Expr) : Draft Slot := part (.expr e)

/-- Puts expressions into the draft in order. -/
def exprs (es : List Expr) : Draft (List Slot) := parts (es.map .expr)

/-- Puts an expression into the draft, if it is there. -/
def optExpr (e : Option Expr) : Draft (Option Slot) := optPart (e.map .expr)

/-- Puts the keys of an order into the draft. -/
def orders (items : List OrderItem) : Draft (List Slot) := parts (items.map .order)

/-- Puts the items of a selection into the draft, if they are there. -/
def optItems : Option (List SelectItem) → Draft (Option (List Slot))
  | none => return none
  | some items => return some (← parts (items.map .item))

/-- Puts a phrase into the draft. -/
def phrasePart (p : Phrase) : Draft Slot := part (.phrase p)

/-- Puts relations with those joined to them into the draft. -/
def sources (items : List FromItem) : Draft (List Slot) := parts (items.map .source)

/-- The phrase of a draft. -/
def phrase (draft : Draft Slot) : Phrase :=
  let (slot, parts) := draft.run []
  ⟨slot.written, slot.shape, parts⟩

end Draft

/-- Drafts one after the other. -/
def drafts (ds : List (Draft Slot)) : Draft (List Slot) := ds.mapM id

/-- A draft that may be missing. -/
def optDraft : Option (Draft Slot) → Draft (Option Slot)
  | none => return none
  | some d => some <$> d

/-- A phrase without parts. -/
def Wording.phrase (w : Wording) : Phrase := ⟨words w.text, w.shape, []⟩

end SqlTemplate.Sql
