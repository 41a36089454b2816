import SqlTemplate.Proofs.Messages
import SqlTemplate.Proofs.Nodes
import SqlTemplate.Proofs.Running

/-!
# Where names come from

A name in a tree that was read stands for a word of the text and keeps its place. The functions of a pivot are the
exception: they are made of a word, but do not keep its place. What is known of a value that was read is a matter of its
type, and what is known of a parser follows from what is known of the parsers that it is made of. Both are classes, so
that instances put together what is known of the parts of a value and of a parser.

* `Ident.From`: a name stands for a word of some tokens.
* `Traced`: the names of macros and placeholders in a value stand for words of some tokens.
* `Faithful`: a parser gives values that are traced to the tokens that it was given, leaves a rest of them, and finds
  faults at them only.
-/

namespace SqlTemplate.Sql

open Macro

/-! ## Names -/

/-- A grammar that reads the texts of a dialect. -/
def Grammar.Proper (g : Grammar) : Prop :=
  ∃ dialect depth, g = (grammars dialect depth).1 ∨ g = (grammars dialect depth).2

/-- A function of a pivot is read from here on: behind the parenthesis of the pivot, or behind a comma that follows
another function. -/
inductive PivotPlace (source : List Lexeme) : List Lexeme → Prop
  | first {pivot opening : Lexeme} {rest : List Lexeme} (hsource : pivot :: opening :: rest <:+ source)
      (hpivot : Parser.isWord "PIVOT" (some pivot))
        (hopening : Parser.isSign "(" (some opening)) : PivotPlace source rest
  | next {g : Grammar} {input rest : List Lexeme} {function : Expr × Option Ident} {comma : Lexeme} (hg : g.Proper)
      (hplace : PivotPlace source input) (hread : Parser.pivotFunction g input = .ok (function, comma :: rest))
      (hcomma : Parser.isSign "," (some comma)) : PivotPlace source rest

/-- A word with a parenthesis behind it is a function of a pivot. -/
def PivotFunction (source : List Lexeme) (text : String) : Prop :=
  ∃ word rest, PivotPlace source (word :: rest) ∧ (∃ quote, word.token = .word text quote) ∧
    Parser.isSign "(" rest.head?

/-- A name without quotes is a word of some tokens and keeps its place. -/
def Ident.From (source : List Lexeme) (name : Ident) : Prop :=
  name.quote = none → ∃ l ∈ source, l.token = .word name.text none ∧ name.span = some l.span

/-- The quotes of a name are quotes if the tokens were cut off a text. -/
def Ident.Quoted (source : List Lexeme) (name : Ident) : Prop :=
  (∀ l ∈ source, l.token.Scanned) → ∀ quote ∈ name.quote, IsQuote quote

/-- A name that is called is a word of some tokens and keeps its place, unless it is a function of a pivot. -/
def Ident.CalledFrom (source : List Lexeme) (name : Ident) : Prop :=
  name.From source ∨ name.span = none ∧ PivotFunction source name.text

/-- The names at a node itself stand for words of some tokens. -/
def Node.OwnFrom (source : List Lexeme) : Node → Prop
  | .expr e => ∀ name args, candidate? e = some (name, args) → name.CalledFrom source
  | .query q => ∀ cte ∈ q.ctes, cte.label.name.From source

/-- The names at a node and below it stand for words of some tokens. -/
inductive Node.From (source : List Lexeme) : Node → Prop
  | intro {n : Node} (own : n.OwnFrom source) (inside : ∀ c ∈ n.children, c.From source) : n.From source

theorem Node.From.own {source : List Lexeme} {n : Node} : n.From source → n.OwnFrom source
  | .intro own _ => own

theorem Node.From.inside {source : List Lexeme} {n : Node} : n.From source → ∀ c ∈ n.children, c.From source
  | .intro _ inside => inside

/-! ## Values -/

/-- Values of a type whose names can be traced to tokens. -/
class Traceable (α : Type) where
  traced : List Lexeme → α → Prop

/-- The names in a value stand for words of some tokens. -/
class Traced {α : Type} [Traceable α] (source : List Lexeme) (a : α) : Prop where
  out : Traceable.traced source a

/-- Values without names that matter. -/
class Nameless (α : Type) [Traceable α] : Prop where
  traced : ∀ (source : List Lexeme) (a : α), Traced source a

/-- How values without names are traced. -/
abbrev Traceable.trivially {α : Type} : Traceable α := ⟨fun _ _ => True⟩

/-- How values are traced by the nodes in them. -/
abbrev Traceable.byNodes {α : Type} (nodes : α → List Node) : Traceable α :=
  ⟨fun source a => ∀ n ∈ nodes a, n.From source⟩

/-- The values of these types hold no names. -/
instance : Traceable Bool := .trivially
instance : Traceable Nat := .trivially
instance : Traceable Unit := .trivially
instance : Traceable String := .trivially
instance : Traceable Char := .trivially
instance : Traceable Literal := .trivially
instance : Traceable Wording := .trivially
instance : Traceable Text.Span := .trivially
instance : Traceable Mark := .trivially
instance : Traceable BinaryOp := .trivially
instance : Traceable Property := .trivially
instance : Traceable Among := .trivially
instance : Traceable LikeKind := .trivially
instance : Traceable CastStyle := .trivially
instance : Traceable Repeats := .trivially
instance : Traceable NamedStyle := .trivially
instance : Traceable NullTreatment := .trivially
instance : Traceable CallStyle := .trivially
instance : Traceable SetOp := .trivially
instance : Traceable SetQuantifier := .trivially
instance : Traceable GroupModifier := .trivially
instance : Traceable JoinKind := .trivially
instance : Traceable OffsetRows := .trivially
instance : Traceable DescribeWord := .trivially
instance : Traceable OutputFormat := .trivially
instance : Traceable Qualifier := .trivially
instance : Traceable Delivery := .trivially
instance : Traceable Slot := .trivially
instance : Traceable Shape := .trivially

instance : Nameless Bool := ⟨fun _ _ => ⟨trivial⟩⟩
instance : Nameless Nat := ⟨fun _ _ => ⟨trivial⟩⟩
instance : Nameless Unit := ⟨fun _ _ => ⟨trivial⟩⟩
instance : Nameless String := ⟨fun _ _ => ⟨trivial⟩⟩
instance : Nameless Char := ⟨fun _ _ => ⟨trivial⟩⟩
instance : Nameless Literal := ⟨fun _ _ => ⟨trivial⟩⟩
instance : Nameless Wording := ⟨fun _ _ => ⟨trivial⟩⟩
instance : Nameless Text.Span := ⟨fun _ _ => ⟨trivial⟩⟩
instance : Nameless Mark := ⟨fun _ _ => ⟨trivial⟩⟩
instance : Nameless BinaryOp := ⟨fun _ _ => ⟨trivial⟩⟩
instance : Nameless Property := ⟨fun _ _ => ⟨trivial⟩⟩
instance : Nameless Among := ⟨fun _ _ => ⟨trivial⟩⟩
instance : Nameless LikeKind := ⟨fun _ _ => ⟨trivial⟩⟩
instance : Nameless CastStyle := ⟨fun _ _ => ⟨trivial⟩⟩
instance : Nameless Repeats := ⟨fun _ _ => ⟨trivial⟩⟩
instance : Nameless NamedStyle := ⟨fun _ _ => ⟨trivial⟩⟩
instance : Nameless NullTreatment := ⟨fun _ _ => ⟨trivial⟩⟩
instance : Nameless CallStyle := ⟨fun _ _ => ⟨trivial⟩⟩
instance : Nameless SetOp := ⟨fun _ _ => ⟨trivial⟩⟩
instance : Nameless SetQuantifier := ⟨fun _ _ => ⟨trivial⟩⟩
instance : Nameless GroupModifier := ⟨fun _ _ => ⟨trivial⟩⟩
instance : Nameless JoinKind := ⟨fun _ _ => ⟨trivial⟩⟩
instance : Nameless OffsetRows := ⟨fun _ _ => ⟨trivial⟩⟩
instance : Nameless DescribeWord := ⟨fun _ _ => ⟨trivial⟩⟩
instance : Nameless OutputFormat := ⟨fun _ _ => ⟨trivial⟩⟩
instance : Nameless Qualifier := ⟨fun _ _ => ⟨trivial⟩⟩
instance : Nameless Delivery := ⟨fun _ _ => ⟨trivial⟩⟩
instance : Nameless Slot := ⟨fun _ _ => ⟨trivial⟩⟩
instance : Nameless Shape := ⟨fun _ _ => ⟨trivial⟩⟩

instance : Traceable Lexeme := ⟨fun source l => l ∈ source⟩
instance : Traceable Ident := ⟨fun source name => name.From source ∧ name.Quoted source⟩
instance : Traceable Expr := ⟨fun source e => (Node.expr e).From source⟩
instance : Traceable Query := ⟨fun source q => (Node.query q).From source⟩
instance : Traceable Cte := ⟨fun source c => c.label.name.From source ∧ ∀ n ∈ c.nodes, n.From source⟩
instance : Traceable ArgList := .byNodes ArgList.nodes
instance : Traceable Arg := .byNodes Arg.nodes
instance : Traceable OrderItem := .byNodes OrderItem.nodes
instance : Traceable ColumnDef := .byNodes ColumnDef.nodes
instance : Traceable TableAlias := ⟨fun source t => Traced source t.name ∧ ∀ n ∈ t.nodes, n.From source⟩
instance : Traceable Body := .byNodes Body.nodes
instance : Traceable Select := .byNodes Select.nodes
instance : Traceable SelectItem := .byNodes SelectItem.nodes
instance : Traceable Relation :=
  ⟨fun source r => (∀ label ∈ Parser.Relation.label r, Traced source label.name) ∧ ∀ n ∈ r.nodes, n.From source⟩
instance : Traceable FromItem := ⟨fun source f => Traced source f.relation ∧ ∀ n ∈ f.nodes, n.From source⟩
instance : Traceable Join := .byNodes Join.nodes
instance : Traceable JoinConstraint := .byNodes JoinConstraint.nodes
instance : Traceable Phrase := .byNodes Phrase.nodes
instance : Traceable Part := .byNodes Part.nodes
instance : Traceable Statement := .byNodes Statement.nodes

section

variable {source : List Lexeme} {α β : Type} [Traceable α] [Traceable β]

instance [h : Nameless α] {a : α} : Traced source a := h.traced source a

/-- A value that comes with its trace. -/
instance {a : {a : α // Traced source a}} : Traced source a.val := a.2

instance : Traceable (Option α) := ⟨fun source o => ∀ a ∈ o, Traced source a⟩
instance : Traceable (List α) := ⟨fun source as => ∀ a ∈ as, Traced source a⟩
instance : Traceable (α × β) := ⟨fun source p => Traced source p.1 ∧ Traced source p.2⟩

/-- What is left of tokens is traced as a whole. -/
instance (priority := high) : Traceable (List Lexeme) := ⟨fun source rest => rest <:+ source⟩

instance [h : Nameless α] : Nameless (Option α) := ⟨fun source _ => ⟨fun a _ => h.traced source a⟩⟩
instance [h : Nameless α] : Nameless (List α) := ⟨fun source _ => ⟨fun a _ => h.traced source a⟩⟩

instance : Traced source (none : Option α) := ⟨fun _ h => nomatch h⟩

instance {a : α} [h : Traced source a] : Traced source (some a) := ⟨fun b hb => by
  rw [← Option.some.inj hb]
  exact h⟩

instance : Traced source ([] : List α) := ⟨fun _ h => nomatch h⟩

instance {a : α} {as : List α} [h : Traced source a] [hs : Traced source as] : Traced source (a :: as) :=
  ⟨List.forall_mem_cons.2 ⟨h, hs.out⟩⟩

instance {as bs : List α} [ha : Traced source as] [hb : Traced source bs] : Traced source (as ++ bs) :=
  ⟨List.forall_mem_append.2 ⟨ha.out, hb.out⟩⟩

instance {as : List α} {f : α → β} [h : Traced source as]
    [hf : ∀ a : {a : α // Traced source a}, Traced source (f a.val)] :
    Traced source (as.map f) := ⟨fun b hb => by
  obtain ⟨a, ha, rfl⟩ := List.mem_map.1 hb
  exact hf ⟨a, h.out a ha⟩⟩

instance {o : Option α} {f : α → β} [h : Traced source o]
    [hf : ∀ a : {a : α // Traced source a}, Traced source (f a.val)] :
    Traced source (o.map f) := ⟨fun b hb => by
  obtain ⟨a, ha, rfl⟩ := Option.map_eq_some_iff.1 hb
  exact hf ⟨a, h.out a ha⟩⟩

instance {o : Option α} {a : α} [h : Traced source o] [ha : Traced source a] : Traced source (o.getD a) := by
  cases o with
  | none => exact ha
  | some b => exact h.out b rfl

instance {o : Option α} [h : Traced source o] : Traced source o.toList :=
  ⟨fun a ha => h.out a (Option.mem_toList.1 ha)⟩

instance {a : α} {b : β} [ha : Traced source a] [hb : Traced source b] : Traced source (a, b) := ⟨ha, hb⟩

instance {p : α × β} [h : Traced source p] : Traced source p.1 := h.out.1

instance {p : α × β} [h : Traced source p] : Traced source p.2 := h.out.2

instance {c : Prop} [Decidable c] {a b : α} [ha : Traced source a] [hb : Traced source b] :
    Traced source (if c then a else b) := by
  split
  · exact ha
  · exact hb

end

/-! ## Trees -/

section

variable {source : List Lexeme}

/-- The names of some nodes and below them stand for words of some tokens. -/
class NodesFrom (source : List Lexeme) (ns : List Node) : Prop where
  out : ∀ n ∈ ns, n.From source

instance : NodesFrom source [] := ⟨fun _ h => nomatch h⟩

instance {e : Expr} {ns : List Node} [h : Traced source e] [hs : NodesFrom source ns] :
    NodesFrom source (.expr e :: ns) := ⟨List.forall_mem_cons.2 ⟨h.out, hs.out⟩⟩

instance {q : Query} {ns : List Node} [h : Traced source q] [hs : NodesFrom source ns] :
    NodesFrom source (.query q :: ns) := ⟨List.forall_mem_cons.2 ⟨h.out, hs.out⟩⟩

instance {ns ns' : List Node} [h : NodesFrom source ns] [h' : NodesFrom source ns'] : NodesFrom source (ns ++ ns') :=
  ⟨List.forall_mem_append.2 ⟨h.out, h'.out⟩⟩

instance {es : List Expr} [h : Traced source es] : NodesFrom source (es.map .expr) := ⟨fun n hn => by
  obtain ⟨e, he, rfl⟩ := List.mem_map.1 hn
  exact (h.out e he).out⟩

instance {s : Statement} [h : Traced source s] : NodesFrom source s.nodes := ⟨h.out⟩
instance {a : ArgList} [h : Traced source a] : NodesFrom source a.nodes := ⟨h.out⟩
instance {a : Arg} [h : Traced source a] : NodesFrom source a.nodes := ⟨h.out⟩
instance {o : OrderItem} [h : Traced source o] : NodesFrom source o.nodes := ⟨h.out⟩
instance {c : ColumnDef} [h : Traced source c] : NodesFrom source c.nodes := ⟨h.out⟩
instance {t : TableAlias} [h : Traced source t] : NodesFrom source t.nodes := ⟨h.out.2⟩
instance {b : Body} [h : Traced source b] : NodesFrom source b.nodes := ⟨h.out⟩
instance {s : Select} [h : Traced source s] : NodesFrom source s.nodes := ⟨h.out⟩
instance {s : SelectItem} [h : Traced source s] : NodesFrom source s.nodes := ⟨h.out⟩
instance {f : FromItem} [h : Traced source f] : NodesFrom source f.nodes := ⟨h.out.2⟩
instance {r : Relation} [h : Traced source r] : NodesFrom source r.nodes := ⟨h.out.2⟩
instance {j : Join} [h : Traced source j] : NodesFrom source j.nodes := ⟨h.out⟩
instance {j : JoinConstraint} [h : Traced source j] : NodesFrom source j.nodes := ⟨h.out⟩
instance {p : Phrase} [h : Traced source p] : NodesFrom source p.nodes := ⟨h.out⟩
instance {p : Part} [h : Traced source p] : NodesFrom source p.nodes := ⟨h.out⟩

instance {c : Cte} [h : Traced source c] : NodesFrom source c.nodes := ⟨h.out.2⟩

/-- What is known of the members of a list is known of the nodes in it. -/
theorem NodesFrom.list {α : Type} {nodes : α → List Node} {listNodes : List α → List Node} (hnil : listNodes [] = [])
    (hcons : ∀ a as, listNodes (a :: as) = nodes a ++ listNodes as) :
    ∀ {as : List α}, (∀ a ∈ as, NodesFrom source (nodes a)) → NodesFrom source (listNodes as)
  | [], _ => by
    rw [hnil]
    infer_instance
  | a :: as, h => by
    obtain ⟨ha, has⟩ := List.forall_mem_cons.1 h
    have := NodesFrom.list hnil hcons has
    rw [hcons]
    infer_instance

instance {as : List Arg} [h : Traced source as] : NodesFrom source (argNodes as) :=
  .list rfl (fun _ _ => rfl) fun a ha => have := h.out a ha; (inferInstance : NodesFrom source a.nodes)

instance {as : List OrderItem} [h : Traced source as] : NodesFrom source (orderNodes as) :=
  .list rfl (fun _ _ => rfl) fun a ha => have := h.out a ha; (inferInstance : NodesFrom source a.nodes)

instance {as : List ColumnDef} [h : Traced source as] : NodesFrom source (columnDefNodes as) :=
  .list rfl (fun _ _ => rfl) fun a ha => have := h.out a ha; (inferInstance : NodesFrom source a.nodes)

instance {as : List Cte} [h : Traced source as] : NodesFrom source (cteNodes as) :=
  .list rfl (fun _ _ => rfl) fun a ha => have := h.out a ha; (inferInstance : NodesFrom source a.nodes)

instance {as : List (List Expr)} [h : Traced source as] : NodesFrom source (rowNodes as) :=
  .list rfl (fun _ _ => rfl) fun a ha => have := h.out a ha; (inferInstance : NodesFrom source (a.map .expr))

instance {as : List SelectItem} [h : Traced source as] : NodesFrom source (selectItemNodes as) :=
  .list rfl (fun _ _ => rfl) fun a ha => have := h.out a ha; (inferInstance : NodesFrom source a.nodes)

instance {as : List FromItem} [h : Traced source as] : NodesFrom source (fromNodes as) :=
  .list rfl (fun _ _ => rfl) fun a ha => have := h.out a ha; (inferInstance : NodesFrom source a.nodes)

instance {as : List Join} [h : Traced source as] : NodesFrom source (joinNodes as) :=
  .list rfl (fun _ _ => rfl) fun a ha => have := h.out a ha; (inferInstance : NodesFrom source a.nodes)

instance {as : List Phrase} [h : Traced source as] : NodesFrom source (phraseNodes as) :=
  .list rfl (fun _ _ => rfl) fun a ha => have := h.out a ha; (inferInstance : NodesFrom source a.nodes)

instance {as : List Part} [h : Traced source as] : NodesFrom source (partNodes as) :=
  .list rfl (fun _ _ => rfl) fun a ha => have := h.out a ha; (inferInstance : NodesFrom source a.nodes)

/-- What is known of a member that may be missing is known of the nodes in it. -/
theorem NodesFrom.option {α : Type} {nodes : α → List Node} {optNodes : Option α → List Node}
    (hnone : optNodes none = []) (hsome : ∀ a, optNodes (some a) = nodes a) :
    ∀ {o : Option α}, (∀ a ∈ o, NodesFrom source (nodes a)) → NodesFrom source (optNodes o)
  | none, _ => by
    rw [hnone]
    infer_instance
  | some a, h => by
    rw [hsome]
    exact h a rfl

instance {o : Option TableAlias} [h : Traced source o] : NodesFrom source (optAliasNodes o) :=
  .option rfl (fun _ => rfl) fun a ha => have := h.out a ha; (inferInstance : NodesFrom source a.nodes)

instance {o : Option (List Arg)} [h : Traced source o] : NodesFrom source (optArgNodes o) :=
  .option rfl (fun _ => rfl) fun a ha => have := h.out a ha; (inferInstance : NodesFrom source (argNodes a))

instance {o : Option Phrase} [h : Traced source o] : NodesFrom source (optPhraseNodes o) :=
  .option rfl (fun _ => rfl) fun a ha => have := h.out a ha; (inferInstance : NodesFrom source a.nodes)

instance {o : Option ArgList} [h : Traced source o] : NodesFrom source (optArgListNodes o) :=
  .option rfl (fun _ => rfl) fun a ha => have := h.out a ha; (inferInstance : NodesFrom source a.nodes)

theorem NodesFrom.of_eq {ns ns' : List Node} (h : ns = ns') [hns : NodesFrom source ns'] : ∀ n ∈ ns, n.From source :=
  fun n hn => hns.out n (h ▸ hn)

instance {repeats : Option Repeats} {args : List Arg} {clauses : List Phrase} [Traced source args]
    [Traced source clauses] :
    Traced source (⟨repeats, args, clauses⟩ : ArgList) :=
  ⟨NodesFrom.of_eq (by rw [ArgList.nodes])⟩

instance {label : Option (Ident × NamedStyle)} {value : Expr} [Traced source value] :
    Traced source (Arg.expr label value) :=
  ⟨NodesFrom.of_eq (by rw [Arg.nodes])⟩

instance {label : Option (Ident × NamedStyle)} {qualifier : Name} : Traced source (Arg.wildcard label qualifier) :=
  ⟨NodesFrom.of_eq (by rw [Arg.nodes])⟩

instance {expr : Expr} {ascending nullsFirst : Option Bool} {fill : Option Phrase} [Traced source expr]
    [Traced source fill] :
    Traced source (⟨expr, ascending, nullsFirst, fill⟩ : OrderItem) :=
  ⟨NodesFrom.of_eq (by rw [OrderItem.nodes])⟩

instance {name : Ident} {type : Option Phrase} [Traced source type] : Traced source (⟨name, type⟩ : ColumnDef) :=
  ⟨NodesFrom.of_eq (by rw [ColumnDef.nodes])⟩

instance {name : Ident} {columns : List ColumnDef} [h : Traced source name] [Traced source columns] :
    Traced source (⟨name, columns⟩ : TableAlias) :=
  ⟨h, NodesFrom.of_eq (by rw [TableAlias.nodes])⟩

/-- The name of a relation is traced with its alias. -/
theorem label_traced (label : Option TableAlias) [h : Traced source label] :
    ∀ t ∈ label, Traced source t.name := fun t ht => (h.out t ht).out.1

instance {s : Select} [Traced source s] : Traced source (Body.select s) :=
  ⟨NodesFrom.of_eq (by rw [Body.nodes])⟩

instance {q : Query} [Traced source q] : Traced source (Body.query q) :=
  ⟨NodesFrom.of_eq (by rw [Body.nodes])⟩

instance {op : SetOp} {quantifier : SetQuantifier} {left right : Body} [Traced source left] [Traced source right] :
    Traced source (Body.setOperation op quantifier left right) :=
  ⟨NodesFrom.of_eq (by rw [Body.nodes])⟩

instance {marked : Bool} {rows : List (List Expr)} [Traced source rows] : Traced source (Body.values marked rows) :=
  ⟨NodesFrom.of_eq (by rw [Body.nodes])⟩

instance {schema : Option String} {table : String} : Traced source (Body.table schema table) :=
  ⟨NodesFrom.of_eq (by rw [Body.nodes])⟩

instance {kind : String} {p : Phrase} [Traced source p] : Traced source (Body.command kind p) :=
  ⟨NodesFrom.of_eq (by rw [Body.nodes])⟩

instance {e : Expr} {label : Option Ident} [Traced source e] : Traced source (SelectItem.expr e label) :=
  ⟨NodesFrom.of_eq (by rw [SelectItem.nodes])⟩

instance {qualifier : Name} {star : Text.Span} {options : Option Phrase} [Traced source options] :
    Traced source (SelectItem.wildcard qualifier star options) :=
  ⟨NodesFrom.of_eq (by rw [SelectItem.nodes])⟩

instance {relation : Relation} {joins : List Join} [h : Traced source relation] [Traced source joins] :
    Traced source (⟨relation, joins⟩ : FromItem) :=
  ⟨h, NodesFrom.of_eq (by rw [FromItem.nodes])⟩

instance {name : Name} {partitions : List Ident} {args : Option (List Arg)} {settings : List (Ident × Literal)}
    {ordinality : Bool} {label : Option TableAlias} {hints : List Expr} [Traced source args] [Traced source label]
    [Traced source hints] :
    Traced source (Relation.table name partitions args settings ordinality label hints) :=
  ⟨label_traced label, NodesFrom.of_eq (by rw [Relation.nodes])⟩

instance {lateral : Bool} {q : Query} {label : Option TableAlias} [Traced source q] [Traced source label] :
    Traced source (Relation.derived lateral q label) :=
  ⟨label_traced label, NodesFrom.of_eq (by rw [Relation.nodes])⟩

instance {e : Expr} {label : Option TableAlias} [Traced source e] [Traced source label] :
    Traced source (Relation.function e label) :=
  ⟨label_traced label, NodesFrom.of_eq (by rw [Relation.nodes])⟩

instance {inner : FromItem} {label : Option TableAlias} [Traced source inner] [Traced source label] :
    Traced source (Relation.nested inner label) :=
  ⟨label_traced label, NodesFrom.of_eq (by rw [Relation.nodes])⟩

instance {arrays : List Expr} {ordinality : Bool} {offset : Option (Option Ident)} {label : Option TableAlias}
    [Traced source arrays] [Traced source label] :
    Traced source (Relation.unnest arrays ordinality offset label) :=
  ⟨label_traced label, NodesFrom.of_eq (by rw [Relation.nodes])⟩

instance {p : Phrase} {label : Option TableAlias} [Traced source p] [Traced source label] :
    Traced source (Relation.phrase p label) :=
  ⟨label_traced label, NodesFrom.of_eq (by rw [Relation.nodes])⟩

instance {kind : JoinKind} {global : Bool} {relation : Relation} {matching : Option Expr} {constraint : JoinConstraint}
    [Traced source relation] [Traced source matching] [Traced source constraint] :
    Traced source (⟨kind, global, relation, matching, constraint⟩ : Join) :=
  ⟨NodesFrom.of_eq (by rw [Join.nodes])⟩

instance  : Traced source JoinConstraint.none :=
  ⟨NodesFrom.of_eq (by rw [JoinConstraint.nodes])⟩

instance  : Traced source JoinConstraint.natural :=
  ⟨NodesFrom.of_eq (by rw [JoinConstraint.nodes])⟩

instance {e : Expr} [Traced source e] : Traced source (JoinConstraint.on e) :=
  ⟨NodesFrom.of_eq (by rw [JoinConstraint.nodes])⟩

instance {columns : List Ident} : Traced source (JoinConstraint.using columns) :=
  ⟨NodesFrom.of_eq (by rw [JoinConstraint.nodes])⟩

instance {a : Expr} [Traced source a] : Traced source (Part.expr a) :=
  ⟨NodesFrom.of_eq (by rw [Part.nodes])⟩

instance {a : Arg} [Traced source a] : Traced source (Part.arg a) :=
  ⟨NodesFrom.of_eq (by rw [Part.nodes])⟩

instance {a : OrderItem} [Traced source a] : Traced source (Part.order a) :=
  ⟨NodesFrom.of_eq (by rw [Part.nodes])⟩

instance {a : Query} [Traced source a] : Traced source (Part.query a) :=
  ⟨NodesFrom.of_eq (by rw [Part.nodes])⟩

instance {a : SelectItem} [Traced source a] : Traced source (Part.item a) :=
  ⟨NodesFrom.of_eq (by rw [Part.nodes])⟩

instance {a : FromItem} [Traced source a] : Traced source (Part.source a) :=
  ⟨NodesFrom.of_eq (by rw [Part.nodes])⟩

instance {a : Relation} [Traced source a] : Traced source (Part.relation a) :=
  ⟨NodesFrom.of_eq (by rw [Part.nodes])⟩

instance {a : Phrase} [Traced source a] : Traced source (Part.phrase a) :=
  ⟨NodesFrom.of_eq (by rw [Part.nodes])⟩

instance {w : Wording} : Traced source w.phrase :=
  ⟨fun _ h => nomatch h⟩

instance {q : Query} [Traced source q] : Traced source (Statement.query q) :=
  ⟨NodesFrom.of_eq (by rw [Statement.nodes])⟩

instance {p : Phrase} [Traced source p] : Traced source (Statement.command p) :=
  ⟨NodesFrom.of_eq (by rw [Statement.nodes])⟩

instance {word : DescribeWord} {format : Option Wording} {tableWord : Bool} {name : Name} :
    Traced source (Statement.explainTable word format tableWord name) :=
  ⟨NodesFrom.of_eq (by rw [Statement.nodes])⟩

instance {word : DescribeWord} {analyze verbose queryPlan : Bool} {format : Option Wording} {options : Option Phrase}
    {inner : Statement} [Traced source options] [Traced source inner] :
    Traced source (Statement.explain word analyze verbose queryPlan format options inner) :=
  ⟨NodesFrom.of_eq (by rw [Statement.nodes])⟩

instance {selectWord : Mark} {distinct top : Option Phrase} {items : List SelectItem} {into : Option Wording}
    {from_ : List FromItem} {lateralViews : List Phrase} {prewhere where_ : Option Expr} {groupByAll : Bool}
    {groupBy : List Expr} {groupModifiers : List GroupModifier} {clusterBy distributeBy sortBy : List Expr}
    {having : Option Expr} {windows : List Phrase} {qualify : Option Expr} {windowsFirst : Bool}
    {connectBy : Option Phrase} [Traced source distinct] [Traced source top] [Traced source items] [Traced source from_]
    [Traced source lateralViews] [Traced source prewhere] [Traced source where_] [Traced source groupBy]
    [Traced source clusterBy] [Traced source distributeBy] [Traced source sortBy] [Traced source having]
    [Traced source windows] [Traced source qualify] [Traced source connectBy] :
    Traced source (⟨selectWord, distinct, top, items, into, from_, lateralViews, prewhere, where_, groupByAll, groupBy,
      groupModifiers, clusterBy, distributeBy, sortBy, having, windows, qualify, windowsFirst, connectBy⟩ : Select) :=
  ⟨NodesFrom.of_eq (by rw [Select.nodes])⟩

instance {name : Ident} {columns : List ColumnDef} {q : Query} {from_ : Option Ident} {closing : Text.Span}
    [h : Traced source name] [Traced source columns] [Traced source q] :
    Traced source (⟨⟨name, columns⟩, q, from_, closing⟩ : Cte) :=
  ⟨h.out.1, NodesFrom.of_eq (by rw [Cte.nodes])⟩

instance {withWord : Option Mark} {recursive : Bool} {ctes : List Cte} {body : Body} {orderBy : List OrderItem}
    {interpolate : Option Phrase} {limit : Option Expr} {limitBy : List Expr} {offset : Option Expr}
    {offsetRows : OffsetRows} {settings : List (Ident × Literal)} {delivery : Delivery} {format : Option OutputFormat}
    [hctes : Traced source ctes] [Traced source body] [Traced source orderBy] [Traced source interpolate]
    [Traced source limit] [Traced source limitBy] [Traced source offset] :
    Traced source (⟨withWord, recursive, ctes, body, orderBy, interpolate, limit, limitBy, offset, offsetRows, settings,
      delivery, format⟩ : Query) :=
  ⟨.intro (fun c hc => (hctes.out c hc).out.1) (NodesFrom.of_eq (by rw [Node.children, Query.children]))⟩

/-- An expression that is no candidate for a macro is traced by the nodes below it. -/
theorem Traced.of_children {e : Expr} {ns : List Node} (hcandidate : candidate? e = none) (hchildren : e.children = ns)
    [NodesFrom source ns] : Traced source e :=
  ⟨.intro (fun _ _ h => nomatch hcandidate.symm.trans h) (NodesFrom.of_eq hchildren)⟩

instance {value : Literal} : Traced source (Expr.literal value) :=
  .of_children rfl (by rw [Expr.children])

instance {type : Phrase} {text : String} [Traced source type] : Traced source (Expr.typedString type text) :=
  .of_children rfl (by rw [Expr.children])

instance {inner : Expr} [Traced source inner] : Traced source (Expr.nested inner) :=
  .of_children rfl (by rw [Expr.children])

instance {op : UnaryOp} {operand : Expr} [Traced source operand] : Traced source (Expr.unary op operand) :=
  .of_children rfl (by rw [Expr.children])

instance {op : BinaryOp} {left right : Expr} [Traced source left] [Traced source right] :
    Traced source (Expr.binary left op right) :=
  .of_children rfl (by rw [Expr.children])

instance {op : BinaryOp} {among : Among} {left right : Expr} [Traced source left] [Traced source right] :
    Traced source (Expr.compare left op among right) :=
  .of_children rfl (by rw [Expr.children])

instance {operand : Expr} {property : Property} [Traced source operand] : Traced source (Expr.is operand property) :=
  .of_children rfl (by rw [Expr.children])

instance {left right : Expr} {negated : Bool} [Traced source left] [Traced source right] :
    Traced source (Expr.isDistinct left right negated) :=
  .of_children rfl (by rw [Expr.children])

instance {operand : Expr} {items : List Expr} {negated : Bool} [Traced source operand] [Traced source items] :
    Traced source (Expr.inList operand items negated) :=
  .of_children rfl (by rw [Expr.children])

instance {operand : Expr} {q : Query} {negated : Bool} [Traced source operand] [Traced source q] :
    Traced source (Expr.inQuery operand q negated) :=
  .of_children rfl (by rw [Expr.children])

instance {operand low high : Expr} {negated : Bool} [Traced source operand] [Traced source low] [Traced source high] :
    Traced source (Expr.between operand low high negated) :=
  .of_children rfl (by rw [Expr.children])

instance {kind : LikeKind} {operand pattern : Expr} {negated any : Bool} {escape : Option String}
    [Traced source operand] [Traced source pattern] :
    Traced source (Expr.like kind operand pattern negated any escape) :=
  .of_children rfl (by rw [Expr.children])

instance {operand otherwise : Option Expr} {conditions results : List Expr} [Traced source operand]
    [Traced source conditions] [Traced source results] [Traced source otherwise] :
    Traced source (Expr.case operand conditions results otherwise) :=
  .of_children rfl (by rw [Expr.children])

instance {style : CastStyle} {operand : Expr} {type : Phrase} [Traced source operand] [Traced source type] :
    Traced source (Expr.cast style operand type) :=
  .of_children rfl (by rw [Expr.children])

instance {q : Query} {negated : Bool} [Traced source q] : Traced source (Expr.exists q negated) :=
  .of_children rfl (by rw [Expr.children])

instance {q : Query} [Traced source q] : Traced source (Expr.subquery q) :=
  .of_children rfl (by rw [Expr.children])

instance {items : List Expr} [Traced source items] : Traced source (Expr.tuple items) :=
  .of_children rfl (by rw [Expr.children])

instance {items : List Expr} {named : Bool} [Traced source items] : Traced source (Expr.array items named) :=
  .of_children rfl (by rw [Expr.children])

instance {operand index : Expr} [Traced source operand] [Traced source index] :
    Traced source (Expr.subscript operand index) :=
  .of_children rfl (by rw [Expr.children])

instance {operand : Expr} {keys : List Expr} [Traced source operand] [Traced source keys] :
    Traced source (Expr.element operand keys) :=
  .of_children rfl (by rw [Expr.children])

instance {value : Expr} {qualifier : Qualifier} [Traced source value] :
    Traced source (Expr.interval value qualifier) :=
  .of_children rfl (by rw [Expr.children])

instance {name : Name} : Traced source (Expr.compound name) :=
  .of_children rfl (by rw [Expr.children])

instance {p : Phrase} [Traced source p] : Traced source (Expr.phrase p) :=
  .of_children rfl (by rw [Expr.children])

instance {name : Ident} [h : Traced source name] : Traced source (Expr.ident name) := by
  refine ⟨.intro (fun _ _ hn => ?_) (NodesFrom.of_eq (by rw [Node.children, Expr.children]))⟩
  cases hn
  exact .inl h.out.1

/-- The names of a function that is called stand for words of some tokens. -/
class Called (source : List Lexeme) (function : Name) : Prop where
  out : ∀ name ∈ function, name.CalledFrom source

instance {function : Name} [h : Traced source function] : Called source function :=
  ⟨fun name hname => .inl (h.out name hname).out.1⟩

/-- An expression that calls a function is traced where the function is. -/
theorem Traced.of_function {e : Expr} (function : Name) [h : Called source function]
    (hname : ∀ name args, candidate? e = some (name, args) → name ∈ function) (hinside : NodesFrom source e.children) :
    Traced source e := ⟨.intro (fun name args hcandidate => h.out name (hname name args hcandidate)) hinside.out⟩

instance {function : Name} [Called source function] : Traced source (Expr.bareCall function) :=
  .of_function function (fun _ _ h => by rcases function with _ | ⟨_, _ | _⟩ <;> cases h; exact List.mem_cons_self)
    (by rw [Expr.children]; infer_instance)

instance {function : Name} {q : Query} [Called source function] [Traced source q] :
    Traced source (Expr.queryCall function q) :=
  .of_function function (fun _ _ h => by rcases function with _ | ⟨_, _ | _⟩ <;> cases h; exact List.mem_cons_self)
    (by rw [Expr.children]; infer_instance)

instance {function : Name} {parameters : Option ArgList} {args : ArgList} {style : CallStyle}
    {window withinGroup : Option Phrase} [Called source function] [Traced source parameters] [Traced source args]
    [Traced source window] [Traced source withinGroup] :
    Traced source (Expr.call function parameters args style window withinGroup) :=
  .of_function function (fun _ _ h => by rcases function with _ | ⟨_, _ | _⟩ <;> cases h; exact List.mem_cons_self)
    (by rw [Expr.children]; infer_instance)

/-! ### Parts of trees -/

instance {a : ArgList} [h : Traced source a] : Traced source a.args := ⟨fun _ ha => ⟨fun n hn => by
  obtain ⟨repeats, args, clauses⟩ := a
  exact h.out n (List.mem_append_left _ (mem_listed argNodes (fun _ _ => rfl) hn ha))⟩⟩

instance {a : ArgList} [h : Traced source a] : Traced source a.clauses := ⟨fun _ hp => ⟨fun n hn => by
  obtain ⟨repeats, args, clauses⟩ := a
  exact h.out n (List.mem_append_right _ (mem_listed phraseNodes (fun _ _ => rfl) hn hp))⟩⟩

instance {f : FromItem} [h : Traced source f] : Traced source f.relation := h.out.1

theorem Traced.of_call {name : Name} {parameters : Option ArgList} {args : ArgList} {style : CallStyle}
    {window withinGroup : Option Phrase} (h : Traced source (Expr.call name parameters args style window withinGroup)) :
    Traced source parameters ∧ Traced source args ∧ Traced source window ∧ Traced source withinGroup := by
  have hinside := h.out.inside
  simp only [Node.children, Expr.children, List.forall_mem_append] at hinside
  obtain ⟨hparameters, hargs, hwindow, hgroup⟩ := hinside
  refine ⟨⟨fun a ha => ?_⟩, ⟨hargs⟩, ⟨fun p hp => ?_⟩, ⟨fun p hp => ?_⟩⟩
  · cases ha
    exact ⟨hparameters⟩
  · cases hp
    exact ⟨hwindow⟩
  · cases hp
    exact ⟨hgroup⟩

end

/-! ## Drafts -/

section

variable {source : List Lexeme} {α β : Type}

/-- A draft only puts parts into its phrase whose names are traced. -/
instance : Traceable (Draft α) :=
  ⟨fun source d => ∀ parts : List Part, Traced source parts → Traced source (d parts).2⟩

instance {d : Draft Slot} [h : Traced source d] : Traced source d.phrase := by
  have := h.out [] inferInstance
  exact ⟨(inferInstance : NodesFrom source (partNodes (d []).2)).out⟩

instance {a : α} : Traced source (pure a : Draft α) := ⟨fun _ h => h⟩

instance {d : Draft α} {f : α → Draft β} [hd : Traced source d] [hf : ∀ a, Traced source (f a)] :
    Traced source (d >>= f) := ⟨fun parts h => (hf _).out _ (hd.out parts h)⟩

instance {d : Draft α} {f : α → β} [hd : Traced source d] : Traced source (f <$> d) := ⟨hd.out⟩

instance {γ : Type} [Traceable γ] {as : List γ} {f : γ → Draft β} [h : Traced source as]
    [hf : ∀ a : {a : γ // Traced source a}, Traced source (f a.val)] : Traced source (as.mapM f) := by
  obtain ⟨h⟩ := h
  induction as with
  | nil =>
    rw [List.mapM_nil]
    infer_instance
  | cons a as ih =>
    obtain ⟨ha, has⟩ := List.forall_mem_cons.1 h
    have := hf ⟨a, ha⟩
    have := ih has
    rw [List.mapM_cons]
    infer_instance

/-- The members of a pair may be looked at one by one. -/
instance {γ δ : Type} [Traceable γ] [Traceable δ] {as : List (γ × δ)} {f : γ × δ → Draft β} [h : Traced source as]
    [hf : ∀ (a : {a : γ // Traced source a}) (b : {b : δ // Traced source b}), Traced source (f (a.val, b.val))] :
    Traced source (as.mapM f) :=
  have : ∀ a : {a : γ × δ // Traced source a}, Traced source (f a.val) := fun a => hf ⟨_, a.2.out.1⟩ ⟨_, a.2.out.2⟩
  inferInstance

instance {p : Part} [h : Traced source p] : Traced source (Draft.part p) := ⟨fun parts hparts => by
  have : Traced source (parts ++ [p]) := inferInstance
  exact this⟩

instance {ps : List Part} [Traced source ps] : Traced source (Draft.parts ps) := by
  unfold Draft.parts
  infer_instance

instance {o : Option Part} [h : Traced source o] : Traced source (Draft.optPart o) := by
  cases o with
  | none => unfold Draft.optPart; infer_instance
  | some a =>
    have := h.out a rfl
    unfold Draft.optPart
    infer_instance

instance {e : Expr} [Traced source e] : Traced source (Draft.expr e) := by
  unfold Draft.expr
  infer_instance

instance {es : List Expr} [Traced source es] : Traced source (Draft.exprs es) := by
  unfold Draft.exprs
  infer_instance

instance {e : Option Expr} [Traced source e] : Traced source (Draft.optExpr e) := by
  unfold Draft.optExpr
  infer_instance

instance {items : List OrderItem} [Traced source items] : Traced source (Draft.orders items) := by
  unfold Draft.orders
  infer_instance

instance {items : Option (List SelectItem)} [h : Traced source items] : Traced source (Draft.optItems items) := by
  cases items with
  | none => unfold Draft.optItems; infer_instance
  | some a =>
    have := h.out a rfl
    unfold Draft.optItems
    infer_instance

instance {p : Phrase} [Traced source p] : Traced source (Draft.phrasePart p) := by
  unfold Draft.phrasePart
  infer_instance

instance {items : List FromItem} [Traced source items] : Traced source (Draft.sources items) := by
  unfold Draft.sources
  infer_instance

instance {ds : List (Draft Slot)} [Traced source ds] : Traced source (drafts ds) := by
  show Traced source (ds.mapM fun d => d)
  infer_instance

instance {d : Option (Draft Slot)} [h : Traced source d] : Traced source (optDraft d) := by
  cases d with
  | none => unfold optDraft; infer_instance
  | some d =>
    have := h.out d rfl
    unfold optDraft
    infer_instance

end

/-! ## Parsers -/

/-- What a parser may come to: a value that is traced to some tokens and a rest of them, or a fault that is at one of
them and whose message does not end in a place. -/
def Sourced {α : Type} [Traceable α] (source : List Lexeme) : Except Fault (α × List Lexeme) → Prop
  | .ok (a, rest) => rest <:+ source ∧ Traced source a
  | .error (.rejected message at_) => (∀ place ∈ at_, ∃ l ∈ source, place = l.span.start) ∧ Unplaced source message
  | .error _ => True

/-- A parser that is given the end of some tokens comes to something that stems from them. -/
class Faithful {α : Type} [Traceable α] (source : List Lexeme) (p : Parser α) : Prop where
  run : ∀ {input : List Lexeme}, input <:+ source → Sourced source (p input)

section

variable {source : List Lexeme} {α β γ : Type} [Traceable α] [Traceable β] [Traceable γ]

/-- A fault stays where it is. -/
theorem Sourced.error {e : Fault} (h : Sourced source (.error e : Except Fault (α × List Lexeme))) :
    Sourced source (.error e : Except Fault (β × List Lexeme)) := by
  cases e with
  | rejected message at_ => exact h
  | tooDeep => trivial
  | fatal => trivial

theorem Sourced.ok {r : Except Fault (α × List Lexeme)} {a : α} {rest : List Lexeme} (h : Sourced source r)
    (hr : r = .ok (a, rest)) : rest <:+ source ∧ Traced source a := by
  rw [hr] at h
  exact h

/-- Two parsers come one after the other. -/
theorem Sourced.bind {p : Parser α} {f : α → Parser β} {input : List Lexeme} (hp : Sourced source (p input))
    (hf : ∀ a rest, p input = .ok (a, rest) → Sourced source (f a rest)) : Sourced source ((p >>= f) input) := by
  rw [Parser.run_bind]
  split
  · exact hf _ _ ‹_›
  · rename_i heq
    rw [heq] at hp
    exact hp.error

theorem Sourced.bind_of {p : Parser α} {f : α → Parser β} {input : List Lexeme} (hp : Sourced source (p input))
    (hf : ∀ a, Traced source a → Faithful source (f a)) : Sourced source ((p >>= f) input) :=
  .bind hp fun a _ heq => (hf a (hp.ok heq).2).run (hp.ok heq).1

instance Faithful.pure {a : α} [ha : Traced source a] : Faithful source (pure a) := ⟨fun h => ⟨h, ha⟩⟩

/-- What was read is looked at before going on. -/
theorem Faithful.bind_of {p : Parser α} {f : α → Parser β} [hp : Faithful source p]
    (hf : ∀ a, Traced source a → Faithful source (f a)) : Faithful source (p >>= f) := ⟨fun h => .bind_of (hp.run h) hf⟩

/-- What a parser gives is looked at with what is known of it. -/
theorem Faithful.bind_gives {P : α → Prop} {p : Parser α} {f : α → Parser β} [hp : Faithful source p]
    [hP : Parser.Gives P p] (hf : ∀ a, Traced source a → P a → Faithful source (f a)) : Faithful source (p >>= f) :=
  ⟨fun h => .bind (hp.run h) fun a _ hread =>
    (hf a ((hp.run h).ok hread).2 (hP.out hread)).run ((hp.run h).ok hread).1⟩

/-- A value comes with its trace, so that instances can make use of it. -/
instance Faithful.bind {p : Parser α} {f : α → Parser β} [Faithful source p]
    [hf : ∀ a : {a : α // Traced source a}, Faithful source (f a.val)] : Faithful source (p >>= f) :=
  .bind_of fun a ha => hf ⟨a, ha⟩

/-- The members of a pair may be looked at one by one. -/
instance Faithful.bind_pair {p : Parser (α × β)} {f : α × β → Parser γ} [Faithful source p]
    [hf : ∀ (a : {a : α // Traced source a}) (b : {b : β // Traced source b}), Faithful source (f (a.val, b.val))] :
    Faithful source (p >>= f) := .bind_of fun r (hr : Traced source r) => hf ⟨r.1, hr.out.1⟩ ⟨r.2, hr.out.2⟩

/-- What may be missing may be looked at. -/
instance (priority := low) Faithful.bind_option {p : Parser (Option α)} {f : Option α → Parser β} [Faithful source p]
    [hnone : Faithful source (f none)] [hsome : ∀ a : {a : α // Traced source a}, Faithful source (f (some a.val))] :
    Faithful source (p >>= f) := .bind_of fun
  | none, _ => hnone
  | some a, ha => hsome ⟨a, ha.out a rfl⟩

theorem Faithful.ite_of {c : Prop} [Decidable c] {p q : Parser α} (hp : Faithful source p) (hq : Faithful source q) :
    Faithful source (if c then p else q) := by
  split
  · exact hp
  · exact hq

instance Faithful.ite {c : Prop} [Decidable c] {p q : Parser α} [hp : Faithful source p] [hq : Faithful source q] :
    Faithful source (if c then p else q) := .ite_of hp hq

/-- A parser that may be missing is traced by what is known of the parser. -/
instance : Traceable (Parser α) := ⟨fun source p => Faithful source p⟩

instance {p : Parser α} [h : Faithful source p] : Traced source p := ⟨h⟩

theorem Traced.of_eq_some (source : List Lexeme) {o : Option α} {a : α} (h : o = some a) [ho : Traced source o] :
    Traced source a := ho.out a h

theorem Faithful.of_eq_some (source : List Lexeme) {o : Option (Parser α)} {p : Parser α} (h : o = some p)
    [Traced source o] : Faithful source p := (Traced.of_eq_some source h).out

end

end SqlTemplate.Sql
