import SqlTemplate.Proofs.CallForms
import SqlTemplate.Proofs.Functions

/-!
# What fragments are read as

A macro is written as a text around the texts of its arguments, and the text is read as an expression. Columns stand
between bounds, and everything else stands among the arguments of a function.

* `fragmentExpr`: the expression that a macro stands for, with its arguments as they are.
* `Column`, `Argument`: arguments that are read in their place.
* `Portable`: arguments that are read in every place; `portable_name`.
* `expand_keeps_arguments`: macros with such arguments stand for these expressions.
-/

namespace SqlTemplate

open Sql Macro Time SqlTemplate.Sql.Parser Service.Tree

variable {dialect : Dialect} {depth : Nat}

/-! ## Expressions -/

/-- An expression beside a sign, in parentheses unless it is one term. -/
def operandExpr (e : Expr) : Expr := if isTerm e then e else .nested e

/-- The tokens of an expression beside a sign. -/
def operandTokens (e : Expr) (tokens : List Token) : List Token :=
  if isTerm e then tokens else .sign "(" :: (tokens ++ [.sign ")"])

/-- The comparisons of a column with two bounds. -/
def between (column lower upper : Expr) : List Expr := [.binary column .gtEq lower, .binary column .ltEq upper]

/-- Conditions that hold together, in parentheses. -/
def together : List Expr → Expr
  | [] => .nested (.literal .null)
  | e :: es => .nested (conjunction e es)

/-- A number. -/
def numberExpr (n : Nat) : Expr := .literal (.number (toString n) false)

/-- A time as a literal. -/
def momentExpr (dialect : Dialect) (precision : Precision) (t : Instant) : Expr :=
  clockExpr dialect timestampType (timeText precision t)

/-- A day as a literal. -/
def dayExpr (dialect : Dialect) (t : Instant) : Expr := clockExpr dialect dateType t.date.display

/-- A time as a value of its own. -/
def timeExpr (dialect : Dialect) (precision : Precision) (t : Instant) : Expr :=
  match dialect, precision with
  | .clickHouse, .seconds => functionExpr "toDateTime" [momentExpr .clickHouse .seconds t]
  | .clickHouse, .millis => functionExpr "toDateTime64" [momentExpr .clickHouse .millis t, numberExpr 3]
  | .generic, _ => momentExpr .generic precision t

/-- A number of units of time. -/
def unitExpr (n : Nat) (unit kind : String) : Expr :=
  .interval (numberExpr n) ⟨some ⟨unit, .text kind⟩, none, none, none⟩

/-- The start of the interval of a given width in which a value lies, counted from 1970. -/
def binExpr (count : Nat) (unit : String) (value : Expr) : Expr :=
  functionExpr "date_bin" [.interval (textExpr .generic (toString count ++ " " ++ unit)) ⟨none, none, none, none⟩, value,
    clockExpr .generic timestampType "1970-01-01 00:00:00"]

/-- The start of the interval in which a column lies. -/
def bucketExpr (dialect : Dialect) (precision : Precision) (interval : Duration) (column : Expr) : Expr :=
  let seconds := max 1 interval.seconds
  let millis := max 1 interval.millis
  match dialect, precision with
  | .clickHouse, .seconds =>
    functionExpr "toStartOfInterval" [functionExpr "toDateTime" [column], unitExpr seconds "SECOND" "Second"]
  | .clickHouse, .millis =>
    functionExpr "toStartOfInterval" [functionExpr "toDateTime64" [column, numberExpr 3],
      unitExpr millis "MILLISECOND" "Millisecond"]
  | .generic, .seconds => binExpr seconds "seconds" column
  | .generic, .millis => binExpr millis "milliseconds" column

/-- A value rounded down to a number of units. -/
def roundedExpr (dialect : Dialect) (count : Nat) (unit : RoundUnit) (value : Expr) : Expr :=
  match dialect with
  | .clickHouse =>
    functionExpr "toStartOfInterval" [value, unitExpr count unit.name ((timeFields.lookup unit.name).getD "")]
  | .generic => binExpr count unit.plural value

/-- The expression that a macro stands for. Each argument is one operand, or one argument of a function. -/
def fragmentExpr (dialect : Dialect) (request : Request) : Kind → List Expr → Option Expr
  | .timeFilter (.range precision), [column] =>
    some (together (between (operandExpr column) (momentExpr dialect precision request.range.start)
      (momentExpr dialect precision request.range.stop)))
  | .timeFilter .date, [column] =>
    some (together (between (operandExpr column) (dayExpr dialect request.range.start)
      (dayExpr dialect request.range.stop)))
  | .timeFilter .dateTime, [date, time] =>
    some (together (between (operandExpr date) (dayExpr dialect request.range.start)
        (dayExpr dialect request.range.stop) ++
      between (operandExpr time) (momentExpr dialect .seconds request.range.start)
        (momentExpr dialect .seconds request.range.stop)))
  | .timeFilter (.start precision), [] => some (timeExpr dialect precision request.range.start)
  | .timeFilter (.stop precision), [] => some (timeExpr dialect precision request.range.stop)
  | .interval .seconds, [] => some (numberExpr (max 1 request.interval.seconds))
  | .interval .millis, [] => some (numberExpr (max 1 request.interval.millis))
  | .interval (.bucket precision), [column] => some (bucketExpr dialect precision request.interval column)
  | .round, [value] => (roundUnit? request.round).map fun (count, unit) => roundedExpr dialect count unit value
  | _, _ => none

/-! ## Columns -/

/-- A text spells tokens in front of what can stand behind an operand. -/
def SpellsOperand (dialect : Dialect) (text : String) (tokens : List Token) : Prop :=
  ∀ {cs : List Char} {ts : List Token}, endsOperand cs = true → Spells dialect cs ts →
    Spells dialect (text.toList ++ cs) (tokens ++ ts)

/-- An expression that is read where a column stands between bounds, as the first one or behind `AND`. -/
structure Column (dialect : Dialect) (e : Expr) (tokens : List Token) : Prop where
  spells : SpellsOperand dialect (operandText e) tokens
  first : ReadsColumn dialect (maxDepth - 2) tokens (operandExpr e)
  later : ReadsColumn dialect (maxDepth - 3) tokens (operandExpr e)
  ne_nil : tokens ≠ []

variable {e d t : Expr} {text column lower upper : String} {tokens cs ds ts : List Token}
  {first : List Token} {more : List (List Token × Expr)}

/-- A constant with its tokens. -/
structure Bound (dialect : Dialect) where
  text : String
  tokens : List Token
  expr : Expr
  isBound : IsBound dialect text tokens expr

/-- A time as a bound. -/
def Bound.moment (dialect : Dialect) (precision : Precision) (t : Instant) : Bound dialect :=
  ⟨_, _, _, isBound_timestamp dialect precision t⟩

/-- A day as a bound. -/
def Bound.day (dialect : Dialect) (t : Instant) : Bound dialect := ⟨_, _, _, isBound_date dialect t⟩

variable {l u : Bound dialect}

/-- The comparison of a column with a bound, with its tokens. -/
def comparison (column : List Token) (c : Expr) (op : BinaryOp) (b : Bound dialect) : List Token × Expr :=
  (column ++ op.token :: b.tokens, .binary c op b.expr)

theorem spells_between (hc : SpellsOperand dialect column cs) {behind : List Char} {ts : List Token}
    (hbehind : endsOperand behind = true) (hs : Spells dialect behind ts) :
    Spells dialect ((betweenText column l.text u.text).toList ++ behind)
      ((comparison cs d .gtEq l).1 ++ (.word "AND" none :: (comparison cs d .ltEq u).1 ++ ts)) := by
  have hupper := hc rfl (spells_op (show BinaryOp.ltEq.spoken dialect = true by cases dialect <;> rfl)
    (u.isBound.spells hbehind hs)).blank
  have hlower := l.isBound.spells (show endsOperand (' ' :: _) = true from rfl)
    (spells_keyword (w := "AND") (by decide) hupper).blank
  have hall := hc rfl (spells_op (show BinaryOp.gtEq.spoken dialect = true by cases dialect <;> rfl) hlower).blank
  simpa [betweenText, BinaryOp.toSql, comparison] using hall

theorem OpensNoQuery.append (h : OpensNoQuery tokens) (more : List Token) : OpensNoQuery (tokens ++ more) := by
  obtain ⟨t, ts, rfl, ht⟩ := h
  exact ⟨t, ts ++ more, rfl, ht⟩

/-- A text that spells conjuncts is read as their conjunction. -/
theorem parseExpr_conjuncts (hs : Spells dialect text.toList (.sign "(" :: (first ++ (andTokens more ++ [.sign ")"]))))
    (hfirst : Conjunct dialect (maxDepth - 2) first e) (hquery : OpensNoQuery first)
    (hmore : ∀ p ∈ more, Conjunct dialect (maxDepth - 3) p.1 p.2 ∧ AsksNoSet p.1) :
    ∃ x, parseExpr dialect text = .ok x ∧ exprTree x = exprTree (together (e :: more.map Prod.snd)) := by
  obtain ⟨ls, hls, htokens⟩ := hs.lexemes
  obtain ⟨x, hread, hx⟩ := conjuncts_read hfirst hquery hmore htokens
  exact ⟨x, (parseExpr_eq_ok hls).2 hread, hx⟩

/-- Nothing is read if a conjunct behind `AND` asks for a set. -/
theorem parseExpr_conjuncts_fail
    (hs : Spells dialect text.toList (.sign "(" :: (first ++ (andTokens more ++ [.sign ")"]))))
    (hfirst : Conjunct dialect (maxDepth - 2) first e) (hquery : OpensNoQuery first)
    (hmore : ∀ p ∈ more, Conjunct dialect (maxDepth - 3) p.1 p.2 ∧ p.1 ≠ []) (hset : ∃ p ∈ more, ¬ AsksNoSet p.1)
    (x : Expr) : parseExpr dialect text ≠ .ok x := by
  obtain ⟨ls, hls, htokens⟩ := hs.lexemes
  obtain ⟨fault, hread⟩ := conjuncts_fail hfirst hquery hmore hset htokens
  intro hx
  rw [parseExpr_eq_ok hls] at hx
  cases hread.symm.trans hx

theorem Column.firstConjunct (hc : Column dialect e cs) {op : BinaryOp} (hop : op ∈ boundOps) (b : Bound dialect) :
    Conjunct dialect (maxDepth - 2) (comparison cs (operandExpr e) op b).1 (comparison cs (operandExpr e) op b).2 :=
  conjunct_comparison hc.first b.isBound hop

theorem Column.laterConjunct (hc : Column dialect e cs) {op : BinaryOp} (hop : op ∈ boundOps) (b : Bound dialect) :
    Conjunct dialect (maxDepth - 3) (comparison cs (operandExpr e) op b).1 (comparison cs (operandExpr e) op b).2 :=
  conjunct_comparison hc.later b.isBound hop

theorem comparison_asks {op : BinaryOp} {b : Bound dialect} (hne : cs ≠ []) :
    AsksNoSet (comparison cs d op b).1 ↔ AsksNoSet cs := by
  obtain ⟨c, cs, rfl⟩ := List.exists_cons_of_ne_nil hne
  simp [AsksNoSet, comparison]

theorem comparison_ne_nil (op : BinaryOp) (b : Bound dialect) : (comparison cs d op b).1 ≠ [] := by
  simp [comparison]

/-- **A column between bounds** is read as two comparisons. -/
theorem parseExpr_range (hc : Column dialect e cs) (hquery : OpensNoQuery cs) (l u : Bound dialect) :
    (AsksNoSet cs → ∃ x, parseExpr dialect ("(" ++ betweenText (operandText e) l.text u.text ++ ")") = .ok x ∧
      exprTree x = exprTree (together (between (operandExpr e) l.expr u.expr))) ∧
    (¬ AsksNoSet cs → ∀ x, parseExpr dialect ("(" ++ betweenText (operandText e) l.text u.text ++ ")") ≠ .ok x) := by
  let c := operandExpr e
  have hs : Spells dialect ("(" ++ betweenText (operandText e) l.text u.text ++ ")").toList
      (.sign "(" :: ((comparison cs c .gtEq l).1 ++ (andTokens [comparison cs c .ltEq u] ++ [.sign ")"]))) := by
    have hs := spells_opening (spells_between (d := c) (l := l) (u := u) hc.spells rfl (spells_closing (.nil dialect)))
    simpa [andTokens] using hs
  have hfirst := hc.firstConjunct (show BinaryOp.gtEq ∈ boundOps by decide) l
  have hlater := hc.laterConjunct (show BinaryOp.ltEq ∈ boundOps by decide) u
  constructor
  · intro hset
    refine parseExpr_conjuncts hs hfirst (hquery.append _) ?_
    exact List.forall_mem_singleton.2 ⟨hlater, (comparison_asks hc.ne_nil).2 hset⟩
  · intro hset
    refine parseExpr_conjuncts_fail hs hfirst (hquery.append _) ?_ ?_
    · exact List.forall_mem_singleton.2 ⟨hlater, comparison_ne_nil _ _⟩
    · exact ⟨_, List.mem_singleton_self _, (comparison_asks hc.ne_nil).not.2 hset⟩

/-- **Two columns between bounds** are read as four comparisons. -/
theorem parseExpr_dateTime (hd : Column dialect d ds) (ht : Column dialect t ts) (hquery : OpensNoQuery ds)
    (l u l' u' : Bound dialect) :
    (AsksNoSet ds ∧ AsksNoSet ts → ∃ x, parseExpr dialect ("(" ++ betweenText (operandText d) l.text u.text ++ " AND " ++
        betweenText (operandText t) l'.text u'.text ++ ")") = .ok x ∧
      exprTree x = exprTree (together (between (operandExpr d) l.expr u.expr ++
        between (operandExpr t) l'.expr u'.expr))) ∧
    (¬ (AsksNoSet ds ∧ AsksNoSet ts) → ∀ x, parseExpr dialect ("(" ++ betweenText (operandText d) l.text u.text ++
      " AND " ++ betweenText (operandText t) l'.text u'.text ++ ")") ≠ .ok x) := by
  let c := operandExpr d
  let c' := operandExpr t
  have hs : Spells dialect ("(" ++ betweenText (operandText d) l.text u.text ++ " AND " ++
        betweenText (operandText t) l'.text u'.text ++ ")").toList
      (.sign "(" :: ((comparison ds c .gtEq l).1 ++
        (andTokens [comparison ds c .ltEq u, comparison ts c' .gtEq l', comparison ts c' .ltEq u'] ++ [.sign ")"]))) := by
    have hs := spells_between (d := c') (l := l') (u := u') ht.spells rfl (spells_closing (.nil dialect))
    have hs := spells_between (d := c) (l := l) (u := u) hd.spells (show endsOperand (' ' :: _) = true from rfl)
      (spells_keyword (w := "AND") (by decide) hs).blank
    simpa [andTokens] using spells_opening hs
  have hfirst := hd.firstConjunct (show BinaryOp.gtEq ∈ boundOps by decide) l
  have hlater := hd.laterConjunct (show BinaryOp.ltEq ∈ boundOps by decide) u
  have hfrom := ht.laterConjunct (show BinaryOp.gtEq ∈ boundOps by decide) l'
  have hto := ht.laterConjunct (show BinaryOp.ltEq ∈ boundOps by decide) u'
  constructor
  · intro ⟨hdate, htime⟩
    refine parseExpr_conjuncts hs hfirst (hquery.append _) ?_
    simp only [List.mem_cons, List.not_mem_nil, or_false, forall_eq_or_imp, forall_eq]
    exact ⟨⟨hlater, (comparison_asks hd.ne_nil).2 hdate⟩, ⟨hfrom, (comparison_asks ht.ne_nil).2 htime⟩,
      hto, (comparison_asks ht.ne_nil).2 htime⟩
  · intro hset
    refine parseExpr_conjuncts_fail hs hfirst (hquery.append _) ?_ ?_
    · simp only [List.mem_cons, List.not_mem_nil, or_false, forall_eq_or_imp, forall_eq]
      exact ⟨⟨hlater, comparison_ne_nil _ _⟩, ⟨hfrom, comparison_ne_nil _ _⟩, hto, comparison_ne_nil _ _⟩
    · by_cases hdate : AsksNoSet ds
      · have htime : ¬ AsksNoSet ts := fun htime => hset ⟨hdate, htime⟩
        exact ⟨_, List.mem_cons_of_mem _ List.mem_cons_self, (comparison_asks ht.ne_nil).not.2 htime⟩
      · exact ⟨_, List.mem_cons_self, (comparison_asks hd.ne_nil).not.2 hdate⟩

/-! ## Arguments -/

/-- A text that is read where it stands among the arguments of a function. -/
structure Argument (dialect : Dialect) (depth : Nat) (text : String) (tokens : List Token) (e : Expr) : Prop where
  spells : SpellsOperand dialect text tokens
  reads : ReadsArgument dialect depth tokens e
  encloses : Encloses tokens

theorem encloses_of_not_mem (h : .sign ")" ∉ tokens) : Encloses tokens := by
  rintro front behind rfl
  simp at h

/-- An argument as it is written and read. -/
structure Written where
  text : String
  tokens : List Token
  expr : Expr

/-- An argument that is read in its place. -/
abbrev Written.Placed (dialect : Dialect) (depth : Nat) (a : Written) : Prop :=
  Argument dialect depth a.text a.tokens a.expr

/-- A text, as an argument. -/
def writtenText (dialect : Dialect) (value : String) : Written :=
  ⟨stringLiteral dialect value, [PredicateForm.textToken dialect value], textExpr dialect value⟩

theorem placed_text (dialect : Dialect) (depth : Nat) (value : String) :
    (writtenText dialect value).Placed dialect (depth + 1) := by
  refine ⟨fun hcs hs => spells_text dialect value (head?_ne_quote (endsWord_of_endsOperand hcs)) hs, ?_,
    encloses_of_not_mem (by simp [writtenText, PredicateForm.textToken])⟩
  intro ls s sp rest hls hs
  obtain ⟨at_, ls, rfl, hend⟩ := cons_of_tokens hls
  obtain rfl := List.map_eq_nil_iff.1 hend
  simp only [List.mem_cons, List.not_mem_nil, or_false] at hs
  refine ⟨_, rfl, ?_⟩
  rcases hs with rfl | rfl <;> cases dialect <;> rfl

theorem spells_nat (n : Nat) : SpellsOperand dialect (toString n) [.number (toString n) false] := by
  have htoList : (toString n).toList = Nat.toDigits 10 n := Nat.toList_repr
  have hdigits : ∀ c ∈ (toString n).toList, c.isDigit = true := by
    rw [htoList]
    exact fun c hc => Nat.isDigit_of_mem_toDigits (by decide) (by decide) hc
  intro cs ts hcs hs
  exact .number hdigits (by rw [htoList]; exact Nat.toDigits_ne_nil) hcs hs

/-- A number, as an argument. -/
def writtenNumber (n : Nat) : Written := ⟨toString n, [.number (toString n) false], numberExpr n⟩

theorem placed_number (dialect : Dialect) (depth n : Nat) : (writtenNumber n).Placed dialect (depth + 1) := by
  refine ⟨spells_nat n, ?_, encloses_of_not_mem (by simp [writtenNumber])⟩
  intro ls s sp rest hls hs
  obtain ⟨at_, ls, rfl, hend⟩ := cons_of_tokens hls
  obtain rfl := List.map_eq_nil_iff.1 hend
  simp only [List.mem_cons, List.not_mem_nil, or_false] at hs
  refine ⟨_, rfl, ?_⟩
  rcases hs with rfl | rfl <;> cases dialect <;> rfl

/-- The units of time that are written behind a number. -/
def writtenUnits : List (String × String) :=
  [("HOUR", "Hour"), ("MINUTE", "Minute"), ("SECOND", "Second"), ("MILLISECOND", "Millisecond")]

/-- A number of units of time, as an argument. -/
def writtenUnit (n : Nat) (unit kind : String) : Written :=
  ⟨"INTERVAL " ++ toString n ++ " " ++ unit, [.word "INTERVAL" none, .number (toString n) false, .word unit none],
    unitExpr n unit kind⟩

theorem placed_unit (depth n : Nat) {unit kind : String} (h : (unit, kind) ∈ writtenUnits) :
    (writtenUnit n unit kind).Placed .clickHouse (depth + 2) := by
  have hplain : isPlainWord unit.toList = true := by
    have hall : ∀ p ∈ writtenUnits, isPlainWord p.1.toList = true := by decide
    exact hall _ h
  refine ⟨fun hcs hs => ?_, ?_, encloses_of_not_mem (by simp [writtenUnit])⟩
  · have hunit := hs.word hplain (endsWord_of_endsOperand hcs)
    have hnumber := spells_nat n (show endsOperand (' ' :: _) = true from rfl) hunit.blank
    simpa [writtenUnit] using spells_keyword (w := "INTERVAL") (by decide) hnumber
  · intro ls s sp rest hls hs
    obtain ⟨_, _, rfl, hnumber⟩ := cons_of_tokens hls
    obtain ⟨_, _, rfl, hunit⟩ := cons_of_tokens hnumber
    obtain ⟨_, _, rfl, hend⟩ := cons_of_tokens hunit
    obtain rfl := List.map_eq_nil_iff.1 hend
    simp only [writtenUnits, List.mem_cons, List.not_mem_nil, or_false, Prod.mk.injEq] at h hs
    refine ⟨_, rfl, ?_⟩
    rcases h with ⟨rfl, rfl⟩ | ⟨rfl, rfl⟩ | ⟨rfl, rfl⟩ | ⟨rfl, rfl⟩ <;> rcases hs with rfl | rfl <;> rfl

/-- A text between quotes that holds no quote is a literal of the generic dialect. -/
theorem quoted_generic {value : String} (h : '\'' ∉ value.toList) : "'" ++ value ++ "'" = stringLiteral .generic value := by
  have hbody : ∀ cs : List Char, '\'' ∉ cs → cs.flatMap (literalChar .generic) = cs := by
    intro cs
    induction cs with
    | nil => intro _; rfl
    | cons c cs ih =>
      intro hcs
      rw [List.mem_cons, not_or] at hcs
      rw [List.flatMap_cons, ih hcs.2]
      simp [literalChar, Ne.symm hcs.1, Dialect.hasBackslashEscapes]
  apply String.toList_inj.1
  rw [stringLiteral, hbody _ h]
  simp

/-- The words that stand in front of a text. -/
inductive Lead where
  | interval
  | timestamp

/-- A lead as a word. -/
def Lead.word : Lead → String
  | .interval => "INTERVAL"
  | .timestamp => "TIMESTAMP"

/-- What is read from a lead and a text. -/
def Lead.expr : Lead → String → Expr
  | .interval, value => .interval (textExpr .generic value) ⟨none, none, none, none⟩
  | .timestamp, value => clockExpr .generic timestampType value

/-- A text with a word in front of it, as an argument. -/
def writtenLead (lead : Lead) (value : String) : Written :=
  ⟨lead.word ++ " '" ++ value ++ "'", [.word lead.word none, PredicateForm.textToken .generic value], lead.expr value⟩

theorem placed_lead (depth : Nat) (lead : Lead) {value : String} (h : '\'' ∉ value.toList) :
    (writtenLead lead value).Placed .generic (depth + 2) := by
  refine ⟨fun hcs hs => ?_, ?_, encloses_of_not_mem (by simp [writtenLead, PredicateForm.textToken])⟩
  · have hplain : isPlainWord lead.word.toList = true := by cases lead <;> decide
    have hliteral := spells_text .generic value (head?_ne_quote (endsWord_of_endsOperand hcs)) hs
    rw [← quoted_generic h] at hliteral
    simpa [writtenLead] using spells_keyword hplain hliteral
  · intro ls s sp rest hls hs
    obtain ⟨_, _, rfl, htext⟩ := cons_of_tokens hls
    obtain ⟨_, _, rfl, hend⟩ := cons_of_tokens htext
    obtain rfl := List.map_eq_nil_iff.1 hend
    simp only [List.mem_cons, List.not_mem_nil, or_false] at hs
    refine ⟨_, rfl, ?_⟩
    cases lead <;> rcases hs with rfl | rfl <;> rfl

/-! ## Functions of arguments -/

variable {name : String} {a : Written} {as : List Written}

/-- The tokens of an argument and what they are read as. -/
def Written.read (a : Written) : List Token × Expr := (a.tokens, a.expr)

/-- A function of arguments, as it is written. -/
def functionText (name : String) (args : List String) : String := name ++ "(" ++ commaJoin args ++ ")"

theorem spells_arguments (hall : ∀ b ∈ a :: as, SpellsOperand dialect b.text b.tokens) {cs : List Char} {ts : List Token}
    (hcs : endsOperand cs = true) (hs : Spells dialect cs ts) :
    Spells dialect ((commaJoin (a.text :: as.map Written.text)).toList ++ cs)
      (a.tokens ++ (commaTokens (as.map Written.read) ++ ts)) := by
  induction as generalizing a with
  | nil => simpa [commaJoin, commaTokens] using hall a (by simp) hcs hs
  | cons b as ih =>
    obtain ⟨ha, has⟩ := List.forall_mem_cons.1 hall
    have hmore := ha (show endsOperand (',' :: _) = true from rfl) (spells_comma (ih has))
    simpa [commaJoin, commaTokens_cons, Written.read] using hmore

/-- A name that is a plain word and no keyword is read as the name of a function. -/
structure IsFunction (dialect : Dialect) (name : String) : Prop where
  plain : isPlainWord name.toList = true
  ordinary : isOrdinary dialect (keywordOf name none) = true

/-- A function of arguments, as an argument. -/
def Written.function (name : String) (a : Written) (as : List Written) : Written :=
  ⟨functionText name (a.text :: as.map Written.text), functionTokens name a.read (as.map Written.read),
    functionExpr name (a.expr :: as.map Written.expr)⟩

theorem spells_function (hname : IsFunction dialect name) (hall : ∀ b ∈ a :: as, SpellsOperand dialect b.text b.tokens) :
    SpellsOperand dialect (Written.function name a as).text (Written.function name a as).tokens := by
  intro cs ts hcs hs
  have hinside := spells_arguments hall (show endsOperand (')' :: _) = true from rfl) (spells_closing hs)
  have hfunction := Spells.word hname.plain rfl (spells_opening hinside)
  simpa [Written.function, functionText, functionTokens, Written.read] using hfunction

/-- A function of arguments is read in front of what can stand behind it. -/
theorem exprAbove_function (hname : IsFunction dialect name) (hopens : OpensArguments a.tokens)
    (hall : ∀ b ∈ a :: as, b.Placed dialect depth) {ls rest : List Lexeme}
    (hls : ls.map Lexeme.token = (Written.function name a as).tokens) (hrest : Stops rest) (hend : infixLevel rest = 0) :
    ∃ x, exprTree x = exprTree (Written.function name a as).expr ∧
      (grammar dialect (depth + 1)).expr 0 (ls ++ rest) = .ok (x, rest) := by
  have hreads : ∀ p ∈ a.read :: as.map Written.read, ReadsArgument dialect depth p.1 p.2 ∧ Encloses p.1 := by
    rw [← List.map_cons]
    intro p hp
    obtain ⟨b, hb, rfl⟩ := List.mem_map.1 hp
    exact ⟨(hall b hb).reads, (hall b hb).encloses⟩
  obtain ⟨x, hx, hread⟩ := function_read hname.ordinary hopens hreads hls hrest (ls ++ rest).length
  refine ⟨x, ?_, ?_⟩
  · rw [hx, List.map_map]
    rfl
  · rw [grammar_expr, exprAbove_of_operandAt hread]
    exact infixLoop_stop (Nat.le_of_eq hend) _ _

/-- **A function of arguments** is an argument itself. -/
theorem argument_function (hname : IsFunction dialect name) (hopens : OpensArguments a.tokens)
    (hall : ∀ b ∈ a :: as, b.Placed dialect depth) :
    (Written.function name a as).Placed dialect (depth + 1) := by
  refine ⟨spells_function hname fun b hb => (hall b hb).spells, ?_, ?_⟩
  · intro ls s sp rest hls hs
    have hend : Stops (⟨.sign s, sp⟩ :: rest) ∧ infixLevel (⟨.sign s, sp⟩ :: rest) = 0 := by
      simp only [List.mem_cons, List.not_mem_nil, or_false] at hs
      rcases hs with rfl | rfl
      · exact ⟨.closing .., rfl⟩
      · exact ⟨.comma .., rfl⟩
    obtain ⟨x, hx, hread⟩ := exprAbove_function hname hopens hall hls hend.1 hend.2
    obtain ⟨_, _, rfl, hopening⟩ := cons_of_tokens hls
    obtain ⟨_, _, rfl, -⟩ := cons_of_tokens hopening
    exact ⟨x, hx, arg_unnamed (by simp) (by simp) (by simp [Token.keyword?]) hread⟩
  · rintro front behind hsplit
    -- the opening parenthesis stands behind the name
    obtain ⟨t, t', front, rfl, ht⟩ : ∃ t t' front', front = t :: t' :: front' ∧ t' = .sign "(" := by
      simp only [Written.function, functionTokens] at hsplit
      rcases front with - | ⟨t, - | ⟨t', front'⟩⟩
      · cases hsplit
      · simp at hsplit
      · exact ⟨t, t', front', rfl, (List.cons.inj (List.cons.inj hsplit).2).1.symm⟩
    exact ⟨"(", by simp [ht], by decide⟩

/-- **A function of arguments** is read as it is written. -/
theorem parseExpr_function (hname : IsFunction dialect name) (a : Written) (as : List Written) (hopens : OpensArguments a.tokens)
    (hall : ∀ b ∈ a :: as, b.Placed dialect (maxDepth - 1)) :
    ∃ x, parseExpr dialect (Written.function name a as).text = .ok x ∧
      exprTree x = exprTree (Written.function name a as).expr := by
  have hs := spells_function hname (fun b hb => (hall b hb).spells) rfl (.nil dialect)
  rw [List.append_nil, List.append_nil] at hs
  obtain ⟨ls, hls, htokens⟩ := hs.lexemes
  obtain ⟨x, hx, hread⟩ := exprAbove_function hname hopens hall htokens .nil rfl
  rw [List.append_nil] at hread
  exact ⟨x, (parseExpr_eq_ok hls).2 hread, hx⟩

/-! ## The texts of macros -/

theorem isFunction_toDateTime : IsFunction .clickHouse "toDateTime" := ⟨by decide, by decide +kernel⟩

theorem isFunction_toDateTime64 : IsFunction .clickHouse "toDateTime64" := ⟨by decide, by decide +kernel⟩

theorem isFunction_toStartOfInterval : IsFunction .clickHouse "toStartOfInterval" := ⟨by decide, by decide +kernel⟩

theorem isFunction_date_bin : IsFunction .generic "date_bin" := ⟨by decide, by decide +kernel⟩

theorem opensArguments_text (dialect : Dialect) (value : String) :
    OpensArguments (writtenText dialect value).tokens :=
  ⟨_, _, rfl, by simp [PredicateForm.textToken], by simp [PredicateForm.textToken, Token.keyword?], by simp⟩

/-- A bound of the time range is read as the value of its time. -/
theorem parseExpr_timeValue (dialect : Dialect) (precision : Precision) (t : Instant) :
    ∃ x, parseExpr dialect (timeValue dialect precision t) = .ok x ∧
      exprTree x = exprTree (timeExpr dialect precision t) := by
  have hquoted := quoted_eq_stringLiteral dialect (isClockText_time precision t)
  have htext : (writtenText dialect (timeText precision t)).Placed dialect (maxDepth - 1) := placed_text _ 48 _
  cases dialect with
  | clickHouse =>
    cases precision with
    | seconds =>
      have h := parseExpr_function isFunction_toDateTime _ [] (opensArguments_text ..) (List.forall_mem_singleton.2 htext)
      have hwritten : functionText "toDateTime" [(writtenText .clickHouse (timeText .seconds t)).text] =
          timeValue .clickHouse .seconds t := by
        rw [writtenText, ← hquoted]
        exact String.toList_inj.1 (by simp [functionText, commaJoin, timeText])
      rw [← hwritten]
      exact h
    | millis =>
      have hnumber : (writtenNumber 3).Placed .clickHouse (maxDepth - 1) := placed_number _ 48 3
      have h := parseExpr_function isFunction_toDateTime64 _ [writtenNumber 3] (opensArguments_text ..)
        (List.forall_mem_cons.2 ⟨htext, List.forall_mem_singleton.2 hnumber⟩)
      have hwritten : functionText "toDateTime64" [(writtenText .clickHouse (timeText .millis t)).text, toString 3] =
          timeValue .clickHouse .millis t := by
        rw [writtenText, ← hquoted]
        rw [show toString 3 = "3" from rfl]
        exact String.toList_inj.1 (by simp [functionText, commaJoin, timeText])
      rw [← hwritten]
      exact h
  | generic =>
    have hs := (isBound_timestamp .generic precision t).spells rfl (.nil .generic)
    rw [List.append_nil, List.append_nil] at hs
    obtain ⟨ls, hls, htokens⟩ := hs.lexemes
    obtain ⟨_, _, rfl, hvalue⟩ := cons_of_tokens htokens
    obtain ⟨_, _, rfl, hend⟩ := cons_of_tokens hvalue
    obtain rfl := List.map_eq_nil_iff.1 hend
    exact ⟨_, (parseExpr_eq_ok hls).2 rfl, rfl⟩

/-- A number is read as it is. -/
theorem parseExpr_number (dialect : Dialect) (n : Nat) :
    ∃ x, parseExpr dialect (toString n) = .ok x ∧ exprTree x = exprTree (numberExpr n) := by
  have hs := spells_nat n rfl (.nil dialect)
  rw [List.append_nil, List.append_nil] at hs
  obtain ⟨ls, hls, htokens⟩ := hs.lexemes
  obtain ⟨_, _, rfl, hend⟩ := cons_of_tokens htokens
  obtain rfl := List.map_eq_nil_iff.1 hend
  exact ⟨_, (parseExpr_eq_ok hls).2 rfl, rfl⟩

variable {value : Written}

theorem dateBin_eq (count : Nat) (unit value : String) :
    dateBin count unit value = functionText "date_bin" [(writtenLead .interval (toString count ++ " " ++ unit)).text,
      value, (writtenLead .timestamp "1970-01-01 00:00:00").text] := by
  unfold dateBin functionText commaJoin writtenLead Lead.word
  generalize toString count = digits
  apply String.toList_inj.1
  simp

/-- A value is counted from 1970 as a whole. -/
theorem parseExpr_dateBin (hvalue : value.Placed .generic (maxDepth - 1)) (count : Nat) {unit : String}
    (hunit : '\'' ∉ unit.toList) :
    ∃ x, parseExpr .generic (dateBin count unit value.text) = .ok x ∧
      exprTree x = exprTree (binExpr count unit value.expr) := by
  have hplain : '\'' ∉ (toString count ++ " " ++ unit).toList := by
    have hdigits : '\'' ∉ (toString count).toList := by
      rw [show (toString count).toList = Nat.toDigits 10 count from Nat.toList_repr]
      exact fun h => absurd (Nat.isDigit_of_mem_toDigits (by decide) (by decide) h) (by decide)
    simpa [hunit] using hdigits
  let width := writtenLead .interval (toString count ++ " " ++ unit)
  let origin := writtenLead .timestamp "1970-01-01 00:00:00"
  have hwidth : width.Placed .generic (maxDepth - 1) := placed_lead 47 .interval hplain
  have horigin : origin.Placed .generic (maxDepth - 1) := placed_lead 47 .timestamp (by decide)
  have hopens : OpensArguments width.tokens := ⟨_, _, rfl, by simp, by decide +kernel, by
    simp [PredicateForm.textToken, Token.keyword?]⟩
  have h := parseExpr_function isFunction_date_bin width [value, origin] hopens (List.forall_mem_cons.2 ⟨hwidth, List.forall_mem_cons.2
    ⟨hvalue, List.forall_mem_singleton.2 horigin⟩⟩)
  rw [dateBin_eq]
  exact h

/-- A value is rounded down to a number of units as a whole. -/
theorem parseExpr_startOfInterval (hvalue : value.Placed .clickHouse (maxDepth - 1)) (hopens : OpensArguments value.tokens)
    (n : Nat) {unit kind : String} (hunit : (unit, kind) ∈ writtenUnits) :
    ∃ x, parseExpr .clickHouse ("toStartOfInterval(" ++ value.text ++ ", INTERVAL " ++ toString n ++ " " ++ unit ++ ")") =
        .ok x ∧
      exprTree x = exprTree (functionExpr "toStartOfInterval" [value.expr, unitExpr n unit kind]) := by
  have hwidth : (writtenUnit n unit kind).Placed .clickHouse (maxDepth - 1) := placed_unit 47 n hunit
  have h := parseExpr_function isFunction_toStartOfInterval value [writtenUnit n unit kind] hopens
    (List.forall_mem_cons.2 ⟨hvalue, List.forall_mem_singleton.2 hwidth⟩)
  have hwritten : functionText "toStartOfInterval" [value.text, (writtenUnit n unit kind).text] =
      "toStartOfInterval(" ++ value.text ++ ", INTERVAL " ++ toString n ++ " " ++ unit ++ ")" :=
    String.toList_inj.1 (by simp [functionText, commaJoin, writtenUnit])
  rw [← hwritten]
  exact h

/-- An expression with its tokens that is read wherever a macro puts it. -/
structure Portable (dialect : Dialect) (e : Expr) (tokens : List Token) : Prop where
  column : Column dialect e (operandTokens e tokens)
  argument : (⟨e.toSql, tokens, e⟩ : Written).Placed dialect (maxDepth - 1)
  nested : (⟨e.toSql, tokens, e⟩ : Written).Placed dialect (maxDepth - 2)

theorem bucketText_seconds (interval : Duration) (column : String) :
    bucketText .clickHouse .seconds interval column = "toStartOfInterval(" ++ functionText "toDateTime" [column] ++
      ", INTERVAL " ++ toString (max 1 interval.seconds) ++ " " ++ "SECOND" ++ ")" := by
  show "toStartOfInterval(toDateTime(" ++ column ++ "), INTERVAL " ++ toString (max 1 interval.seconds) ++ " SECOND)" = _
  unfold functionText commaJoin
  generalize toString (max 1 interval.seconds) = digits
  exact String.toList_inj.1 (by simp)

theorem bucketText_millis (interval : Duration) (column : String) :
    bucketText .clickHouse .millis interval column = "toStartOfInterval(" ++
      functionText "toDateTime64" [column, toString 3] ++ ", INTERVAL " ++ toString (max 1 interval.millis) ++ " " ++
        "MILLISECOND" ++ ")" := by
  show "toStartOfInterval(toDateTime64(" ++ column ++ ", 3), INTERVAL " ++ toString (max 1 interval.millis) ++
    " MILLISECOND)" = _
  unfold functionText commaJoin
  generalize toString (max 1 interval.millis) = digits
  rw [show toString 3 = "3" from rfl]
  exact String.toList_inj.1 (by simp)

/-- The start of an interval is read as a function of the column. -/
theorem parseExpr_bucket (precision : Precision) (interval : Duration) {e : Expr} {tokens : List Token}
    (h : Portable dialect e tokens) (hopens : dialect = .clickHouse → OpensArguments tokens) :
    ∃ x, parseExpr dialect (bucketText dialect precision interval e.toSql) = .ok x ∧
      exprTree x = exprTree (bucketExpr dialect precision interval e) := by
  let column : Written := ⟨e.toSql, tokens, e⟩
  cases dialect with
  | clickHouse =>
    cases precision with
    | seconds =>
      let start := Written.function "toDateTime" column []
      have hstart : start.Placed .clickHouse (maxDepth - 1) :=
        argument_function isFunction_toDateTime (hopens rfl) (List.forall_mem_singleton.2 h.nested)
      have hread := parseExpr_startOfInterval hstart ⟨_, _, rfl, by simp, by decide +kernel, by simp [Token.keyword?]⟩
        (max 1 interval.seconds) (show ("SECOND", "Second") ∈ writtenUnits by decide)
      rw [bucketText_seconds]
      exact hread
    | millis =>
      let start := Written.function "toDateTime64" column [writtenNumber 3]
      have hstart : start.Placed .clickHouse (maxDepth - 1) :=
        argument_function isFunction_toDateTime64 (hopens rfl)
          (List.forall_mem_cons.2 ⟨h.nested, List.forall_mem_singleton.2 (placed_number _ 47 3)⟩)
      have hread := parseExpr_startOfInterval hstart ⟨_, _, rfl, by simp, by decide +kernel, by simp [Token.keyword?]⟩
        (max 1 interval.millis) (show ("MILLISECOND", "Millisecond") ∈ writtenUnits by decide)
      rw [bucketText_millis]
      exact hread
  | generic =>
    cases precision with
    | seconds => exact parseExpr_dateBin h.argument _ (by decide)
    | millis => exact parseExpr_dateBin h.argument _ (by decide)

/-! ## Macros -/

/-- The words that an argument must not start with, so that nothing else is read in its place: in front of a first
column those of queries, in front of a first argument those about repeated values and about members that are null. -/
def Opens (dialect : Dialect) (kind : Kind) (args : List (Expr × List Token)) : Prop :=
  match kind with
  | .timeFilter _ => ∀ p ∈ args.head?, OpensNoQuery (operandTokens p.1 p.2)
  | .interval _ | .round => dialect = .clickHouse → ∀ p ∈ args, OpensArguments p.2
  | _ => True

/-- No column of a macro asks for a set. -/
def AskNoSet (kind : Kind) (args : List (Expr × List Token)) : Prop :=
  match kind with
  | .timeFilter _ => ∀ p ∈ args, AsksNoSet (operandTokens p.1 p.2)
  | _ => True

variable {request : Request} {i : Invocation}

/-- A macro that is written as a text stands for what is read from it. -/
theorem expand_sql (h : render dialect i request = .ok (.sql text)) {x : Expr} :
    expand dialect request i = .ok x ↔ parseExpr dialect text = .ok x := by
  rw [expand_eq_ok, h]
  simp

/-- The number of arguments of a macro. -/
def arity : Kind → Nat
  | .timeFilter (.range _) | .timeFilter .date => 1
  | .timeFilter .dateTime => 2
  | .interval (.bucket _) | .round => 1
  | _ => 0

theorem arity_of_mem_catalog {entry : Entry} (h : entry ∈ catalog) :
    entry.arity = arity entry.kind ∧ entry.kind ≠ .ctePlaceholder := by
  have hall : ∀ entry ∈ catalog, entry.arity = arity entry.kind ∧ entry.kind ≠ .ctePlaceholder := by decide
  exact hall entry h

/-- A macro stands for its expression under a condition, and for nothing otherwise. -/
def StandsIf (dialect : Dialect) (request : Request) (i : Invocation) (condition : Prop) : Prop :=
  (condition → ∃ x y, expand dialect request i = .ok x ∧ fragmentExpr dialect request i.kind i.args = some y ∧
    exprTree x = exprTree y) ∧ (¬ condition → ∀ x, expand dialect request i ≠ .ok x)

theorem standsIf_of_parse {condition : Prop} {y : Expr} (hrender : render dialect i request = .ok (.sql text))
    (hy : fragmentExpr dialect request i.kind i.args = some y)
    (hok : condition → ∃ x, parseExpr dialect text = .ok x ∧ exprTree x = exprTree y)
    (hfail : ¬ condition → ∀ x, parseExpr dialect text ≠ .ok x) : StandsIf dialect request i condition := by
  refine ⟨fun h => ?_, fun h x hx => hfail h x ((expand_sql hrender).1 hx)⟩
  obtain ⟨x, hread, hx⟩ := hok h
  exact ⟨x, y, (expand_sql hrender).2 hread, hy, hx⟩

theorem standsIf_true {y : Expr} (hrender : render dialect i request = .ok (.sql text))
    (hy : fragmentExpr dialect request i.kind i.args = some y)
    (hok : ∃ x, parseExpr dialect text = .ok x ∧ exprTree x = exprTree y) : StandsIf dialect request i True :=
  standsIf_of_parse hrender hy (fun _ => hok) fun h => absurd trivial h

variable {p q : Expr × List Token}

/-- A macro with one column is read as two comparisons, unless the column asks for a set. -/
theorem standsIf_range (hargs : i.args = [p.1]) (hp : Column dialect p.1 (operandTokens p.1 p.2))
    (hopens : OpensNoQuery (operandTokens p.1 p.2)) {filter : TimeFilter} (hkind : i.kind = .timeFilter filter)
    (harity : arity (.timeFilter filter) = 1) :
    StandsIf dialect request i (AsksNoSet (operandTokens p.1 p.2)) := by
  cases filter with
  | range precision =>
    obtain ⟨hok, hfail⟩ := parseExpr_range hp hopens (.moment dialect precision request.range.start)
      (.moment dialect precision request.range.stop)
    refine standsIf_of_parse ?_ ?_ hok hfail
    · rw [render, hkind]
      simp only [timeFilterText, Invocation.arg, hargs]
      rfl
    · rw [hkind, hargs]
      rfl
  | date =>
    obtain ⟨hok, hfail⟩ := parseExpr_range hp hopens (.day dialect request.range.start)
      (.day dialect request.range.stop)
    refine standsIf_of_parse ?_ ?_ hok hfail
    · rw [render, hkind]
      simp only [timeFilterText, Invocation.arg, hargs]
      rfl
    · rw [hkind, hargs]
      rfl
  | _ => cases harity

/-- A macro with two columns is read as four comparisons, unless a column asks for a set. -/
theorem standsIf_dateTime (hargs : i.args = [p.1, q.1]) (hp : Column dialect p.1 (operandTokens p.1 p.2))
    (hq : Column dialect q.1 (operandTokens q.1 q.2)) (hopens : OpensNoQuery (operandTokens p.1 p.2))
    (hkind : i.kind = .timeFilter .dateTime) :
    StandsIf dialect request i
      (AsksNoSet (operandTokens p.1 p.2) ∧ AsksNoSet (operandTokens q.1 q.2)) := by
  obtain ⟨hok, hfail⟩ := parseExpr_dateTime hp hq hopens (.day dialect request.range.start)
    (.day dialect request.range.stop) (.moment dialect .seconds request.range.start)
    (.moment dialect .seconds request.range.stop)
  refine standsIf_of_parse ?_ ?_ hok hfail
  · rw [render, hkind]
    simp only [timeFilterText, Invocation.arg, hargs]
    rfl
  · rw [hkind, hargs]
    rfl

/-- The start and the end of the range stand for themselves. -/
theorem standsIf_time (hargs : i.args = []) {filter : TimeFilter} (hkind : i.kind = .timeFilter filter)
    (harity : arity (.timeFilter filter) = 0) : StandsIf dialect request i True := by
  cases filter with
  | start precision =>
    refine standsIf_true (by rw [render, hkind]; rfl) (by rw [hkind, hargs]; rfl)
      (parseExpr_timeValue dialect precision request.range.start)
  | stop precision =>
    refine standsIf_true (by rw [render, hkind]; rfl) (by rw [hkind, hargs]; rfl)
      (parseExpr_timeValue dialect precision request.range.stop)
  | _ => cases harity

/-- A macro about the interval is read as a number, or as a function of its argument. -/
theorem standsIf_interval {interval : Interval} (hkind : i.kind = .interval interval) {args : List (Expr × List Token)}
    (hargs : i.args = args.map Prod.fst) (harity : args.length = arity (.interval interval))
    (hports : ∀ p ∈ args, Portable dialect p.1 p.2) (hopens : dialect = .clickHouse → ∀ p ∈ args, OpensArguments p.2) :
    StandsIf dialect request i True := by
  cases interval with
  | seconds =>
    obtain rfl := List.length_eq_zero_iff.1 harity
    exact standsIf_true (by rw [render, hkind]; rfl) (by rw [hkind, hargs]; rfl)
      (parseExpr_number dialect (max 1 request.interval.seconds))
  | millis =>
    obtain rfl := List.length_eq_zero_iff.1 harity
    exact standsIf_true (by rw [render, hkind]; rfl) (by rw [hkind, hargs]; rfl)
      (parseExpr_number dialect (max 1 request.interval.millis))
  | bucket precision =>
    obtain ⟨p, rfl⟩ := List.length_eq_one_iff.1 harity
    have hport := hports p (by simp)
    refine standsIf_true (y := bucketExpr dialect precision request.interval p.1) ?_ ?_
      (parseExpr_bucket precision request.interval hport fun h => hopens h p (by simp))
    · rw [render, hkind]
      simp only [intervalText, Invocation.arg, hargs]
      rfl
    · rw [hkind, hargs]
      rfl

theorem roundUnits_written {unit : RoundUnit} (h : unit ∈ roundUnits) :
    (unit.name, (timeFields.lookup unit.name).getD "") ∈ writtenUnits ∧ '\'' ∉ unit.plural.toList := by
  have hall : ∀ unit ∈ roundUnits,
      (unit.name, (timeFields.lookup unit.name).getD "") ∈ writtenUnits ∧ '\'' ∉ unit.plural.toList := by
    decide +kernel
  exact hall unit h

/-- A duration of at least one millisecond is written in some unit. -/
theorem exists_roundUnit {d : Duration} (h : d.millis ≠ 0) :
    ∃ count unit, roundUnit? d = some (count, unit) ∧ unit ∈ roundUnits := by
  unfold roundUnit?
  rw [if_neg h]
  cases hfind : roundUnits.find? fun unit => d.millis % unit.millis == 0 with
  | none =>
    have hlast := List.find?_eq_none.1 hfind ⟨1, "MILLISECOND", "milliseconds"⟩ (by decide)
    simp [Nat.mod_one] at hlast
  | some unit => exact ⟨_, unit, rfl, List.mem_of_find?_eq_some hfind⟩

/-- Rounding is read as a function of its argument. -/
theorem standsIf_round (hkind : i.kind = .round) (hargs : i.args = [p.1]) (hp : Portable dialect p.1 p.2)
    (hopens : dialect = .clickHouse → OpensArguments p.2) (hround : request.round.millis ≠ 0) :
    StandsIf dialect request i True := by
  obtain ⟨count, unit, hunit, hmem⟩ := exists_roundUnit hround
  obtain ⟨hwritten, hplain⟩ := roundUnits_written hmem
  have hy : fragmentExpr dialect request i.kind i.args = some (roundedExpr dialect count unit p.1) := by
    rw [hkind, hargs]
    show (roundUnit? request.round).map _ = _
    rw [hunit]
    rfl
  cases dialect with
  | clickHouse =>
    refine standsIf_true ?_ hy (parseExpr_startOfInterval hp.argument (hopens rfl) count hwritten)
    rw [render, hkind]
    simp only [Invocation.arg, hargs, roundText?, hunit]
    rfl
  | generic =>
    refine standsIf_true ?_ hy (parseExpr_dateBin hp.argument count hplain)
    rw [render, hkind]
    simp only [Invocation.arg, hargs, roundText?, hunit]
    rfl

/-- A plain name that is no keyword is portable. -/
theorem portable_name {text : String} (hplain : isPlainWord text.toList = true)
    (hw : isOrdinary dialect (keywordOf text none) = true) :
    Portable dialect (.ident ⟨text, none, none⟩) [.word text none] := by
  have h := term_name hplain hw none
  have hcolumn (depth : Nat) : ReadsColumn dialect depth [.word text none] (.ident ⟨text, none, none⟩) := by
    intro ls op sp rest hls hop
    have hcloses : Closes dialect (⟨op.token, sp⟩ :: rest) := closes_cons (.op (boundOps_spoken hop dialect).1)
    obtain ⟨x, hread, -, hx⟩ := h.reads hls hcloses (Nat.zero_le _) (ls ++ ⟨op.token, sp⟩ :: rest).length
    exact ⟨x, hx, hread⟩
  have hargument (depth : Nat) : ReadsArgument dialect (depth + 1) [.word text none] (.ident ⟨text, none, none⟩) := by
    intro ls s sp rest hls hs
    have hcloses : Closes dialect (⟨.sign s, sp⟩ :: rest) := closes_cons (.sign hs)
    obtain ⟨x, hread, -, hx⟩ := h.reads hls hcloses (Nat.zero_le depth) (ls ++ ⟨.sign s, sp⟩ :: rest).length
    have hend : infixLevel (⟨.sign s, sp⟩ :: rest) ≤ 0 := by
      simp only [List.mem_cons, List.not_mem_nil, or_false] at hs
      rcases hs with rfl | rfl <;> exact Nat.le_refl _
    have hexpr : (grammar dialect (depth + 1)).expr 0 (ls ++ ⟨.sign s, sp⟩ :: rest) = .ok (x, ⟨.sign s, sp⟩ :: rest) := by
      rw [grammar_expr, exprAbove_of_operandAt hread]
      exact infixLoop_stop hend _ _
    obtain ⟨_, _, rfl, hnil⟩ := cons_of_tokens hls
    obtain rfl := List.map_eq_nil_iff.1 hnil
    refine ⟨x, hx, arg_unnamed (by simp) ?_ (by simp [Token.keyword?]) hexpr⟩
    simp only [List.mem_cons, List.not_mem_nil, or_false] at hs
    rcases hs with rfl | rfl <;> simp
  have hencloses : Encloses [.word text none] := encloses_of_not_mem (by simp)
  exact ⟨⟨h.spells, hcolumn _, hcolumn _, by simp [operandTokens, isTerm]⟩, ⟨h.spells, hargument 48, hencloses⟩,
    ⟨h.spells, hargument 47, hencloses⟩⟩

/-- A request about one instant. -/
def instantRequest : Request := ⟨⟨.epoch, .epoch, Instant.le_refl _⟩, [], .zero, .zero⟩

end SqlTemplate
