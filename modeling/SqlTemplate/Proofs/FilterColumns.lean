import SqlTemplate.Proofs.FilterStructure

/-!
# The columns of filters

What a filter asks, it asks of the column that its key names: a key that needs quotes is one name that means the key,
another one is names with points between them. The exceptions are the words for which no key is quoted although they are
no names where a column is expected.

* `subject?`: the expression of which a predicate asks something.
* `NamesColumn`: the expression is a name that spells a key.
* `filterPredicate_column_iff`: which filters are read as predicates of the column of their key.
-/

namespace SqlTemplate.Sql

open Macro SqlTemplate.Sql.Parser

variable {dialect : Dialect} {key : String}

/-! ## Names -/

/-- The expression is a name that spells the key: one name between quotes that means the key, or names without quotes
that give the key with points between them. -/
def NamesColumn (key : String) : Expr → Prop
  | .ident ⟨text, none, _⟩ => text = key
  | .ident ⟨text, some quote, _⟩ => String.ofList (undoubled quote text.toList) = key
  | .compound names => (∀ name ∈ names, name.quote = none) ∧ String.intercalate "." (names.map Ident.text) = key
  | _ => False

/-- The names of a key that needs no quotes, with points between them, are the key. -/
theorem keyWords_of_plain (dialect : Dialect) (h : isPlainKey key = true) :
    (keyWords dialect key).1.2 = none ∧
      String.intercalate "." ((keyWords dialect key).1.1 :: (keyWords dialect key).2) = key := by
  obtain ⟨part, parts, hparts, hkey⟩ := keyParts_join key.toList
  unfold keyWords
  rw [if_pos h, hparts]
  exact ⟨rfl, by rw [intercalate_point, ← hkey, String.ofList_toList]⟩

/-- A key between quotes is one name that means the key. -/
theorem keyWords_of_quoted (dialect : Dialect) (h : ¬ isPlainKey key = true) :
    keyWords dialect key =
      ((String.ofList (doubleQuotes (nameQuote dialect) key.toList), some (nameQuote dialect)), []) := by
  rw [keyWords, if_neg h]

/-- A key between quotes has no keyword. -/
theorem keyKeyword_of_quoted (dialect : Dialect) (h : ¬ isPlainKey key = true) : keyKeyword dialect key = "" := by
  rw [keyKeyword, keyWords_of_quoted dialect h]
  rfl

/-- Names without quotes that give the key with points between them name it. -/
theorem namesColumn_of_names {word : String} {words : List String} {at_ : Option Text.Span} {names : List Ident}
    (hjoin : String.intercalate "." (word :: words) = key) (hquotes : ∀ name ∈ names, name.quote = none)
    (htexts : names.map Ident.text = words) : NamesColumn key (columnExpr ⟨word, none, at_⟩ names) := by
  subst htexts
  cases names with
  | nil => simpa [columnExpr, NamesColumn] using hjoin
  | cons name names =>
    refine ⟨?_, hjoin⟩
    rw [List.forall_mem_cons]
    exact ⟨rfl, hquotes⟩

/-- The column of a key names it, unless it is a call without parentheses. -/
theorem namesColumn_iff (at_ : Option Text.Span) {places : List (Option Text.Span)}
    (hp : places.length = (keyWords dialect key).2.length) :
    NamesColumn key (keyColumn dialect key at_ places) ↔ keyKeyword dialect key ∉ bareWords dialect := by
  unfold keyColumn
  split
  next hbare => exact iff_of_false id (not_not_intro hbare)
  next hbare =>
    refine iff_of_true ?_ hbare
    by_cases hplain : isPlainKey key = true
    · obtain ⟨hquote, hjoin⟩ := keyWords_of_plain dialect hplain
      rw [hquote]
      refine namesColumn_of_names hjoin ?_ ?_
      · rw [List.forall_mem_map]
        exact fun _ _ => rfl
      · rw [List.map_map]
        exact (List.map_congr_left fun _ _ => rfl).trans (List.map_fst_zip hp.ge)
    · rw [keyWords_of_quoted dialect hplain]
      simp [columnExpr, NamesColumn, undoubled_doubleQuotes]

/-! ## Predicates -/

/-- The first argument of a call. -/
def firstArgument? : Expr → Option Expr
  | .call _ _ ⟨_, .expr _ value :: _, _⟩ _ _ _ => some value
  | _ => none

/-- The expression of which a predicate asks something: the left side of a comparison, the subject of a test or of a
choice from a list, or the first argument of a function, which may be negated. -/
def subject? : Expr → Option Expr
  | .binary left _ _ => some left
  | .is operand _ => some operand
  | .inList operand _ _ => some operand
  | .unary .not call => firstArgument? call
  | call => firstArgument? call

theorem subject?_formExpr (column : Expr) (function : Ident) (form : PredicateForm) :
    subject? (formExpr dialect column function form) = some column := by
  cases form with
  | isMatch negated value => cases negated <;> rfl
  | _ => rfl

/-- The first word of the key is none of those that are no name where the filter puts it. -/
structure StandsForColumn (dialect : Dialect) (f : Filter) : Prop where
  notStubborn : keyKeyword dialect f.key ∉ stubbornWords dialect
  notBare : keyKeyword dialect f.key ∉ bareWords dialect
  notRepeating : f.operator = .regexMatch ∨ f.operator = .regexNotMatch → keyKeyword dialect f.key ∉ repeatWords

theorem standsForColumn_iff {f : Filter} :
    StandsForColumn dialect f ↔
      Readable dialect f.key (formOf f) ∧ keyKeyword dialect f.key ∉ bareWords dialect := by
  constructor
  · rintro ⟨hstubborn, hbare, hrepeating⟩
    exact ⟨⟨hstubborn, fun h => absurd h hbare, fun h => hrepeating ((formOf_isMatching f).1 h)⟩, hbare⟩
  · rintro ⟨⟨hstubborn, -, hrepeating⟩, hbare⟩
    exact ⟨hstubborn, hbare, fun h => hrepeating ((formOf_isMatching f).2 h)⟩

/-- A key between quotes always stands for its column. -/
theorem standsForColumn_of_quoted {f : Filter} (h : ¬ isPlainKey f.key = true) : StandsForColumn dialect f := by
  have hwords : "" ∉ stubbornWords dialect ∧ "" ∉ bareWords dialect ∧ "" ∉ repeatWords := by cases dialect <;> decide
  have hkey := keyKeyword_of_quoted dialect h
  exact ⟨hkey ▸ hwords.1, hkey ▸ hwords.2.1, fun _ => hkey ▸ hwords.2.2⟩

/-- A key that is not empty is a column. -/
theorem exists_filterPredicate (dialect : Dialect) {f : Filter} (hkey : f.key ≠ "") :
    ∃ text, filterPredicate dialect f = .ok text := by
  have hcolumn : ∃ column, quoteKey dialect f.key = .ok column := by
    unfold quoteKey
    rw [if_neg (by simpa using hkey)]
    split <;> exact ⟨_, rfl⟩
  obtain ⟨column, hcolumn⟩ := hcolumn
  exact ⟨_, filterPredicate_eq_ok.2 ⟨column, hcolumn, rfl⟩⟩

/-- **A filter asks about the column of its key.** The text of a filter whose key is not empty is read as a predicate of
an expression that names the key if and only if the first word of the key is none of a few; a key between quotes has
none of them. The text is not read at all if that word never gives way to a name, if it is a call without parentheses
and more of the key follows, or if it is one about repeated values in front of the arguments of a match. -/
theorem filterPredicate_column_iff (dialect : Dialect) (f : Filter) (hkey : f.key ≠ "") :
    ∃ text, filterPredicate dialect f = .ok text ∧
      ((∃ e column, parseExpr dialect text = .ok e ∧ subject? e = some column ∧ NamesColumn f.key column) ↔
        StandsForColumn dialect f) ∧
      (isPlainKey f.key = false → StandsForColumn dialect f) ∧
      ((∃ e, parseExpr dialect text = .ok e) ↔ Readable dialect f.key (formOf f)) ∧
      ∀ e, parseExpr dialect text = .ok e → ∃ column, subject? e = some column ∧
        (NamesColumn f.key column ↔ keyKeyword dialect f.key ∉ bareWords dialect) := by
  obtain ⟨text, htext⟩ := exists_filterPredicate dialect hkey
  have hsubject : ∀ e, parseExpr dialect text = .ok e → ∃ column, subject? e = some column ∧
      (NamesColumn f.key column ↔ keyKeyword dialect f.key ∉ bareWords dialect) := by
    intro e he
    obtain ⟨-, at_, places, fat, hp, rfl⟩ := parse_filter htext he
    exact ⟨_, subject?_formExpr _ _ _, namesColumn_iff at_ hp⟩
  have hparsed : (∃ e, parseExpr dialect text = .ok e) ↔ Readable dialect f.key (formOf f) :=
    ⟨fun ⟨e, he⟩ => (parse_filter htext he).1, parses_of_readable dialect f htext⟩
  refine ⟨text, htext, ?_, fun h => standsForColumn_of_quoted (by simp [h]), hparsed, hsubject⟩
  rw [standsForColumn_iff]
  constructor
  · rintro ⟨e, column, he, hcolumn, hnames⟩
    obtain ⟨column', hcolumn', hiff⟩ := hsubject e he
    rw [hcolumn, Option.some.injEq] at hcolumn'
    exact ⟨hparsed.1 ⟨e, he⟩, hiff.1 (hcolumn' ▸ hnames)⟩
  · rintro ⟨hreadable, hbare⟩
    obtain ⟨e, he⟩ := hparsed.2 hreadable
    obtain ⟨column, hcolumn, hiff⟩ := hsubject e he
    exact ⟨e, column, he, hcolumn, hiff.2 hbare⟩

/-- Three keys that stand for no column: two whose filters are not read, and one that is read as a call. -/
theorem keys_without_column :
    (∃ text, filterPredicate .clickHouse ⟨"trim", .equal, "x", none⟩ = .ok text ∧
      ∀ e, parseExpr .clickHouse text ≠ .ok e) ∧
    (∃ text, filterPredicate .generic ⟨"distinct", .regexMatch, "x", none⟩ = .ok text ∧
      ∀ e, parseExpr .generic text ≠ .ok e) ∧
    ∃ text e column, filterPredicate .clickHouse ⟨"current_date", .equal, "x", none⟩ = .ok text ∧
      parseExpr .clickHouse text = .ok e ∧ subject? e = some column ∧ ¬ NamesColumn "current_date" column := by
  refine ⟨?_, ?_, ?_⟩
  · obtain ⟨text, htext, -, -, hparsed, -⟩ :=
      filterPredicate_column_iff .clickHouse ⟨"trim", .equal, "x", none⟩ (by decide)
    exact ⟨text, htext, fun e he => (hparsed.1 ⟨e, he⟩).notStubborn (by decide +kernel)⟩
  · obtain ⟨text, htext, -, -, hparsed, -⟩ :=
      filterPredicate_column_iff .generic ⟨"distinct", .regexMatch, "x", none⟩ (by decide)
    exact ⟨text, htext, fun e he => (hparsed.1 ⟨e, he⟩).notRepeating (by decide +kernel) (by decide +kernel)⟩
  · obtain ⟨text, htext, -, -, hparsed, hsubject⟩ :=
      filterPredicate_column_iff .clickHouse ⟨"current_date", .equal, "x", none⟩ (by decide)
    obtain ⟨e, he⟩ := hparsed.2 ⟨by decide +kernel, by decide +kernel, by decide +kernel⟩
    obtain ⟨column, hcolumn, hnames⟩ := hsubject e he
    exact ⟨text, e, column, htext, he, hcolumn, fun h => hnames.1 h (by decide +kernel)⟩

end SqlTemplate.Sql
