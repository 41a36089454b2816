import SqlTemplate.Proofs.Predicates
import SqlTemplate.Proofs.Scanning

/-!
# The texts of filters

The text of a filter spells the tokens of its column, its comparison and its literals, whatever characters the value is
made of. The same tokens are spelled by the predicate when it is written again, where only the sign for "different" is
another one.

* `PredicateForm`, `formOf`: what a filter asks of its column.
* `columnTokens`, `PredicateForm.tokens`: the tokens of a key and of a predicate.
* `PredicateForm.text`: the text of a predicate, given the signs of the comparisons; `spells_predicate`: it spells the
  tokens.
-/

namespace SqlTemplate.Sql

open Macro

variable {dialect : Dialect} {cs : List Char} {ts : List Token}

/-! ## Keys -/

/-- The words of a key: the first one with its quote, and those behind points. -/
def keyWords (dialect : Dialect) (key : String) : (String × Option Char) × List String :=
  if isPlainKey key then
    match keyParts key.toList with
    | [] => (("", none), [])
    | part :: parts => ((String.ofList part, none), parts.map String.ofList)
  else
    ((String.ofList (doubleQuotes (nameQuote dialect) key.toList), some (nameQuote dialect)), [])

/-- The tokens of a key. -/
def columnTokens (dialect : Dialect) (key : String) : List Token :=
  .word (keyWords dialect key).1.1 (keyWords dialect key).1.2 ::
    (keyWords dialect key).2.flatMap fun word => [.sign ".", .word word none]

theorem keyParts_point (cs : List Char) : keyParts ('.' :: cs) = [] :: keyParts cs := by
  rw [keyParts]

theorem keyParts_other {c : Char} (hc : c ≠ '.') {part : List Char} {parts : List (List Char)} {cs : List Char}
    (h : keyParts cs = part :: parts) : keyParts (c :: cs) = (c :: part) :: parts := by
  unfold keyParts
  rw [h]
  split
  · contradiction
  · simp_all
  · simp_all

/-- The parts of a key behind its first one, each with its point. -/
def pointedParts (parts : List (List Char)) : List Char := parts.flatMap ('.' :: ·)

/-- A key is its parts with points between them. -/
theorem keyParts_join (cs : List Char) :
    ∃ part parts, keyParts cs = part :: parts ∧ cs = part ++ pointedParts parts := by
  induction cs with
  | nil => exact ⟨[], [], rfl, rfl⟩
  | cons c cs ih =>
    obtain ⟨part, parts, hk, hcs⟩ := ih
    by_cases hc : c = '.'
    · subst hc
      refine ⟨[], part :: parts, by rw [keyParts_point, hk], ?_⟩
      rw [hcs]
      simp [pointedParts]
    · exact ⟨c :: part, parts, keyParts_other hc hk, by rw [hcs]; rfl⟩

/-- A point in front of a word is a token of its own. -/
theorem Spells.point {c : Char} {w : List Char} (hw : isPlainWord (c :: w) = true)
    (h : Spells dialect (c :: w ++ cs) ts) : Spells dialect ('.' :: c :: w ++ cs) (.sign "." :: ts) := by
  have hd : c.isDigit = false := isDigit_of_isPlainStart (isPlainWord_cons.1 hw).1
  have hs : scanToken dialect '.' (c :: w ++ cs) = .ok (.sign ".", c :: w ++ cs) := by
    have hm : scanMarkedString? dialect '.' (c :: (w ++ cs)) = none := by cases dialect <;> rfl
    have hdot : ('.').isDigit = false := rfl
    simp [scanToken, hm, scanNumber, hdot, hd]
  simpa [Token.promote] using token hs (Nat.le_refl _) (by simp [Token.promote]) h

theorem spells_pointedParts (hcs : endsWord cs = true) (h : Spells dialect cs ts) :
    ∀ parts : List (List Char), parts.all isPlainWord = true →
      endsWord (pointedParts parts ++ cs) = true ∧
      Spells dialect (pointedParts parts ++ cs)
        ((parts.map String.ofList).flatMap (fun word => [.sign ".", .word word none]) ++ ts)
  | [], _ => ⟨hcs, h⟩
  | part :: parts, hp => by
    rw [List.all_cons, Bool.and_eq_true] at hp
    obtain ⟨hend, hrest⟩ := spells_pointedParts hcs h parts hp.2
    refine ⟨rfl, ?_⟩
    cases part with
    | nil => simp [isPlainWord] at hp
    | cons c w =>
      have hword := hrest.word (w := String.ofList (c :: w)) (by simpa using hp.1) hend
      rw [String.toList_ofList] at hword
      simpa [pointedParts] using hword.point hp.1

/-- The text of a key spells its tokens. -/
theorem spells_key {key text : String} (hk : quoteKey dialect key = .ok text) (hcs : endsWord cs = true)
    (h : Spells dialect cs ts) : Spells dialect (text.toList ++ cs) (columnTokens dialect key ++ ts) := by
  unfold quoteKey at hk
  unfold columnTokens keyWords
  split at hk
  · cases hk
  · split at hk
    · rename_i hplain
      cases hk
      rw [if_pos hplain]
      obtain ⟨part, parts, hparts, hkey⟩ := keyParts_join key.toList
      simp only [isPlainKey, hparts, List.all_cons, Bool.and_eq_true] at hplain
      obtain ⟨hend, hrest⟩ := spells_pointedParts hcs h parts hplain.1.2
      have hword := hrest.word (w := String.ofList part) (by simpa using hplain.1.1) hend
      rw [String.toList_ofList, ← List.append_assoc, ← hkey] at hword
      simpa [hparts] using hword
    · rename_i hplain
      cases hk
      rw [if_neg hplain]
      have hq : nameQuote dialect = '"' ∨ nameQuote dialect = '\x60' := by cases dialect <;> simp [nameQuote]
      have hne : cs.head? ≠ some (nameQuote dialect) := by
        obtain rfl | ⟨c, rest, rfl, hc⟩ := endsWord_cases hcs
        · simp
        · simp only [List.head?_cons, ne_eq, Option.some.injEq]
          rintro rfl
          revert hc
          cases dialect <;> decide
      have hword := h.quotedWord hq (readQuoted_doubled key.toList) hne
      simpa using hword

/-! ## Forms of predicates -/

/-- What a predicate asks of a column. -/
inductive PredicateForm where
  | compare (op : BinaryOp) (value : String)
  | isNull (negated : Bool)
  | isIn (negated : Bool) (value : String) (more : List String)
  | isMatch (negated : Bool) (value : String)

/-- The value that a filter compares with, unless it asks for a missing one. -/
def comparedValue (f : Filter) : String := if f.value = Filter.emptyMark then "" else f.value

/-- What a filter asks of its column. -/
def formOf (f : Filter) : PredicateForm :=
  match f.operator with
  | .equal => if f.value = Filter.nullMark then .isNull false else .compare .eq (comparedValue f)
  | .notEqual => if f.value = Filter.nullMark then .isNull true else .compare .notEq (comparedValue f)
  | .less => .compare .lt f.value
  | .greater => .compare .gt f.value
  | .lessOrEqual => .compare .ltEq f.value
  | .greaterOrEqual => .compare .gtEq f.value
  | .regexMatch => .isMatch false f.value
  | .regexNotMatch => .isMatch true f.value
  | .oneOf => .isIn false (f.operands.headD "") f.operands.tail
  | .notOneOf => .isIn true (f.operands.headD "") f.operands.tail

/-- The values that a filter is about: its value or its list of values; under `=` and `!=` the marks stand for the empty
text and for no value at all. -/
def filterValues (f : Filter) : List String :=
  match f.operator with
  | .oneOf | .notOneOf => f.operands
  | .equal | .notEqual =>
    if f.value = Filter.nullMark then [] else if f.value = Filter.emptyMark then [""] else [f.value]
  | _ => [f.value]

/-- The sign that a filter writes for a comparison. -/
def filterSign : BinaryOp → String
  | .notEq => "!="
  | op => op.toSql

namespace PredicateForm

/-- The values of a predicate in the order in which they are written. -/
def values : PredicateForm → List String
  | .compare _ value => [value]
  | .isNull _ => []
  | .isIn _ value more => value :: more
  | .isMatch _ value => [value]

/-- Whether a comparison is one that filters know. -/
def Known : PredicateForm → Prop
  | .compare op _ => (op.toSql, op) ∈ Parser.comparisons
  | _ => True

/-- The text of a predicate on a column, given the signs of the comparisons. -/
def text (sign : BinaryOp → String) (dialect : Dialect) (column : String) : PredicateForm → String
  | .compare op value => column ++ " " ++ sign op ++ " " ++ stringLiteral dialect value
  | .isNull negated => column ++ " IS " ++ (if negated then "NOT " else "") ++ "NULL"
  | .isIn negated value more =>
    column ++ " " ++ (if negated then "NOT " else "") ++ "IN (" ++
      String.intercalate ", " ((value :: more).map (stringLiteral dialect)) ++ ")"
  | .isMatch negated value =>
    (if negated then "NOT " else "") ++ matchFunction dialect ++ "(" ++ column ++ ", " ++
      stringLiteral dialect value ++ ")"

/-- The token of a value. -/
def textToken (dialect : Dialect) (value : String) : Token := .string .single (heldLiteral dialect value)

/-- The tokens of a predicate on a column. -/
def tokens (dialect : Dialect) (column : List Token) : PredicateForm → List Token
  | .compare op value => column ++ [.sign op.toSql, textToken dialect value]
  | .isNull false => column ++ [.word "IS" none, .word "NULL" none]
  | .isNull true => column ++ [.word "IS" none, .word "NOT" none, .word "NULL" none]
  | .isIn false value more =>
    column ++ .word "IN" none :: .sign "(" :: textToken dialect value ::
      (more.flatMap (fun v => [.sign ",", textToken dialect v]) ++ [.sign ")"])
  | .isIn true value more =>
    column ++ .word "NOT" none :: .word "IN" none :: .sign "(" :: textToken dialect value ::
      (more.flatMap (fun v => [.sign ",", textToken dialect v]) ++ [.sign ")"])
  | .isMatch false value =>
    .word (matchFunction dialect) none :: .sign "(" :: (column ++ [.sign ",", textToken dialect value, .sign ")"])
  | .isMatch true value =>
    .word "NOT" none :: .word (matchFunction dialect) none :: .sign "(" ::
      (column ++ [.sign ",", textToken dialect value, .sign ")"])

end PredicateForm

theorem formOf_known (f : Filter) : (formOf f).Known := by
  unfold formOf
  cases f.operator
  case equal | notEqual =>
    dsimp only
    split
    · trivial
    · simp [PredicateForm.Known, Parser.comparisons, BinaryOp.toSql]
  case less | greater | lessOrEqual | greaterOrEqual =>
    simp [PredicateForm.Known, Parser.comparisons, BinaryOp.toSql]
  all_goals trivial

theorem operands_cons (f : Filter) : f.operands.headD "" :: f.operands.tail = f.operands := by
  cases h : f.operands with
  | nil => exact absurd h f.operands_ne_nil
  | cons v vs => rfl

/-- The values of a filter's predicate are those that the filter is about. -/
theorem formOf_values (f : Filter) : (formOf f).values = filterValues f := by
  unfold formOf filterValues comparedValue
  cases f.operator
  case equal | notEqual =>
    by_cases hn : f.value = Filter.nullMark
    · simp [hn, PredicateForm.values]
    · dsimp only
      rw [if_neg hn, if_neg hn]
      by_cases he : f.value = Filter.emptyMark
      · rw [if_pos he, if_pos he]
        rfl
      · rw [if_neg he, if_neg he]
        rfl
  case oneOf | notOneOf => exact operands_cons f
  all_goals rfl

/-- The text of a filter is that of its predicate. -/
theorem columnPredicate_eq (dialect : Dialect) (column : String) (f : Filter) :
    columnPredicate dialect column f = (formOf f).text filterSign dialect column := by
  have hempty : stringLiteral dialect "" = "''" := by cases dialect <;> rfl
  unfold columnPredicate formOf comparedValue
  cases f.operator
  case equal | notEqual =>
    dsimp only
    split
    · rfl
    · split
      · rw [PredicateForm.text, hempty]
        rfl
      · rfl
  case oneOf | notOneOf =>
    dsimp only [PredicateForm.text]
    rw [operands_cons]
    rfl
  all_goals rfl

/-! ## What the texts spell -/

/-- A value as a literal in front of what ends it. -/
theorem spells_text (dialect : Dialect) (value : String) (hcs : cs.head? ≠ some '\'') (h : Spells dialect cs ts) :
    Spells dialect ((stringLiteral dialect value).toList ++ cs) (PredicateForm.textToken dialect value :: ts) := by
  have hs := h.string (readQuoted_literal dialect value.toList) hcs
  simpa [stringLiteral, PredicateForm.textToken, heldLiteral] using hs

/-- Keywords are plain words. -/
theorem spells_keyword {w : String} (hw : isPlainWord w.toList = true) (h : Spells dialect cs ts) :
    Spells dialect (w.toList ++ ' ' :: cs) (.word w none :: ts) := h.blank.word hw rfl

theorem spells_opening (h : Spells dialect cs ts) : Spells dialect ('(' :: cs) (.sign "(" :: ts) :=
  .token (t := .sign "(") (by cases dialect <;> rfl) (Nat.le_refl _) (by decide) h

theorem spells_closing (h : Spells dialect cs ts) : Spells dialect (')' :: cs) (.sign ")" :: ts) :=
  .token (t := .sign ")") (by cases dialect <;> rfl) (Nat.le_refl _) (by decide) h

theorem spells_comma (h : Spells dialect cs ts) : Spells dialect (',' :: ' ' :: cs) (.sign "," :: ts) :=
  .token (t := .sign ",") (r := ' ' :: cs) (by cases dialect <;> rfl) (Nat.le_refl _) (by decide) h.blank

/-- Both signs for "different" are one token. -/
theorem spells_comparison {sign : BinaryOp → String} (hsign : sign = filterSign ∨ sign = BinaryOp.toSql) {op : BinaryOp}
    (hop : (op.toSql, op) ∈ Parser.comparisons) (h : Spells dialect cs ts) :
    Spells dialect ((sign op).toList ++ ' ' :: cs) (.sign op.toSql :: ts) := by
  have one (c : Char) (s : String) (hs : scanToken dialect c (' ' :: cs) = .ok (.sign s, ' ' :: cs)) :
      Spells dialect (c :: ' ' :: cs) (.sign s :: ts) :=
    .token (t := .sign s) hs (Nat.le_refl _) (by simp [Token.promote]) h.blank
  have two (c d : Char) (s : String) (hs : scanToken dialect c (d :: ' ' :: cs) = .ok (.sign s, ' ' :: cs)) :
      Spells dialect (c :: d :: ' ' :: cs) (.sign s :: ts) :=
    .token (t := .sign s) hs (by simp) (by simp [Token.promote]) h.blank
  rcases Parser.mem_comparisons hop with ⟨-, rfl⟩ | ⟨-, rfl⟩ | ⟨-, rfl⟩ | ⟨-, rfl⟩ | ⟨-, rfl⟩ | ⟨-, rfl⟩ <;>
    rcases hsign with rfl | rfl
  · exact one '=' "=" (by cases dialect <;> rfl)
  · exact one '=' "=" (by cases dialect <;> rfl)
  · exact two '!' '=' "<>" (by cases dialect <;> rfl)
  · exact two '<' '>' "<>" (by cases dialect <;> rfl)
  · exact one '<' "<" (by cases dialect <;> rfl)
  · exact one '<' "<" (by cases dialect <;> rfl)
  · exact one '>' ">" (by cases dialect <;> rfl)
  · exact one '>' ">" (by cases dialect <;> rfl)
  · exact two '<' '=' "<=" (by cases dialect <;> rfl)
  · exact two '<' '=' "<=" (by cases dialect <;> rfl)
  · exact two '>' '=' ">=" (by cases dialect <;> rfl)
  · exact two '>' '=' ">=" (by cases dialect <;> rfl)

/-- The values of a list with commas between them, in front of what ends the list. -/
theorem spells_texts (hcs : cs.head? ≠ some '\'') (h : Spells dialect cs ts) : ∀ (more : List String) (value : String),
    Spells dialect ((String.intercalate ", " ((value :: more).map (stringLiteral dialect))).toList ++ cs)
      (PredicateForm.textToken dialect value ::
        (more.flatMap (fun v => [.sign ",", PredicateForm.textToken dialect v]) ++ ts))
  | [], value => by simpa using spells_text dialect value hcs h
  | v :: vs, value => by
    have hrest := spells_text dialect value (by simp) (spells_comma (spells_texts hcs h vs v))
    simpa [String.intercalate_cons_cons] using hrest

theorem head?_ne_quote (hcs : endsWord cs = true) : cs.head? ≠ some '\'' := by
  obtain rfl | ⟨c, rest, rfl, hc⟩ := endsWord_cases hcs
  · simp
  · simp only [List.head?_cons, ne_eq, Option.some.injEq]
    rintro rfl
    revert hc
    decide

theorem isPlainWord_matchFunction (dialect : Dialect) : isPlainWord (matchFunction dialect).toList = true := by
  cases dialect <;> decide +kernel

/-- The text of a predicate spells its tokens if the text of its column does. -/
theorem spells_predicate {column : String} {names : List Token}
    (hkey : ∀ {cs : List Char} {ts : List Token}, endsWord cs = true → Spells dialect cs ts →
      Spells dialect (column.toList ++ cs) (names ++ ts))
    {sign : BinaryOp → String} (hsign : sign = filterSign ∨ sign = BinaryOp.toSql) (form : PredicateForm)
    (hknown : form.Known) (hcs : endsWord cs = true) (h : Spells dialect cs ts) :
    Spells dialect ((form.text sign dialect column).toList ++ cs) (form.tokens dialect names ++ ts) := by
  have hq := head?_ne_quote hcs
  have hmatch (value : String) : Spells dialect
      ((matchFunction dialect).toList ++ '(' :: (column.toList ++ ',' :: ' ' ::
        ((stringLiteral dialect value).toList ++ ')' :: cs)))
      (.word (matchFunction dialect) none :: .sign "(" ::
        (names ++ .sign "," :: PredicateForm.textToken dialect value :: .sign ")" :: ts)) := by
    have hvalue := spells_comma (spells_text dialect value (by simp) (spells_closing h))
    exact (spells_opening (hkey rfl hvalue)).word (isPlainWord_matchFunction dialect) rfl
  have hin (value : String) (more : List String) : Spells dialect
      ("IN".toList ++ ' ' :: '(' :: ((String.intercalate ", " ((value :: more).map (stringLiteral dialect))).toList ++
        ')' :: cs))
      (.word "IN" none :: .sign "(" :: PredicateForm.textToken dialect value ::
        (more.flatMap (fun v => [.sign ",", PredicateForm.textToken dialect v]) ++ .sign ")" :: ts)) :=
    spells_keyword (by decide +kernel) (spells_opening (spells_texts (by simp) (spells_closing h) more value))
  have hnull : Spells dialect ("NULL".toList ++ cs) (.word "NULL" none :: ts) := h.word (by decide +kernel) hcs
  cases form with
  | compare op value =>
    have hright := (spells_comparison hsign hknown (spells_text dialect value hq h)).blank
    simpa [PredicateForm.text, PredicateForm.tokens] using hkey rfl hright
  | isNull negated =>
    cases negated
    · have hright := (spells_keyword (w := "IS") (by decide +kernel) hnull).blank
      simpa [PredicateForm.text, PredicateForm.tokens] using hkey rfl hright
    · have hnot := spells_keyword (w := "NOT") (by decide +kernel) hnull
      have hright := (spells_keyword (w := "IS") (by decide +kernel) hnot).blank
      simpa [PredicateForm.text, PredicateForm.tokens] using hkey rfl hright
  | isIn negated value more =>
    cases negated
    · simpa [PredicateForm.text, PredicateForm.tokens] using hkey rfl (hin value more).blank
    · have hright := (spells_keyword (w := "NOT") (by decide +kernel) (hin value more)).blank
      simpa [PredicateForm.text, PredicateForm.tokens] using hkey rfl hright
  | isMatch negated value =>
    cases negated
    · simpa [PredicateForm.text, PredicateForm.tokens] using hmatch value
    · have hnot := spells_keyword (w := "NOT") (by decide +kernel) (hmatch value)
      simpa [PredicateForm.text, PredicateForm.tokens] using hnot

end SqlTemplate.Sql
