import Mathlib.Algebra.GroupWithZero.Nat
import SqlTemplate.Interpolation
import SqlTemplate.Proofs.Calls

/-!
# What a call carries

A call can carry more than its name and its arguments: parameters in front of these, whether repeated values count,
clauses behind the arguments, an order within a group, words about nulls, a window, and braces around it all. Which
macro a call stands for is decided by its name and its arguments alone, so that all the rest is dropped when the macro
is expanded. A macro call is written as its name and its arguments if and only if it carries nothing else.

* `callOf_eq_ok_iff`: which expressions are calls of macros.
* `Expr.extras`, `Expr.bare`: what a call carries, as written, and the call without it.
* `callOf_bare`: the rest of a call makes no difference to its macro.
* `written_plainly_iff`: when a macro call carries nothing but its arguments.
-/

namespace SqlTemplate

open Sql

namespace Macro

/-! ## The calls of macros -/

theorem resolve_eq_found {name : String} {arity : Nat} {entry : Entry} (h : resolve name arity = .found entry) :
    entry ∈ catalog ∧ entry.name = name ∧ entry.arity = arity := by
  unfold resolve at h
  cases hfind : (entriesOf name).find? (·.arity == arity) with
  | none =>
    rw [hfind] at h
    cases hentries : entriesOf name <;> rw [hentries] at h <;> cases h
  | some found =>
    rw [hfind] at h
    cases h
    have hmem := List.mem_of_find?_eq_some hfind
    simp only [entriesOf, List.mem_filter, beq_iff_eq] at hmem
    exact ⟨hmem.1, hmem.2, by simpa using List.find?_some hfind⟩

theorem isMacroName_of_mem_catalog {entry : Entry} (h : entry ∈ catalog) : isMacroName entry.name = true := by
  have hall : ∀ entry ∈ catalog, isMacroName entry.name = true := by decide +kernel
  exact hall entry h

/-- **The calls of macros** are names of the catalog in one part and without quotes, with or without arguments in
parentheses, that have as many arguments as the catalog says. -/
theorem callOf_eq_ok_iff {e : Expr} {i : Invocation} :
    callOf e = some (.ok i) ↔ ∃ name entry, candidate? e = some (name, .ok i.args) ∧ name.quote = none ∧
      resolve name.text i.args.length = .found entry ∧ i = ⟨entry.name, entry.kind, i.args, identLocation name⟩ := by
  constructor
  · intro h
    unfold callOf at h
    rcases hcandidate : candidate? e with _ | ⟨name, message | args⟩ <;> rw [hcandidate] at h
    · cases h
    · dsimp only at h
      split at h
      · cases h
      · simp only [invocationOf] at h
        split at h <;> cases h
    · dsimp only at h
      split at h
      · cases h
      · rename_i hname
        simp only [Bool.or_eq_true, not_or, Bool.not_eq_true, Option.isSome_eq_false_iff,
          Option.isNone_iff_eq_none] at hname
        simp only [invocationOf] at h
        split at h <;> cases h
        rename_i entry hentry
        exact ⟨name, entry, rfl, hname.1, hentry, rfl⟩
  · rintro ⟨name, entry, hcandidate, hquote, hentry, hi⟩
    obtain ⟨hmem, hname, -⟩ := resolve_eq_found hentry
    have hmacro := isMacroName_of_mem_catalog hmem
    rw [hname] at hmacro
    rw [hi]
    simp [callOf, hcandidate, hquote, hmacro, invocationOf, hentry]

end Macro

/-! ## What a call carries -/

namespace Sql

/-- What stands around the arguments of a call, as written. -/
def surroundings (parameters : Option ArgList) (repeats : Option Repeats) (style : CallStyle)
    (window withinGroup : Option Phrase) : List String :=
  (if style.braced then ["\x7bfn ", "\x7d"] else []) ++ (optArgListText parameters).toList ++
    (repeats.map Repeats.toSql).toList ++ (optPhraseText withinGroup).toList.map (" " ++ ·) ++
    (style.nulls.map NullTreatment.toSql).toList.map (" " ++ ·) ++ (optPhraseText window).toList.map (" OVER " ++ ·)

/-- What a call carries beside its name and its arguments, as written. -/
def Expr.extras : Expr → List String
  | .call _ parameters ⟨repeats, _, clauses⟩ style window withinGroup =>
    surroundings parameters repeats style window withinGroup ++ phraseTexts clauses
  | _ => []

/-- A call without what it carries beside its name and its arguments. -/
def Expr.bare : Expr → Expr
  | .call name _ ⟨_, args, _⟩ _ _ _ => .call name none ⟨none, args, []⟩ ⟨false, none⟩ none none
  | e => e

theorem Expr.extras_bare (e : Expr) : e.bare.extras = [] := by
  cases e with
  | call name parameters args style window withinGroup =>
    obtain ⟨repeats, args, clauses⟩ := args
    rfl
  | _ => rfl

end Sql

namespace Macro

/-- A call of a macro that carries nothing but its arguments. -/
def Invocation.written (i : Invocation) : String := i.name ++ "(" ++ commaJoin (i.args.map Expr.toSql) ++ ")"

/-- What a call carries beside its name and its arguments makes no difference to its macro. -/
theorem callOf_bare (e : Expr) : callOf e.bare = callOf e := by
  cases e with
  | call name parameters args style window withinGroup =>
    obtain ⟨repeats, args, clauses⟩ := args
    rcases name with _ | ⟨name, _ | ⟨name', names⟩⟩ <;> rfl
  | _ => rfl

theorem argTexts_of_plain {args : List Arg} {es : List Expr} (h : args.mapM plainArg = .ok es) :
    argTexts args = es.map Expr.toSql := by
  induction args generalizing es with
  | nil => cases h; rfl
  | cons arg args ih =>
    rw [List.mapM_cons] at h
    rcases arg with ⟨_ | label, value⟩ | ⟨label, qualifier⟩
    · cases hrest : args.mapM plainArg with
      | error message =>
        rw [hrest] at h
        cases h
      | ok rest =>
        rw [hrest] at h
        cases h
        simp [argTexts, Arg.toSql, argLabel, ih hrest]
    · cases h
    · cases h

/-- The length of texts with blanks between them. -/
theorem length_intercalate_blank (text : String) (more : List String) :
    (String.intercalate " " (text :: more)).length = text.length + (more.map fun m => m.length + 1).sum := by
  induction more generalizing text with
  | nil => simp
  | cons m more ih =>
    rw [String.intercalate_cons_cons, String.length_append, String.length_append, ih]
    simp only [List.map_cons, List.sum_cons]
    have hblank : (" " : String).length = 1 := rfl
    omega

theorem phraseTexts_eq_nil {clauses : List Phrase} : phraseTexts clauses = [] ↔ clauses = [] := by
  cases clauses <;> simp [phraseTexts]

theorem argTexts_eq_nil {args : List Arg} : argTexts args = [] ↔ args = [] := by
  cases args <;> simp [argTexts]

/-- Clauses behind arguments make them longer, unless nothing at all is written. -/
theorem length_args (args : List Arg) (clauses : List Phrase) :
    ∃ n, (ArgList.toSql ⟨none, args, clauses⟩).length = (commaJoin (argTexts args)).length + 2 + n ∧
      (n = 0 ↔ clauses = [] ∨ args = [] ∧ phraseTexts clauses = [""]) := by
  have hopening : ("(" : String).length = 1 := rfl
  have hclosing : (")" : String).length = 1 := rfl
  rw [← phraseTexts_eq_nil]
  cases args with
  | nil =>
    cases hclauses : phraseTexts clauses with
    | nil =>
      refine ⟨0, ?_, by simp⟩
      simp only [ArgList.toSql, argTexts, hclauses, commaJoin]
      rfl
    | cons text more =>
      refine ⟨text.length + (more.map fun m => m.length + 1).sum, ?_, ?_⟩
      · simp [ArgList.toSql, argTexts, hclauses, commaJoin, length_intercalate_blank]
        omega
      · cases more <;> simp
  | cons arg args =>
    refine ⟨((phraseTexts clauses).map fun m => m.length + 1).sum, ?_, ?_⟩
    · simp [ArgList.toSql, commaJoin, length_intercalate_blank]
      omega
    · cases phraseTexts clauses <;> simp

theorem length_withLead (lead : String) (text : Option String) :
    (withLead lead text).length = ((text.toList.map (lead ++ ·)).map String.length).sum := by
  cases text <;> simp [withLead]

theorem length_getD (text : Option String) : (text.getD "").length = (text.toList.map String.length).sum := by
  cases text <;> simp

/-- Nothing that stands around the arguments of a call is written as nothing. -/
theorem ne_empty_of_mem_surroundings {parameters : Option ArgList} {repeats : Option Repeats} {style : CallStyle}
    {window withinGroup : Option Phrase} {text : String}
    (h : text ∈ surroundings parameters repeats style window withinGroup) : text ≠ "" := by
  have hargs : ∀ args : ArgList, args.toSql ≠ "" := by
    rintro ⟨repeats, args, clauses⟩
    simp [ArgList.toSql]
  have hrepeats : ∀ r : Repeats, r.toSql ≠ "" := by
    intro r
    cases r <;> decide
  simp only [surroundings, List.mem_append] at h
  rcases h with ((((h | h) | h) | h) | h) | h
  · split at h
    · simp only [List.mem_cons, List.not_mem_nil, or_false] at h
      rcases h with rfl | rfl <;> decide
    · cases h
  · cases parameters with
    | none => cases h
    | some args =>
      obtain rfl := List.mem_singleton.1 h
      exact hargs args
  · cases repeats with
    | none => cases h
    | some r =>
      obtain rfl := List.mem_singleton.1 h
      exact hrepeats r
  all_goals
    obtain ⟨t, -, rfl⟩ := List.mem_map.1 h
    simp

/-- **What a call carries makes it longer**, unless it is a clause that is written as nothing. -/
theorem length_call (name : Ident) (parameters : Option ArgList) (args : ArgList) (style : CallStyle)
    (window withinGroup : Option Phrase) :
    ∃ n, (Expr.call [name] parameters args style window withinGroup).toSql.length =
        name.toSql.length + (commaJoin (argTexts args.args)).length + 2 + n ∧
      (n = 0 ↔ (Expr.call [name] parameters args style window withinGroup).extras = [] ∨
        args.args = [] ∧ (Expr.call [name] parameters args style window withinGroup).extras = [""]) := by
  obtain ⟨repeats, args, clauses⟩ := args
  obtain ⟨k, hk, hzero⟩ := length_args args clauses
  have hne := @ne_empty_of_mem_surroundings parameters repeats style window withinGroup
  refine ⟨((surroundings parameters repeats style window withinGroup).map String.length).sum + k, ?_, ?_⟩
  · have hargs : (ArgList.toSql ⟨repeats, args, clauses⟩).length =
        ((repeats.map Repeats.toSql).toList.map String.length).sum + (ArgList.toSql ⟨none, args, clauses⟩).length := by
      rw [← length_getD]
      simp [ArgList.toSql]
      omega
    have hbraces : (wordIf style.braced "\x7bfn ").length + (wordIf style.braced "\x7d").length =
        ((if style.braced then ["\x7bfn ", "\x7d"] else []).map String.length).sum := by
      cases style.braced <;> simp [wordIf]
    simp only [Expr.toSql_call, Name.toSql, List.map_cons, List.map_nil, String.intercalate_singleton,
      String.length_append, length_withLead, length_getD, hargs, hk, surroundings, List.map_append, List.sum_append]
    omega
  · cases hall : surroundings parameters repeats style window withinGroup with
    | nil => simp [Expr.extras, hall, hzero, phraseTexts_eq_nil]
    | cons text more =>
      have htext : text ≠ "" := hne (by simp [hall])
      simp [Expr.extras, hall, htext]

/-- A call that carries nothing is its name with its arguments. -/
theorem toSql_call {name : Ident} {parameters : Option ArgList} {args : ArgList} {style : CallStyle}
    {window withinGroup : Option Phrase}
    (h : (Expr.call [name] parameters args style window withinGroup).extras = [] ∨
      args.args = [] ∧ (Expr.call [name] parameters args style window withinGroup).extras = [""]) :
    (Expr.call [name] parameters args style window withinGroup).toSql =
      name.toSql ++ "(" ++ commaJoin (argTexts args.args) ++ ")" := by
  obtain ⟨repeats, args, clauses⟩ := args
  obtain ⟨braced, nulls⟩ := style
  have hparts : surroundings parameters repeats ⟨braced, nulls⟩ window withinGroup = [] ∧
      (clauses = [] ∨ args = [] ∧ phraseTexts clauses = [""]) := by
    have hne := @ne_empty_of_mem_surroundings parameters repeats ⟨braced, nulls⟩ window withinGroup
    cases hall : surroundings parameters repeats ⟨braced, nulls⟩ window withinGroup with
    | nil => simpa [Expr.extras, hall, phraseTexts_eq_nil] using h
    | cons text more =>
      have htext : text ≠ "" := hne (by simp [hall])
      simp [Expr.extras, hall, htext] at h
  obtain ⟨hnone, hclauses⟩ := hparts
  have hargs : ArgList.toSql ⟨none, args, clauses⟩ = "(" ++ commaJoin (argTexts args) ++ ")" := by
    rcases hclauses with rfl | ⟨rfl, hclauses⟩
    · cases args <;> simp [ArgList.toSql, phraseTexts, argTexts, commaJoin]
    · simp [ArgList.toSql, hclauses, argTexts, commaJoin]
  simp only [surroundings, List.append_eq_nil_iff, List.map_eq_nil_iff, Option.toList_eq_nil_iff] at hnone
  obtain ⟨⟨⟨⟨⟨hbraced, hparameters⟩, hrepeats⟩, hgroup⟩, hnulls⟩, hwindow⟩ := hnone
  obtain rfl : braced = false := by
    cases braced
    · rfl
    · cases hbraced
  obtain rfl : repeats = none := Option.map_eq_none_iff.1 hrepeats
  simp only [Expr.toSql_call, hparameters, hgroup, hnulls, hwindow, hargs]
  simp [wordIf, withLead, Name.toSql, String.append_assoc]

/-- **When a macro call carries nothing but its arguments**: it is written as its name, or as its name with its
arguments, if and only if it carries nothing else (but a clause that is written as nothing). Whatever it carries, its
macro is that of the call without it, and so is what the call is expanded to. -/
theorem written_plainly_iff (e : Expr) (i : Invocation) (h : callOf e = some (.ok i)) :
    ((e.toSql = i.name ∨ e.toSql = i.written) ↔ e.extras = [] ∨ i.args = [] ∧ e.extras = [""]) ∧
      callOf e.bare = some (.ok i) ∧ e.bare.extras = [] ∧
      ∀ dialect request, (expander dialect request).expr e = (expander dialect request).expr e.bare := by
  refine ⟨?_, (callOf_bare e).trans h, e.extras_bare, fun dialect request => ?_⟩
  · obtain ⟨name, entry, hcandidate, hquote, hentry, hi⟩ := callOf_eq_ok_iff.1 h
    have hname : name.toSql = i.name := by
      rw [hi, (resolve_eq_found hentry).2.1]
      simp [Ident.toSql, hquote]
    cases e with
    | ident name' =>
      simp only [candidate?, Option.some.injEq, Prod.mk.injEq] at hcandidate
      obtain ⟨rfl, -⟩ := hcandidate
      refine iff_of_true (.inl ?_) (.inl rfl)
      simpa using hname
    | bareCall names =>
      rcases names with _ | ⟨name', _ | ⟨name'', names⟩⟩
      · cases hcandidate
      · simp only [candidate?, Option.some.injEq, Prod.mk.injEq] at hcandidate
        obtain ⟨rfl, -⟩ := hcandidate
        refine iff_of_true (.inl ?_) (.inl rfl)
        simpa [Name.toSql] using hname
      · cases hcandidate
    | queryCall names query => rcases names with _ | ⟨name', _ | ⟨name'', names⟩⟩ <;> cases hcandidate
    | call names parameters args style window withinGroup =>
      rcases names with _ | ⟨name', _ | ⟨name'', names⟩⟩
      · cases hcandidate
      · simp only [candidate?, macroArgs, Option.some.injEq, Prod.mk.injEq] at hcandidate
        obtain ⟨rfl, hargs⟩ := hcandidate
        have htexts := argTexts_of_plain hargs
        have hnil : args.args = [] ↔ i.args = [] := by
          rw [← argTexts_eq_nil, htexts, List.map_eq_nil_iff]
        obtain ⟨n, hlength, hzero⟩ := length_call name' parameters args style window withinGroup
        rw [htexts, hname] at hlength
        rw [← hnil]
        constructor
        · rintro (htext | htext)
          · rw [htext] at hlength
            omega
          · rw [htext] at hlength
            refine hzero.1 ?_
            have hopening : ("(" : String).length = 1 := rfl
            have hclosing : (")" : String).length = 1 := rfl
            simp only [Invocation.written, String.length_append] at hlength
            omega
        · intro hextras
          rw [toSql_call hextras, htexts, hname]
          exact .inr rfl
      · cases hcandidate
    | _ => cases hcandidate
  · simp only [Visitor.expr, h, callOf_bare]
    rfl

/-- The word `DISTINCT` in front of the argument is dropped. -/
theorem distinct_dropped :
    ∃ e i, callOf e = some (.ok i) ∧ e.toSql = "$__timeFilter(DISTINCT ts)" ∧ i.written = "$__timeFilter(ts)" ∧
      ¬ (e.toSql = i.name ∨ e.toSql = i.written) ∧ callOf e.bare = some (.ok i) ∧ e.bare.toSql = i.written ∧
      (expander .clickHouse ⟨⟨.epoch, .epoch, by decide⟩, [], .zero, .zero⟩).expr e =
        (expander .clickHouse ⟨⟨.epoch, .epoch, by decide⟩, [], .zero, .zero⟩).expr e.bare := by
  have hcall : callOf (.call [⟨"$__timeFilter", none, none⟩] none
      ⟨some .distinct, [.expr none (.ident ⟨"ts", none, none⟩)], []⟩ ⟨false, none⟩ none none) =
      some (.ok ⟨"$__timeFilter", .timeFilter (.range .seconds), [.ident ⟨"ts", none, none⟩], none⟩) := by rfl
  obtain ⟨hiff, hbare, -, hexpand⟩ := written_plainly_iff _ _ hcall
  refine ⟨_, _, hcall, by rfl, by rfl, ?_, hbare, by rfl, hexpand _ _⟩
  rw [hiff]
  simp [Expr.extras, surroundings, phraseTexts, optPhraseText, optArgListText]

end Macro

end SqlTemplate
