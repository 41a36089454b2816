import SqlTemplate.Proofs.FilterColumns
import SqlTemplate.Proofs.Fragments

/-!
# When macros can be written

The catalog says how many arguments a macro has, and the texts of macros pick their arguments by place. The two agree:
a call that is recognised has every argument that its text asks for, and each of its arguments stands in the text. What
can go wrong is a filter without a key, and nothing else.

* `filtersPredicate_eq_error`: which filters cannot be written.
* `StandIn`: texts that stand in a text, one behind the other.
* `render_eq_error_iff`: which macros cannot be written, and that the others hold their arguments.
-/

namespace SqlTemplate.Macro

open Sql Time SqlTemplate.Sql.Parser

variable {dialect : Dialect} {e : Expr} {i : Invocation} {request : Request} {error : RenderError}

/-! ## Filters -/

theorem quoteKey_empty (dialect : Dialect) : quoteKey dialect "" = .error .emptyFilterKey := rfl

/-- A filter cannot be written if and only if its key is empty. -/
theorem filterPredicate_eq_error {f : Filter} :
    filterPredicate dialect f = .error error ↔ error = .emptyFilterKey ∧ f.key = "" := by
  by_cases hkey : f.key = ""
  · rw [filterPredicate, hkey, quoteKey_empty]
    simp [bind, Except.bind, eq_comm]
  · obtain ⟨text, htext⟩ := exists_filterPredicate dialect hkey
    simp [htext, hkey]

/-- Filters cannot be written if and only if the key of one of them is empty. -/
theorem mapM_filterPredicate_eq_error {fs : List Filter} :
    fs.mapM (filterPredicate dialect) = .error error ↔ error = .emptyFilterKey ∧ ∃ f ∈ fs, f.key = "" := by
  induction fs with
  | nil => simp [pure, Except.pure]
  | cons f fs ih =>
    rw [List.mapM_cons]
    cases hf : filterPredicate dialect f with
    | error error' =>
      obtain ⟨rfl, hkey⟩ := filterPredicate_eq_error.1 hf
      simpa [bind, Except.bind, hkey] using eq_comm
    | ok text =>
      have hkey : f.key ≠ "" := by
        intro hkey
        rw [filterPredicate_eq_error.2 ⟨rfl, hkey⟩] at hf
        cases hf
      have hrest : (do
          let texts ← fs.mapM (filterPredicate dialect)
          pure (text :: texts)) = .error error ↔ fs.mapM (filterPredicate dialect) = .error error := by
        cases fs.mapM (filterPredicate dialect) <;> simp [bind, Except.bind, pure, Except.pure]
      simpa [bind, Except.bind, hkey] using hrest.trans ih

theorem filtersPredicate_eq_error (dialect : Dialect) (fs : List Filter) :
    filtersPredicate dialect fs = .error error ↔ error = .emptyFilterKey ∧ ∃ f ∈ fs, f.key = "" := by
  rw [← mapM_filterPredicate_eq_error]
  cases fs with
  | nil => simp [filtersPredicate, pure, Except.pure]
  | cons f fs =>
    simp only [filtersPredicate]
    cases List.mapM (filterPredicate dialect) (f :: fs) <;> simp [bind, Except.bind, pure, Except.pure]

/-! ## Texts in a text -/

/-- The texts stand in a text, one behind the other. -/
inductive StandIn : (parts : List String) → (text : String) → Prop
  | nil (text : String) : StandIn [] text
  | cons {part behind : String} {parts : List String} (before : String) (h : StandIn parts behind) :
    StandIn (part :: parts) (before ++ part ++ behind)

namespace StandIn

variable {parts more : List String} {text text' : String}

theorem self (text : String) : StandIn [text] text := by
  have hstand : StandIn [text] ("" ++ text ++ "") := cons "" (nil "")
  simpa using hstand

theorem behind (lead : String) (h : StandIn parts text) : StandIn parts (lead ++ text) := by
  cases h with
  | nil => exact nil _
  | cons before h => simpa [String.append_assoc] using cons (lead ++ before) h

theorem append (h : StandIn parts text) (h' : StandIn more text') : StandIn (parts ++ more) (text ++ text') := by
  induction h with
  | nil text => exact h'.behind text
  | cons before _ ih => simpa [String.append_assoc] using cons before ih

theorem before (rest : String) (h : StandIn parts text) : StandIn parts (text ++ rest) := by
  simpa using h.append (nil rest)

/-- An expression stands in its text beside a sign. -/
theorem operand (e : Expr) : StandIn [e.toSql] (operandText e) := by
  unfold operandText
  split
  · exact self _
  · exact ((self _).behind "(").before ")"

/-- A column stands in the text that says that it lies between bounds. -/
theorem between (e : Expr) (lower upper : String) : StandIn [e.toSql] (betweenText (operandText e) lower upper) :=
  ((((((operand e).before _).before _).before _).before _).before _).before _

theorem dateBin (count : Nat) (unit value : String) : StandIn [value] (dateBin count unit value) :=
  ((self value).behind _).before _

theorem bucket (precision : Precision) (interval : Duration) (column : String) :
    StandIn [column] (bucketText dialect precision interval column) := by
  unfold bucketText
  cases dialect <;> cases precision
  · exact ((((self column).behind _).before _).before _).before _
  · exact ((((self column).behind _).before _).before _).before _
  · exact dateBin ..
  · exact dateBin ..

theorem rounded {unit : Duration} {value text : String} (h : roundText? dialect unit value = some text) :
    StandIn [value] text := by
  obtain ⟨⟨count, unit⟩, -, rfl⟩ := Option.map_eq_some_iff.1 h
  cases dialect with
  | clickHouse => exact ((((((self value).behind _).before _).before _).before _).before _).before _
  | generic => exact dateBin ..

end StandIn

/-! ## Macros -/

/-- A call has as many arguments as its macro, and calls no placeholder. -/
theorem length_args_of_callOf (h : callOf e = some (.ok i)) :
    i.args.length = arity i.kind ∧ i.kind ≠ .ctePlaceholder := by
  obtain ⟨name, entry, -, -, hfound, hi⟩ := callOf_eq_ok_iff.1 h
  obtain ⟨hmem, -, hentry⟩ := resolve_eq_found hfound
  obtain ⟨harity, hplaceholder⟩ := arity_of_mem_catalog hmem
  rw [hi]
  exact ⟨hentry ▸ harity, hplaceholder⟩

/-- A text is written, and the arguments stand in it. -/
def HoldsArgs (i : Invocation) (result : Except RenderError String) : Prop :=
  ∃ text, result = .ok text ∧ StandIn (i.args.map Expr.toSql) text

theorem timeFilterText_holdsArgs (dialect : Dialect) {filter : TimeFilter}
    (hargs : i.args.length = arity (.timeFilter filter)) (range : Time.Range) : HoldsArgs i (timeFilterText dialect i range filter) := by
  cases filter with
  | range precision =>
    obtain ⟨column, hcolumn⟩ := List.length_eq_one_iff.1 hargs
    refine ⟨_, by rw [timeFilterText, Invocation.arg, hcolumn]; rfl, ?_⟩
    rw [hcolumn]
    exact ((StandIn.between column _ _).behind _).before _
  | date =>
    obtain ⟨column, hcolumn⟩ := List.length_eq_one_iff.1 hargs
    refine ⟨_, by rw [timeFilterText, Invocation.arg, hcolumn]; rfl, ?_⟩
    rw [hcolumn]
    exact ((StandIn.between column _ _).behind _).before _
  | dateTime =>
    obtain ⟨date, time, hcolumns⟩ := List.length_eq_two.1 hargs
    refine ⟨_, by rw [timeFilterText, Invocation.arg, Invocation.arg, hcolumns]; rfl, ?_⟩
    rw [hcolumns]
    exact ((((StandIn.between date _ _).behind _).before _).append (StandIn.between time _ _)).before _
  | start precision =>
    obtain hnone := List.length_eq_zero_iff.1 hargs
    exact ⟨_, rfl, by rw [hnone]; exact .nil _⟩
  | stop precision =>
    obtain hnone := List.length_eq_zero_iff.1 hargs
    exact ⟨_, rfl, by rw [hnone]; exact .nil _⟩

theorem intervalText_holdsArgs (dialect : Dialect) {interval : Interval}
    (hargs : i.args.length = arity (.interval interval)) (width : Duration) : HoldsArgs i (intervalText dialect i width interval) := by
  cases interval with
  | bucket precision =>
    obtain ⟨column, hcolumn⟩ := List.length_eq_one_iff.1 hargs
    refine ⟨_, by rw [intervalText, Invocation.arg, hcolumn]; rfl, ?_⟩
    rw [hcolumn]
    exact .bucket precision width _
  | seconds =>
    obtain hnone := List.length_eq_zero_iff.1 hargs
    exact ⟨_, rfl, by rw [hnone]; exact .nil _⟩
  | millis =>
    obtain hnone := List.length_eq_zero_iff.1 hargs
    exact ⟨_, rfl, by rw [hnone]; exact .nil _⟩

/-- Rounding is written around its argument, or is its argument. -/
theorem render_round (dialect : Dialect) (request : Request) (hkind : i.kind = .round) {value : Expr}
    (hargs : i.args = [value]) :
    render dialect i request = .ok (match roundText? dialect request.round value.toSql with
      | some text => .sql text
      | none => .expr value) := by
  rw [render, hkind]
  simp only [Invocation.arg, hargs]
  rfl

/-- A call that does not ask for the filters is written, and its arguments stand in the text. -/
theorem exists_render (dialect : Dialect) (request : Request) (h : callOf e = some (.ok i))
    (hfilter : i.kind ≠ .adHocFilter) :
    ∃ fragment, render dialect i request = .ok fragment ∧ StandIn (i.args.map Expr.toSql) fragment.text := by
  obtain ⟨hargs, hplaceholder⟩ := length_args_of_callOf h
  cases hkind : i.kind with
  | timeFilter filter =>
    rw [hkind] at hargs
    obtain ⟨text, htext, hstand⟩ := timeFilterText_holdsArgs dialect hargs request.range
    exact ⟨.sql text, by rw [render, hkind]; simp only [htext]; rfl, hstand⟩
  | interval interval =>
    rw [hkind] at hargs
    obtain ⟨text, htext, hstand⟩ := intervalText_holdsArgs dialect hargs request.interval
    exact ⟨.sql text, by rw [render, hkind]; simp only [htext]; rfl, hstand⟩
  | adHocFilter => exact absurd hkind hfilter
  | round =>
    rw [hkind] at hargs
    obtain ⟨value, hvalue⟩ := List.length_eq_one_iff.1 hargs
    refine ⟨_, render_round dialect request hkind hvalue, ?_⟩
    rw [hvalue]
    cases hround : roundText? dialect request.round value.toSql with
    | none => exact .self _
    | some text => exact .rounded hround
  | ctePlaceholder => exact absurd hkind hplaceholder

/-- The filters are written as they are in a list of their own. -/
theorem render_filters (dialect : Dialect) (request : Request) (hkind : i.kind = .adHocFilter) :
    render dialect i request = .sql <$> filtersPredicate dialect request.filters := by
  rw [render, hkind]

/-- **When macros can be written.** A call that is recognised cannot be written if and only if it asks for the filters
and one of these has an empty key, and that is the error: no argument is missing and no placeholder is expanded. In
every fragment that is written all arguments of the call stand, one behind the other. -/
theorem render_eq_error_iff (dialect : Dialect) (request : Request) (h : callOf e = some (.ok i)) :
    (∀ error, render dialect i request = .error error ↔
      error = .emptyFilterKey ∧ i.kind = .adHocFilter ∧ ∃ f ∈ request.filters, f.key = "") ∧
    ∀ fragment, render dialect i request = .ok fragment → StandIn (i.args.map Expr.toSql) fragment.text := by
  by_cases hkind : i.kind = .adHocFilter
  · have hargs : i.args = [] := by
      have hlength := (length_args_of_callOf h).1
      rw [hkind] at hlength
      exact List.length_eq_zero_iff.1 hlength
    refine ⟨fun error => ?_, fun fragment _ => by rw [hargs]; exact .nil _⟩
    rw [render_filters dialect request hkind]
    have herror : filtersPredicate dialect request.filters = .error error ↔ _ :=
      filtersPredicate_eq_error dialect request.filters
    cases hfilters : filtersPredicate dialect request.filters with
    | ok text =>
      rw [hfilters] at herror
      simpa [Functor.map, Except.map, hkind] using herror
    | error error' =>
      rw [hfilters] at herror
      simpa [Functor.map, Except.map, hkind] using herror
  · obtain ⟨fragment, hrender, hstand⟩ := exists_render dialect request h hkind
    simp [hrender, hkind, hstand]

/-- A filter without a key spoils the filters, and a day and a time that are filtered do not ask for it. -/
theorem keyless_filter_refused :
    ∃ (request : Request) (filters moment : Invocation), (∃ f ∈ request.filters, f.key = "") ∧
      callOf (.ident ⟨"$__adHocFilter", none, none⟩) = some (.ok filters) ∧
      render .clickHouse filters request = .error .emptyFilterKey ∧
      callOf (functionExpr "$__dt" [.ident ⟨"d", none, none⟩, .ident ⟨"t", none, none⟩]) = some (.ok moment) ∧
      ∃ fragment, render .clickHouse moment request = .ok fragment ∧ StandIn ["d", "t"] fragment.text := by
  let request : Request := { instantRequest with filters := [⟨"", .equal, "x", none⟩] }
  have hkey : ∃ f ∈ request.filters, f.key = "" := ⟨_, List.mem_singleton_self _, rfl⟩
  have hfilters : callOf (.ident ⟨"$__adHocFilter", none, none⟩) =
      some (.ok ⟨"$__adHocFilter", .adHocFilter, [], none⟩) := rfl
  have hmoment : callOf (functionExpr "$__dt" [.ident ⟨"d", none, none⟩, .ident ⟨"t", none, none⟩]) =
      some (.ok ⟨"$__dt", .timeFilter .dateTime, [.ident ⟨"d", none, none⟩, .ident ⟨"t", none, none⟩], none⟩) := rfl
  have hrefused := ((render_eq_error_iff .clickHouse request hfilters).1 _).2 ⟨rfl, rfl, hkey⟩
  obtain ⟨fragment, hfragment, -⟩ := exists_render .clickHouse request hmoment nofun
  exact ⟨request, _, _, hkey, hfilters, hrefused, hmoment, fragment, hfragment,
    (render_eq_error_iff .clickHouse request hmoment).2 fragment hfragment⟩

end SqlTemplate.Macro
