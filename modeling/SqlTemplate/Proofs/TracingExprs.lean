import SqlTemplate.Proofs.TracingWords

/-!
# Where expressions and relations come from

The parsers of calls, of the forms that keywords start, of operands, of row patterns and of relations are faithful where
those of the grammar are.
-/

namespace SqlTemplate.Sql.Parser

set_option synthInstance.maxSize 1000000000
set_option synthInstance.maxHeartbeats 400000

/-! ## What is read on the way -/

instance : Traceable Item :=
  ⟨fun
    | _, .wildcard .. => True
    | source, .expr e => Traced source e⟩

instance : Traceable Operand := ⟨fun source o => Traced source o.expr⟩

instance : Traceable PivotValues :=
  ⟨fun
    | source, .list values => Traced source values
    | source, .any order => Traced source order
    | source, .query q => Traced source q⟩

instance : Traceable Quantifier := .trivially
instance : Nameless Quantifier := ⟨fun _ _ => ⟨trivial⟩⟩
instance : Traceable RowPattern := .trivially
instance : Nameless RowPattern := ⟨fun _ _ => ⟨trivial⟩⟩

section

variable {source : List Lexeme} {α : Type} [Traceable α] {g : Grammar} [hg : FaithfulGrammar source g]

instance {qualifier : Name} {star : Text.Span} : Traced source (Item.wildcard qualifier star) := ⟨trivial⟩

instance {e : Expr} [h : Traced source e] : Traced source (Item.expr e) := ⟨h⟩

instance {e : Expr} {collatable : Bool} [h : Traced source e] : Traced source (Operand.mk e collatable) := ⟨h⟩

instance {o : Operand} [h : Traced source o] : Traced source o.expr := h.out

instance {values : List (Expr × Option Ident)} [h : Traced source values] :
    Traced source (PivotValues.list values) := ⟨h⟩

instance {order : List OrderItem} [h : Traced source order] : Traced source (PivotValues.any order) := ⟨h⟩

instance {q : Query} [h : Traced source q] : Traced source (PivotValues.query q) := ⟨h⟩

/-! ## Calls -/

instance qualifiedStar_faithful {fuel : Nat} {parts : Name} [Traced source parts] :
    Faithful source (qualifiedStar fuel parts) := by
  induction fuel generalizing parts with
  | zero =>
    unfold qualifiedStar
    infer_instance
  | succ fuel ih =>
    unfold qualifiedStar
    refine .bind_of fun _ _ => .ite_of (.bind_of fun l _ => ?_) inferInstance
    split
    · infer_instance
    · have := Traced.of_eq_some source ‹_›
      infer_instance
    · infer_instance

instance item_faithful : Faithful source (item g) := by
  refine .bind_of fun input h => ?_
  split
  · have : Traced source (_ : List Lexeme) := ⟨suffix_of_cons h.out⟩
    infer_instance
  · rename_i l _ _ _
    have : Traced source l := ⟨mem_of_suffix_cons h.out⟩
    split
    · infer_instance
    · have := Traced.of_eq_some source ‹_›
      infer_instance
  · infer_instance

instance namedStyle_faithful {dialect : Dialect} : Faithful source (namedStyle dialect) := by
  dsimp only [namedStyle]
  infer_instance

instance arg_faithful : Faithful source (arg g) := by
  have hitem : ∀ r : Option (Ident × NamedStyle) × Item, Traced source r →
      Faithful source (match r.2 with
        | .wildcard qualifier _ => pure (.wildcard r.1 qualifier)
        | .expr value => pure (.expr r.1 value) : Parser Arg) := by
    rintro ⟨label, _ | e⟩ h
    · infer_instance
    · have : Traced source e := h.out.2.out
      infer_instance
  dsimp only [arg]
  refine .bind_of fun named hnamed => ?_
  cases named with
  | none => exact .bind_of fun i _ => .bind_of hitem
  | some result =>
    have : Traced source result := hnamed.out result rfl
    exact .bind_of hitem

instance repeats_faithful : Faithful source repeats := by
  dsimp only [repeats]
  infer_instance

instance fillClause_faithful : Faithful source (fillClause g) := by
  dsimp only [fillClause]
  infer_instance

instance orderItem_faithful : Faithful source (orderItem g) := by
  dsimp only [orderItem]
  infer_instance

instance optionalOrder_faithful : Faithful source (optionalOrder g) := by
  dsimp only [optionalOrder]
  infer_instance

instance nullTreatment_faithful : Faithful source nullTreatment := by
  dsimp only [nullTreatment]
  infer_instance

instance jsonNullClause_faithful : Faithful source jsonNullClause := by
  dsimp only [jsonNullClause]
  infer_instance

instance comesFiller_faithful : Faithful source comesFiller := by
  refine .bind_of fun l _ => ?_
  split <;> infer_instance

instance overflowClause_faithful : Faithful source (overflowClause g) := by
  dsimp only [overflowClause]
  infer_instance

instance exprClause_traced {lead kind : String} {e : Expr} [Traced source e] :
    Traced source (exprClause lead kind e) := by
  dsimp only [exprClause]
  infer_instance

instance orderClause_faithful : Faithful source (orderClause g) := by
  refine .bind_of fun items _ => ?_
  split <;> infer_instance

instance nullsClause_faithful : Faithful source nullsClause := by
  dsimp only [nullsClause]
  infer_instance

instance havingClause_faithful : Faithful source (havingClause g) := by
  dsimp only [havingClause]
  infer_instance

instance separatorClause_faithful : Faithful source separatorClause := by
  dsimp only [separatorClause]
  infer_instance

instance genericClause_faithful {p : Parser (List Phrase)} [Faithful source p] :
    Faithful source (genericClause g p) := by
  unfold genericClause
  split <;> infer_instance

instance argList_faithful : Faithful source (argList g) := by
  dsimp only [argList]
  infer_instance

instance weekField_faithful {dialect : Dialect} : Faithful source (weekField dialect) := by
  unfold weekField
  split <;> infer_instance

instance timeField_faithful {dialect : Dialect} : Faithful source (timeField dialect) := by
  refine .bind_of fun l _ => .ite_of inferInstance ?_
  split <;> infer_instance

instance intervalRest_faithful {dialect : Dialect} {leading : Option Wording} :
    Faithful source (intervalRest dialect leading) := by
  dsimp only [intervalRest]
  infer_instance

instance interval_faithful {operand : Parser Expr} [Faithful source operand] :
    Faithful source (interval g operand) := by
  dsimp only [interval]
  cases g.dialect <;> infer_instance

instance bound_faithful {operand : Parser Expr} [Faithful source operand] : Faithful source (bound g operand) := by
  dsimp only [bound]
  refine .bind_of fun _ _ => .ite_of inferInstance (.bind_of fun _ _ => .ite_of inferInstance (.bind_of fun l _ => ?_))
  split <;> infer_instance

instance frame_faithful {operand : Parser Expr} [Faithful source operand] : Faithful source (frame g operand) := by
  dsimp only [frame]
  refine .bind_of fun l _ => ?_
  split <;> infer_instance

instance windowSpec_faithful {operand : Parser Expr} [Faithful source operand] :
    Faithful source (windowSpec g operand) := by
  dsimp only [windowSpec]
  refine .bind_of fun l _ => ?_
  split <;> infer_instance

instance namedWindow_traced {window : Ident} [Traced source window] : Traced source (namedWindow window) := by
  dsimp only [namedWindow]
  infer_instance

instance optionalWindow_faithful {operand : Parser Expr} [Faithful source operand] :
    Faithful source (optionalWindow g operand) := by
  dsimp only [optionalWindow]
  infer_instance

instance optionalGroupOrder_faithful : Faithful source (optionalGroupOrder g) := by
  dsimp only [optionalGroupOrder]
  infer_instance

instance call_faithful {operand : Parser Expr} [Faithful source operand] {braced : Bool} {function : Name}
    [Called source function] : Faithful source (call g operand braced function) := by
  dsimp only [call]
  infer_instance

/-- A call with arguments. -/
def IsCall (e : Expr) : Prop := ∃ function parameters args style window within,
  e = .call function parameters args style window within

instance call_gives {operand : Parser Expr} {braced : Bool} {function : Name} :
    Gives IsCall (call g operand braced function) := by
  dsimp only [call]
  repeat' first | exact .pure ⟨_, _, _, _, _, _, rfl⟩ | refine .bind fun _ => ?_ | split

instance plainCall_traced {function : Name} [Traced source function] {args : ArgList} [Traced source args] :
    Traced source (plainCall function args) := by
  dsimp only [plainCall]
  infer_instance

/-! ## Forms -/

instance phraseExpr_traced {draft : Draft Slot} [Traced source draft] : Traced source (phraseExpr draft) := by
  dsimp only [phraseExpr]
  infer_instance

instance caseBranches_faithful {fuel : Nat} : Faithful source (caseBranches g fuel) := by
  induction fuel with
  | zero =>
    dsimp only [caseBranches]
    infer_instance
  | succ fuel ih =>
    dsimp only [caseBranches]
    infer_instance

instance caseExpr_faithful : Faithful source (caseExpr g) := by
  dsimp only [caseExpr]
  infer_instance

instance castFormat_faithful : Faithful source castFormat := by
  dsimp only [castFormat]
  infer_instance

instance castExpr_faithful {style : CastStyle} : Faithful source (castExpr g style) := by
  dsimp only [castExpr]
  infer_instance

instance convertExpr_faithful {tolerant : Bool} : Faithful source (convertExpr g tolerant) := by
  dsimp only [convertExpr]
  infer_instance

instance extractExpr_faithful : Faithful source (extractExpr g) := by
  dsimp only [extractExpr]
  cases g.dialect <;> infer_instance

instance roundExpr_faithful {word kind : String} : Faithful source (roundExpr g word kind) := by
  dsimp only [roundExpr]
  refine .bind_of fun _ _ => .bind_of fun _ _ => .bind_of fun _ _ => .ite_of inferInstance (.bind_of fun _ _ =>
    .ite_of (.bind_of fun v _ => ?_) inferInstance)
  split <;> infer_instance

instance positionExpr_faithful {operand : Parser Expr} [Faithful source operand] {first : Ident} [Traced source first] :
    Faithful source (positionExpr g operand first) := by
  dsimp only [positionExpr]
  infer_instance

instance substringExpr_faithful : Faithful source (substringExpr g) := by
  dsimp only [substringExpr]
  infer_instance

instance overlayExpr_faithful : Faithful source (overlayExpr g) := by
  dsimp only [overlayExpr]
  infer_instance

instance trimmed_traced {side : Option String} {text : Expr} {what : Option Expr} {characters : Option (List Expr)}
    [Traced source text] [Traced source what] [h : Traced source characters] :
    Traced source (trimmed side text what characters) := by
  unfold trimmed
  cases characters with
  | none => infer_instance
  | some es =>
    have : Traced source es := h.out es rfl
    infer_instance

instance trimExpr_faithful : Faithful source (trimExpr g) := by
  dsimp only [trimExpr]
  infer_instance

instance matchExpr_faithful : Faithful source matchExpr := by
  dsimp only [matchExpr]
  infer_instance

instance structMember_faithful {typed : Bool} : Faithful source (structMember g typed) := by
  dsimp only [structMember]
  infer_instance

instance structExpr_faithful {start : Option Lexeme} [Traced source start] : Faithful source (structExpr g start) := by
  dsimp only [structExpr]
  infer_instance

instance inBraces_faithful {p : Parser α} [Faithful source p] : Faithful source (inBraces p) := by
  dsimp only [inBraces]
  infer_instance

instance mapExpr_faithful : Faithful source (mapExpr g) := by
  dsimp only [mapExpr]
  infer_instance

instance dictionaryExpr_faithful : Faithful source (dictionaryExpr g) := by
  dsimp only [dictionaryExpr]
  infer_instance

instance braceExpr_faithful {operand : Parser Expr} [Faithful source operand] :
    Faithful source (braceExpr g operand) := by
  dsimp only [braceExpr]
  cases g.dialect <;> infer_instance

instance priorExpr_faithful : Faithful source (priorExpr g) := by
  dsimp only [priorExpr]
  infer_instance

instance existsExpr_faithful {negated : Bool} : Faithful source (existsExpr g negated) := by
  dsimp only [existsExpr]
  infer_instance

instance specialForm_traced {operand : Parser Expr} {word : String} {first : Ident} {start following : Option Lexeme}
    [Faithful source operand] [Traced source first] [Traced source start] :
    Traced source (specialForm g operand word first start following) := by
  unfold specialForm
  split
  all_goals first | infer_instance | (cases g.dialect <;> infer_instance)

/-! ## Operands -/

instance pointedNames_faithful {fuel : Nat} : Faithful source (pointedNames fuel) := by
  induction fuel with
  | zero =>
    unfold pointedNames
    infer_instance
  | succ fuel ih =>
    unfold pointedNames
    refine .bind_of fun _ _ => .ite_of (.bind_of fun l _ => ?_) inferInstance
    split
    · have := Traced.of_eq_some source ‹_›
      infer_instance
    · infer_instance
    · infer_instance

instance plainWord_faithful {operand : Parser Expr} [Faithful source operand] {first : Ident} [Traced source first] :
    Faithful source (plainWord g operand first) := by
  dsimp only [plainWord]
  infer_instance

instance wordExpr_faithful {operand : Parser Expr} {start : Lexeme} {first : Ident} [Faithful source operand]
    [Traced source start] [Traced source first] : Faithful source (wordExpr g operand start first) := by
  refine ⟨fun {input} h => ?_⟩
  have hplain := (inferInstance : Faithful source (plainWord g operand first)).run h
  unfold wordExpr
  dsimp only
  split
  · exact (inferInstance : Faithful source (do return ⟨← plainWord g operand first, true⟩ : Parser Operand)).run h
  · rename_i word form hform
    obtain ⟨_, -, hspecial⟩ := Option.bind_eq_some_iff.1 hform
    obtain ⟨_, hspecial, hpair⟩ := Option.map_eq_some_iff.1 hspecial
    cases hpair
    have hform := (Faithful.of_eq_some source hspecial).run h
    split
    · rename_i heq
      rw [heq] at hform
      have := hform.2
      exact ⟨hform.1, inferInstance⟩
    · trivial
    · rename_i heq
      rw [heq] at hform
      split
      · exact hform.error
      · split
        · rename_i heq
          rw [heq] at hplain
          have := hplain.2
          exact ⟨hplain.1, inferInstance⟩
        · trivial
        · exact hform.error

instance parenExpr_faithful : Faithful source (parenExpr g) := by
  refine .bind_of fun isQuery _ => ?_
  extract_lets behind
  have hbehind : ∀ e, Traced source e → Faithful source (behind e) := by
    intro e he
    refine .bind_of fun _ _ => .bind_of fun _ _ => .ite_of (.bind_of fun l _ => ?_) inferInstance
    have hlead : Leads "Expected identifier, found: ".toList :=
      ⟨"Expected identifier, foun".toList, 'd', ':', by decide, by decide, by decide⟩
    have : Unplaced source ("Expected identifier, found: " ++ foundText l) := found_unplaced hlead.shown
    split <;> infer_instance
  refine .ite_of (.bind_of fun q _ => .bind_of hbehind) (.bind_of fun es h => ?_)
  split
  · have := (List.forall_mem_cons.1 h.out).1
    exact .bind_of hbehind
  · exact .bind_of hbehind

instance typedLiteral_faithful {operand : Parser Expr} [Faithful source operand] :
    Faithful source (typedLiteral g operand) := by
  dsimp only [typedLiteral]
  infer_instance

instance plainOperand_faithful {operand : Parser Expr} [Faithful source operand] :
    Faithful source (plainOperand g operand) := by
  refine .bind_of fun input _ => .bind_of fun l hl => ?_
  split
  · infer_instance
  · rename_i lexeme
    have hlexeme : Traced source lexeme := hl.out _ rfl
    split
    · rename_i heq
      have := Traced.word source heq
      infer_instance
    all_goals infer_instance

instance collated_faithful {e : Expr} [Traced source e] : Faithful source (collated e) := by
  dsimp only [collated]
  infer_instance

instance operandAt_faithful {fuel : Nat} : Faithful source (operandAt g fuel) := by
  induction fuel with
  | zero =>
    dsimp only [operandAt]
    infer_instance
  | succ fuel ih =>
    dsimp only [operandAt]
    infer_instance

instance amongExpr_faithful {level : Nat} : Faithful source (amongExpr g level) := by
  dsimp only [amongExpr]
  infer_instance

instance isExpr_faithful {left : Expr} [Traced source left] : Faithful source (isExpr g left) := by
  dsimp only [isExpr]
  infer_instance

instance atZoneExpr_faithful {left : Expr} [Traced source left] {level : Nat} :
    Faithful source (atZoneExpr g left level) := by
  dsimp only [atZoneExpr]
  infer_instance

instance inExpr_faithful {left : Expr} [Traced source left] {negated : Bool} :
    Faithful source (inExpr g left negated) := by
  dsimp only [inExpr]
  infer_instance

instance betweenExpr_faithful {left : Expr} [Traced source left] {negated : Bool} :
    Faithful source (betweenExpr g left negated) := by
  dsimp only [betweenExpr]
  infer_instance

instance escapeClause_faithful : Faithful source (escapeClause g) := by
  dsimp only [escapeClause]
  infer_instance

instance likeExpr_faithful {kind : LikeKind} {left : Expr} [Traced source left] {negated : Bool} :
    Faithful source (likeExpr g kind left negated) := by
  dsimp only [likeExpr]
  infer_instance

instance testExpr_faithful {left : Expr} [Traced source left] : Faithful source (testExpr g left) := by
  dsimp only [testExpr]
  infer_instance

instance sliceExpr_traced {left : Expr} [Traced source left] {lower upper stride : Option Expr}
    [Traced source lower] [Traced source upper] [Traced source stride] :
    Traced source (sliceExpr left lower upper stride) := by
  dsimp only [sliceExpr]
  infer_instance

instance subscriptExpr_faithful {left : Expr} [Traced source left] : Faithful source (subscriptExpr g left) := by
  dsimp only [subscriptExpr]
  infer_instance

instance elementExpr_faithful {left : Expr} [Traced source left] : Faithful source (elementExpr g left) := by
  dsimp only [elementExpr]
  infer_instance

/-- An operator ends in a sign, a letter or a parenthesis. -/
theorem binaryOp_endsPlain (op : BinaryOp) : EndsPlain op.toSql.toList := by
  cases op with
  | named parts => exact ⟨_, ')', String.toList_append, by decide⟩
  | _ => exact .of_getLast ⟨_, rfl, by decide⟩

/-- A token that is no operator is shown as a token. -/
theorem debugText_unplaced {l : Lexeme} (h : l ∈ source) :
    Unplaced source ("No infix parser for token " ++ l.token.debugText) := ⟨fun hscanned => by
  have hlead : Leads "No infix parser for token ".toList :=
    ⟨"No infix parser for tok".toList, 'e', 'n', by decide, by decide, by decide⟩
  rw [String.toList_append]
  exact hlead.shown (hscanned l h).debugText_shown⟩

instance infixExpr_faithful {left : Expr} {level : Nat} [Traced source left] :
    Faithful source (infixExpr g left level) := by
  refine .bind_of fun input _ => .bind_of fun l hl => ?_
  split
  · infer_instance
  · rename_i lexeme
    have := debugText_unplaced (hl.out lexeme rfl).out
    refine .bind_of fun op _ => ?_
    split
    · rename_i op _
      have : Unplaced source
          ("Expected one of [=, >, <, =>, =<, !=] as comparison operator, found: " ++ op.toSql) := .of_endsPlain (by
        rw [String.toList_append]
        exact (binaryOp_endsPlain op).append _)
      infer_instance
    · split <;> infer_instance

instance infixLoop_faithful {level : Nat} {fuel : Nat} {left : Expr} [Traced source left] :
    Faithful source (infixLoop g level fuel left) := by
  induction fuel generalizing left with
  | zero =>
    dsimp only [infixLoop]
    infer_instance
  | succ fuel ih =>
    dsimp only [infixLoop]
    infer_instance

instance exprAbove_faithful {level : Nat} : Faithful source (exprAbove g level) := by
  dsimp only [exprAbove]
  infer_instance

/-! ## Row patterns -/

instance basePattern_faithful {inner : Parser RowPattern} [Faithful source inner] :
    Faithful source (basePattern inner) := by
  refine .bind_of fun l _ => ?_
  split <;> infer_instance

instance quantifierRange_faithful : Faithful source quantifierRange := by
  refine .bind_of fun l _ => ?_
  split
  · refine .bind_of fun upper _ => ?_
    split <;> infer_instance
  · refine .bind_of fun _ _ => .ite_of (.bind_of fun upper _ => ?_) inferInstance
    split <;> infer_instance
  · infer_instance

instance quantifier_faithful : Faithful source quantifier? := by
  refine .bind_of fun l _ => ?_
  split <;> infer_instance

instance quantified_faithful {fuel : Nat} {p : RowPattern} : Faithful source (quantified fuel p) := by
  induction fuel generalizing p with
  | zero =>
    dsimp only [quantified]
    infer_instance
  | succ fuel ih =>
    dsimp only [quantified]
    infer_instance

instance sequenceFrom_faithful {inner : Parser RowPattern} [Faithful source inner] {fuel : Nat} :
    Faithful source (sequenceFrom inner fuel) := by
  induction fuel with
  | zero =>
    dsimp only [sequenceFrom]
    infer_instance
  | succ fuel ih =>
    dsimp only [sequenceFrom]
    infer_instance

instance sequencePattern_faithful {inner : Parser RowPattern} [Faithful source inner] :
    Faithful source (sequencePattern inner) := by
  refine .bind_of fun _ _ => .bind_of fun patterns _ => ?_
  split <;> infer_instance

instance patternAt_faithful {fuel : Nat} : Faithful source (patternAt fuel) := by
  induction fuel with
  | zero =>
    unfold patternAt
    infer_instance
  | succ fuel ih =>
    unfold patternAt
    refine .bind_of fun _ _ => .bind_of fun _ _ => .ite_of (.bind_of fun second _ => ?_) inferInstance
    split <;> infer_instance

instance rowPattern_faithful : Faithful source rowPattern := by
  dsimp only [rowPattern]
  infer_instance

instance rowsPerMatch_faithful : Faithful source rowsPerMatch := by
  dsimp only [rowsPerMatch]
  infer_instance

instance matchSkip_faithful : Faithful source matchSkip := by
  dsimp only [matchSkip]
  infer_instance

instance measure_faithful : Faithful source (measure g) := by
  dsimp only [measure]
  infer_instance

instance symbolDefinition_faithful : Faithful source (symbolDefinition g) := by
  dsimp only [symbolDefinition]
  infer_instance

instance patternSearch_faithful {table : Relation} [Traced source table] : Faithful source (patternSearch g table) := by
  dsimp only [patternSearch]
  infer_instance

/-! ## Relations -/

instance tableArgs_faithful {fuel : Nat} : Faithful source (tableArgs g fuel) := by
  induction fuel with
  | zero =>
    dsimp only [tableArgs]
    infer_instance
  | succ fuel ih =>
    dsimp only [tableArgs]
    infer_instance

instance optionalTableArgs_faithful : Faithful source (optionalTableArgs g) := by
  dsimp only [optionalTableArgs]
  infer_instance

instance valueRows_faithful : Faithful source (valueRows g) := by
  dsimp only [valueRows]
  infer_instance

instance Query_ofBody_traced {body : Body} [Traced source body] : Traced source (Query.ofBody body) := by
  dsimp only [Query.ofBody]
  infer_instance

instance derivedTable_faithful {lateral : Bool} : Faithful source (derivedTable g lateral) := by
  dsimp only [derivedTable]
  infer_instance

instance withAlias_traced {label : TableAlias} {r : Relation} [hl : Traced source label] [h : Traced source r] :
    Traced source (Relation.withAlias label r) := by
  refine ⟨fun given hgiven => ?_, fun n hn => ?_⟩
  · have hlabel : Relation.label (Relation.withAlias label r) = some label := by cases r <;> rfl
    obtain rfl := Option.some.inj (hlabel.symm.trans hgiven)
    exact hl.out.1
  · have hmem : n ∈ label.nodes ∨ n ∈ r.nodes := by
      cases r <;> simp only [Relation.withAlias, Relation.nodes, optAliasNodes, List.mem_append] at hn ⊢ <;> grind
    rcases hmem with hmem | hmem
    · exact (inferInstance : NodesFrom source label.nodes).out n hmem
    · exact h.out.2 n hmem

/-- The alias of a relation is a word of some tokens or stands between quotes. -/
theorem alias_unplaced {given : TableAlias} (h : Traced source given.name) :
    Unplaced source ("duplicate alias " ++ given.toSql) := ⟨fun hscanned => by
  have hlead : Leads "duplicate alias ".toList := ⟨"duplicate ali".toList, 'a', 's', by decide, by decide, by decide⟩
  rw [String.toList_append]
  refine hlead.shown ?_
  obtain ⟨⟨name, quote, span⟩, columns⟩ := given
  have hname : Shown (Ident.toSql ⟨name, quote, span⟩).toList := by
    cases quote with
    | none =>
      obtain ⟨l, hl, htoken, -⟩ := h.out.1 rfl
      have hword := hscanned l hl
      rw [htoken] at hword
      exact .inl hword
    | some quote => exact .inr ⟨_, quote, String.toList_ofList, (h.out.2 hscanned quote rfl).closing⟩
  rw [TableAlias.toSql]
  generalize columnDefTexts columns = texts
  cases texts with
  | nil => rwa [String.append_empty]
  | cons t ts =>
    have hsplit : (Ident.toSql ⟨name, quote, span⟩ ++ (" (" ++ commaJoin (t :: ts) ++ ")")).toList =
        (Ident.toSql ⟨name, quote, span⟩ ++ (" (" ++ commaJoin (t :: ts))).toList ++ [')'] := by simp
    exact .inr ⟨_, ')', hsplit, by decide⟩⟩

instance closeRelation_faithful {inner : FromItem} [Traced source inner] : Faithful source (closeRelation g inner) := by
  dsimp only [closeRelation]
  refine .ite_of inferInstance ?_
  cases g.dialect with
  | clickHouse => infer_instance
  | generic =>
    refine .bind_of fun _ _ => .bind_of fun label hlabel => ?_
    cases label with
    | none => infer_instance
    | some outer =>
      have : Traced source outer := hlabel.out outer rfl
      have hinner : Traced source inner.relation := inferInstance
      dsimp only
      split
      · have := alias_unplaced (hinner.out.1 _ ‹_›)
        infer_instance
      · infer_instance

instance pivotValues_faithful : Faithful source (pivotValues g) := by
  dsimp only [pivotValues]
  infer_instance

instance PivotValues.draft_traced {values : PivotValues} [h : Traced source values] : Traced source values.draft := by
  unfold PivotValues.draft
  cases values with
  | list values =>
    have : Traced source values := h.out
    infer_instance
  | any order =>
    have : Traced source order := h.out
    infer_instance
  | query q =>
    have : Traced source q := h.out
    infer_instance

instance unpivot_faithful {table : Relation} [Traced source table] : Faithful source (unpivot g table) := by
  dsimp only [unpivot]
  infer_instance

/-! ## Pivots -/

/-- A sign that was taken came next. -/
theorem acceptSign_eq_true {text : String} {input rest : List Lexeme} (h : acceptSign text input = .ok (true, rest)) :
    ∃ l, input = l :: rest ∧ isSign text (some l) := by
  cases input with
  | nil => cases h
  | cons l tail =>
    rw [acceptSign_cons] at h
    split at h
    · cases h
      exact ⟨l, rfl, ‹_›⟩
    · cases h

/-- A sign that had to come did come. -/
theorem expectSign_eq_ok {text : String} {input rest : List Lexeme} {u : Unit}
    (h : expectSign text input = .ok (u, rest)) : ∃ l, input = l :: rest ∧ isSign text (some l) := by
  obtain ⟨taken, mid, htaken, h⟩ := bind_eq_ok h
  cases taken with
  | false => cases h
  | true =>
    cases h
    exact acceptSign_eq_true htaken

/-- A keyword that was taken came next. -/
theorem acceptOneOf_eq_some {words : List String} {input rest : List Lexeme} {word : String}
    (h : acceptOneOf words input = .ok (some word, rest)) : ∃ l, input = l :: rest ∧ isWord word (some l) := by
  obtain ⟨found, mid, hfound, h⟩ := bind_eq_ok h
  cases input with
  | nil =>
    cases hfound
    cases h
  | cons l tail =>
    cases hfound
    cases hword : l.token.keyword? with
    | none =>
      simp only [List.head?_cons, Option.bind_some, hword] at h
      cases h
    | some w =>
      simp only [List.head?_cons, Option.bind_some, hword] at h
      split at h
      · cases h
        exact ⟨l, rfl, by simp [isWord, hword]⟩
      · cases h

/-- A function of a pivot is traced where one stands. -/
theorem pivotFunction_sourced {input : List Lexeme} (h : input <:+ source) (hplace : PivotPlace source input) :
    Sourced source (pivotFunction g input) := by
  have hmissing : Faithful source (expectedNext "a function identifier" : Parser (Expr × Option Ident)) := inferInstance
  cases input with
  | nil => exact hmissing.run h
  | cons l rest =>
    have hrest := suffix_of_cons h
    obtain ⟨token, span⟩ := l
    cases token with
    | word text quote =>
      show Sourced source ((expectSign "(" >>= fun _ => do
        let e ← call g (operandAt g ((← remaining) + 1)) false [⟨text, none, none⟩]
        return (e, ← optionalClause "AS" ident) : Parser (Expr × Option Ident)) rest)
      refine .bind (expectSign_faithful.run hrest) fun _ behind hopening => ?_
      obtain ⟨opening, rfl, hsign⟩ := expectSign_eq_ok hopening
      have hfunction : PivotFunction source text := ⟨_, _, hplace, ⟨quote, rfl⟩, hsign⟩
      have : Called source [⟨text, none, none⟩] := ⟨List.forall_mem_singleton.2 (.inr ⟨rfl, hfunction⟩)⟩
      exact Faithful.run (suffix_of_cons hrest)
    | _ => exact hmissing.run hrest

/-- The functions behind the first one are traced, too. -/
theorem moreFunctions_sourced {function : Expr × Option Ident} (fuel : Nat) :
    ∀ {input behind : List Lexeme}, PivotPlace source input → pivotFunction g input = .ok (function, behind) →
      behind <:+ source → Sourced source (repeatWhile (acceptSign ",") (pivotFunction g) fuel behind) := by
  induction fuel generalizing function with
  | zero => exact fun _ _ hbehind => ⟨hbehind, inferInstance⟩
  | succ fuel ih =>
    intro input behind hplace hread hbehind
    refine .bind (acceptSign_faithful.run hbehind) fun comma mid hcomma => ?_
    cases comma with
    | false => exact ⟨((acceptSign_faithful.run hbehind).ok hcomma).1, inferInstance⟩
    | true =>
      obtain ⟨l, rfl, hsign⟩ := acceptSign_eq_true hcomma
      have hnext : PivotPlace source mid := .next hg.proper hplace hread hsign
      have hsourced := pivotFunction_sourced (g := g) (suffix_of_cons hbehind) hnext
      refine .bind hsourced fun next rest hnextRead => ?_
      obtain ⟨hrest, _⟩ := hsourced.ok hnextRead
      have hmore := ih hnext hnextRead hrest
      exact .bind_of hmore fun _ _ => inferInstance

/-- A pivot is traced behind its keyword. -/
theorem pivot_sourced {table : Relation} [Traced source table] {l : Lexeme} {input : List Lexeme}
    (h : l :: input <:+ source) (hl : isWord "PIVOT" (some l)) : Sourced source (pivot g table input) := by
  have hinput := suffix_of_cons h
  refine .bind (expectSign_faithful.run hinput) fun _ behind hopening => ?_
  obtain ⟨opening, rfl, hsign⟩ := expectSign_eq_ok hopening
  have hplace : PivotPlace source behind := .first h hl hsign
  have hfirst := pivotFunction_sourced (g := g) (suffix_of_cons hinput) hplace
  have hfunctions : Sourced source (commaSeparated (pivotFunction g) behind) := by
    refine .bind hfirst fun function rest hread => ?_
    obtain ⟨hrest, _⟩ := hfirst.ok hread
    have hmore := moreFunctions_sourced rest.length hplace hread hrest
    show Sourced source ((repeatWhile (acceptSign ",") (pivotFunction g) rest.length >>= fun more =>
      pure (function :: more)) rest)
    exact .bind_of hmore fun _ _ => inferInstance
  exact .bind_of hfunctions fun _ _ => inferInstance

instance pivots_faithful {fuel : Nat} {table : Relation} [h : Traced source table] :
    Faithful source (pivots g fuel table) := by
  induction fuel generalizing table with
  | zero =>
    dsimp only [pivots]
    infer_instance
  | succ fuel ih =>
    refine ⟨fun {input} hinput => ?_⟩
    have hwords := (acceptOneOf_faithful : Faithful source (acceptOneOf ["PIVOT", "UNPIVOT"])).run hinput
    refine .bind hwords fun found behind hfound => ?_
    have hbehind := (hwords.ok hfound).1
    cases found with
    | none => exact ⟨hbehind, h⟩
    | some word =>
      obtain ⟨l, rfl, hl⟩ := acceptOneOf_eq_some hfound
      dsimp only
      split
      · rename_i hword
        exact .bind_of (pivot_sourced hinput (hword ▸ hl)) fun _ _ => ih
      · exact Faithful.run hbehind

instance unnest_faithful : Faithful source (unnest g) := by
  dsimp only [unnest]
  infer_instance

instance jsonFallback_faithful : Faithful source jsonFallback := by
  dsimp only [jsonFallback]
  infer_instance

instance jsonFallbacks_faithful {fuel : Nat} {empty : Option Wording} {error : Option Wording} :
    Faithful source (jsonFallbacks fuel empty error) := by
  induction fuel generalizing empty error with
  | zero =>
    dsimp only [jsonFallbacks]
    infer_instance
  | succ fuel ih =>
    dsimp only [jsonFallbacks]
    infer_instance

instance jsonColumn_faithful {fuel : Nat} : Faithful source (jsonColumn g fuel) := by
  induction fuel with
  | zero =>
    dsimp only [jsonColumn]
    infer_instance
  | succ fuel ih =>
    dsimp only [jsonColumn]
    infer_instance

instance jsonTable_faithful : Faithful source (jsonTable g) := by
  dsimp only [jsonTable]
  infer_instance

instance openJsonColumn_faithful : Faithful source (openJsonColumn g) := by
  dsimp only [openJsonColumn]
  refine .bind_of fun _ _ => .bind_of fun _ _ => .bind_of fun l _ => ?_
  split <;> infer_instance

instance openJson_faithful : Faithful source (openJson g) := by
  dsimp only [openJson]
  infer_instance

instance lateralRelation_faithful : Faithful source (lateralRelation g) := by
  dsimp only [lateralRelation]
  infer_instance

instance tableHints_faithful : Faithful source (tableHints g) := by
  refine .bind_of fun input h => ?_
  split
  · rename_i rest
    have : Traced source rest := ⟨suffix_of_cons (suffix_of_cons h.out)⟩
    infer_instance
  · infer_instance

instance namedRelation_faithful : Faithful source (namedRelation g) := by
  dsimp only [namedRelation]
  cases g.dialect <;> infer_instance

instance comesWithParen_faithful {word : String} : Faithful source (comesWithParen word) := by
  refine .bind_of fun input _ => ?_
  split <;> infer_instance

instance acceptWithParen_faithful {word : String} : Faithful source (acceptWithParen word) := by
  have : Faithful source (modify (·.drop 2) : Parser PUnit) :=
    ⟨fun h => ⟨(List.drop_suffix 2 _).trans h, inferInstance⟩⟩
  unfold acceptWithParen
  infer_instance

instance plainRelation_faithful : Faithful source (plainRelation g) := by
  dsimp only [plainRelation]
  infer_instance

instance joinKind_faithful {natural : Bool} : Faithful source (joinKind natural) := by
  unfold joinKind
  extract_lets sided
  have hsided : ∀ side whole half without, EndsPlain side.toList →
      Faithful source (sided side whole half without) := by
    intro side whole half without hside
    have : Unplaced source ("expected OUTER, SEMI, ANTI or JOIN after " ++ side) := .of_endsPlain (by
      rw [String.toList_append]
      exact hside.append _)
    refine .bind_of fun _ _ => .bind_of fun word _ => ?_
    split <;> infer_instance
  refine .bind_of fun word _ => ?_
  split
  all_goals first | infer_instance | exact hsided _ _ _ _ (.of_getLast ⟨'T', by decide⟩)

instance unconditionalJoin_faithful : Faithful source unconditionalJoin := by
  dsimp only [unconditionalJoin]
  infer_instance

instance joinConstraint_faithful {natural : Bool} : Faithful source (joinConstraint g natural) := by
  dsimp only [joinConstraint]
  infer_instance

instance join_faithful {relation : Parser Relation} [Faithful source relation] : Faithful source (join g relation) := by
  dsimp only [join]
  infer_instance

instance joins_faithful {relation : Parser Relation} [Faithful source relation] {fuel : Nat} :
    Faithful source (joins g relation fuel) := by
  induction fuel with
  | zero =>
    dsimp only [joins]
    infer_instance
  | succ fuel ih =>
    dsimp only [joins]
    infer_instance

instance relationAt_faithful {fuel : Nat} : Faithful source (relationAt g fuel) := by
  induction fuel with
  | zero =>
    dsimp only [relationAt]
    infer_instance
  | succ fuel ih =>
    dsimp only [relationAt]
    infer_instance

instance fromItem_faithful : Faithful source (fromItem g) := by
  dsimp only [fromItem]
  infer_instance

end

end SqlTemplate.Sql.Parser
