import SqlTemplate.Proofs.TracingExprs

/-!
# Where statements come from

The parsers of queries and of commands are faithful, and so are the grammars of a dialect at every depth. A text that is
read gives statements whose names are traced to its tokens.

* `grammars_faithful`: the grammars of a dialect are faithful.
* `traced_of_parseStatements`: the statements of a text are traced to its tokens.
-/

namespace SqlTemplate.Sql

namespace Parser

set_option synthInstance.maxSize 1000000000
set_option synthInstance.maxHeartbeats 400000

/-! ## What is read on the way -/

instance : Traceable Limits := ⟨fun source l => Traced source l.limit ∧ Traced source l.offset⟩
instance : Traceable Inspection := ⟨fun source i => Traced source i.partitions⟩
instance : Traceable DescriptionHead := ⟨fun source h => Traced source h.options⟩
instance : Traceable DocumentOptions := .trivially
instance : Nameless DocumentOptions := ⟨fun _ _ => ⟨trivial⟩⟩
instance : Traceable InsertHead := .trivially
instance : Nameless InsertHead := ⟨fun _ _ => ⟨trivial⟩⟩
instance : Traceable CreateHead := .trivially
instance : Nameless CreateHead := ⟨fun _ _ => ⟨trivial⟩⟩
instance : Traceable SettingTarget := .trivially
instance : Nameless SettingTarget := ⟨fun _ _ => ⟨trivial⟩⟩

section

variable {source : List Lexeme} {α : Type} [Traceable α] {g : Grammar} [hg : FaithfulGrammar source g]

instance {l o r} [h : Traced source l] [h' : Traced source o] : Traced source (Limits.mk l o r) := ⟨h, h'⟩

instance {l : Limits} [h : Traced source l] : Traced source l.limit := h.out.1

instance {l : Limits} [h : Traced source l] : Traced source l.offset := h.out.2

instance {p a b c d e} [h : Traced source p] : Traced source (Inspection.mk p a b c d e) := ⟨h⟩

instance {i : Inspection} [h : Traced source i] : Traced source i.partitions := h.out

instance {a b c d e} [h : Traced source e] : Traced source (DescriptionHead.mk a b c d e) := ⟨h⟩

instance {d : DescriptionHead} [h : Traced source d] : Traced source d.options := h.out

/-! ## Queries -/

instance acceptMark_faithful {word : String} : Faithful source (acceptMark word) := by
  refine .bind_of fun l _ => ?_
  split <;> infer_instance

instance exprsBehind_faithful {keywords : List String} : Faithful source (exprsBehind g keywords) := by
  dsimp only [exprsBehind]
  infer_instance

instance ilikeOption_faithful : Faithful source ilikeOption := by
  refine .bind_of fun _ _ => .ite_of (.bind_of fun l _ => ?_) inferInstance
  split <;> infer_instance

instance excludeOption_faithful : Faithful source excludeOption := by
  dsimp only [excludeOption]
  infer_instance

instance exceptOption_faithful : Faithful source exceptOption := by
  dsimp only [exceptOption]
  infer_instance

instance replaceOption_faithful : Faithful source (replaceOption g) := by
  dsimp only [replaceOption]
  infer_instance

instance renamedColumn_faithful : Faithful source renamedColumn := by
  dsimp only [renamedColumn]
  infer_instance

instance renameOption_faithful : Faithful source renameOption := by
  dsimp only [renameOption]
  infer_instance

instance wildcardOptions_faithful : Faithful source (wildcardOptions g) := by
  dsimp only [wildcardOptions]
  repeat' first | infer_instance | refine .bind_of fun _ _ => ?_ | refine .ite_of ?_ ?_ | split

/-- A word that says `from` in letters of either case ends in an `m` of either case. -/
theorem from_unplaced (source : List Lexeme) {text : String} (h : Text.lowerAscii text = "from") :
    Unplaced source ("Expected an expression, found: " ++ text) := by
  have hletters : text.toList.map Char.toLower = ['f', 'r', 'o'] ++ ['m'] := by
    simpa [Text.lowerAscii] using congrArg String.toList h
  obtain ⟨front, last, hsplit, -, hlast⟩ := List.map_eq_append_iff.1 hletters
  obtain ⟨m, rfl, hm⟩ : ∃ m, last = [m] ∧ m.toLower = 'm' := by
    obtain ⟨m, rest, rfl, hm, hrest⟩ := List.map_eq_cons_iff.1 hlast
    exact ⟨m, by rw [List.map_eq_nil_iff.1 hrest], hm⟩
  have hcase : m = 'm' ∨ m = 'M' := by
    unfold Char.toLower at hm
    split at hm
    · have hval : m.val + 32 = 'M'.val + 32 := congrArg Char.val hm
      exact .inr (Char.ext ((UInt32.add_left_inj 32).1 hval))
    · exact .inl hm
  have hclosing : Closing m := by
    obtain rfl | rfl := hcase <;> decide
  refine .of_endsPlain ?_
  rw [String.toList_append, hsplit, ← List.append_assoc]
  exact ⟨_, m, rfl, hclosing⟩

instance selectItem_faithful : Faithful source (selectItem g) := by
  refine .bind_of fun i h => ?_
  cases i with
  | wildcard qualifier star => infer_instance
  | expr e =>
    have : Traced source e := h.out
    dsimp only
    split
    · refine iteInduction (fun hfrom => ?_) fun _ => inferInstance
      have := from_unplaced source hfrom
      infer_instance
    · infer_instance

instance selectDistinct_faithful : Faithful source (selectDistinct g) := by
  refine .bind_of fun l _ => ?_
  split <;> infer_instance

instance topClause_faithful : Faithful source (topClause g) := by
  dsimp only [topClause]
  infer_instance

instance intoClause_faithful : Faithful source intoClause := by
  dsimp only [intoClause]
  infer_instance

instance lateralView_faithful : Faithful source (lateralView g) := by
  dsimp only [lateralView]
  infer_instance

instance groupModifiers_faithful : Faithful source groupModifiers := by
  refine .bind_of fun n _ => faithful_repeatWhile inferInstance (.bind_of fun word _ => ?_)
  split <;> infer_instance

instance groupingSet_faithful {lone : Bool} : Faithful source (groupingSet g lone) := by
  dsimp only [groupingSet]
  infer_instance

instance groupingSets_faithful {word kind : String} {lone : Bool} :
    Faithful source (groupingSets g word kind lone) := by
  dsimp only [groupingSets]
  infer_instance

instance groupExpr_faithful : Faithful source (groupExpr g) := by
  dsimp only [groupExpr]
  cases g.dialect with
  | clickHouse => infer_instance
  | generic =>
    refine .bind_of fun _ _ => .ite_of inferInstance (.bind_of fun _ _ => .ite_of inferInstance (.bind_of fun _ _ =>
      .ite_of inferInstance (.bind_of fun input h => ?_)))
    split
    · rename_i rest
      have : Traced source rest := ⟨suffix_of_cons (suffix_of_cons h.out)⟩
      infer_instance
    · infer_instance

instance groupBy_faithful : Faithful source (groupBy g) := by
  dsimp only [groupBy]
  infer_instance

instance windowDefinition_faithful : Faithful source (windowDefinition g) := by
  dsimp only [windowDefinition]
  cases g.dialect <;> infer_instance

instance connectBy_faithful : Faithful source (connectBy g) := by
  dsimp only [connectBy]
  infer_instance

instance windowClauses_faithful : Faithful source (windowClauses g) := by
  dsimp only [windowClauses]
  infer_instance

instance select_faithful {selectWord : Mark} : Faithful source (select g selectWord) := by
  dsimp only [select]
  cases g.dialect <;> infer_instance

instance tableBody_faithful : Faithful source tableBody := by
  refine .bind_of fun first _ => .bind_of fun second _ => .bind_of fun third _ => .ite_of ?_ ?_
  · split <;> infer_instance
  · split <;> infer_instance

instance plainBody_faithful : Faithful source (plainBody g) := by
  dsimp only [plainBody]
  infer_instance

instance setQuantifier_faithful : Faithful source setQuantifier := by
  dsimp only [setQuantifier]
  infer_instance

instance acceptSetOp_faithful {ops : List SetOp} : Faithful source (acceptSetOp ops) := by
  refine .bind_of fun l _ => ?_
  split <;> infer_instance

instance setOperations_faithful {ops : List SetOp} {operand : Parser Body} [Faithful source operand] {fuel : Nat}
    {left : Body} [Traced source left] : Faithful source (setOperations ops operand fuel left) := by
  induction fuel generalizing left with
  | zero =>
    dsimp only [setOperations]
    infer_instance
  | succ fuel ih =>
    dsimp only [setOperations]
    infer_instance

instance intersections_faithful : Faithful source (intersections g) := by
  dsimp only [intersections]
  infer_instance

instance body_faithful : Faithful source (body g) := by
  dsimp only [body]
  infer_instance

instance interpolateClause_faithful : Faithful source (interpolateClause g) := by
  dsimp only [interpolateClause]
  infer_instance

instance limitValue_faithful : Faithful source (limitValue g) := by
  dsimp only [limitValue]
  infer_instance

instance limitClause_faithful {l : Limits} [Traced source l] : Faithful source (limitClause g l) := by
  dsimp only [limitClause]
  infer_instance

instance offsetClause_faithful {l : Limits} [Traced source l] : Faithful source (offsetClause g l) := by
  dsimp only [offsetClause]
  infer_instance

instance limitComma_faithful {l : Limits} [Traced source l] : Faithful source (limitComma g l) := by
  dsimp only [limitComma]
  infer_instance

instance limits_faithful : Faithful source (limits g) := by
  dsimp only [limits]
  infer_instance

instance fetchClause_faithful : Faithful source fetchClause := by
  dsimp only [fetchClause]
  infer_instance

instance optionalText_faithful {dialect : Dialect} : Faithful source (optionalText dialect) := by
  dsimp only [optionalText]
  infer_instance

instance documentOptions_faithful {dialect : Dialect} {flags : List DocumentFlag} {fuel : Nat}
    {options : DocumentOptions} : Faithful source (documentOptions dialect flags fuel options) := by
  induction fuel generalizing options with
  | zero =>
    unfold documentOptions
    infer_instance
  | succ fuel ih =>
    unfold documentOptions
    refine .bind_of fun _ _ => .ite_of (.bind_of fun word _ => ?_) inferInstance
    split <;> infer_instance

instance xmlForm_faithful {dialect : Dialect} : Faithful source (xmlForm dialect) := by
  dsimp only [xmlForm]
  infer_instance

instance jsonForm_faithful {dialect : Dialect} : Faithful source (jsonForm dialect) := by
  dsimp only [jsonForm]
  infer_instance

instance lockClause_faithful : Faithful source lockClause := by
  dsimp only [lockClause]
  infer_instance

instance forClauses_faithful {dialect : Dialect} {fuel : Nat} : Faithful source (forClauses dialect fuel) := by
  induction fuel with
  | zero =>
    dsimp only [forClauses]
    infer_instance
  | succ fuel ih =>
    dsimp only [forClauses]
    infer_instance

instance closingParen_faithful : Faithful source closingParen := by
  refine .bind_of fun l _ => ?_
  split <;> infer_instance

instance cte_faithful : Faithful source (cte g) := by
  dsimp only [cte]
  infer_instance

instance withClause_faithful : Faithful source (withClause g) := by
  dsimp only [withClause]
  infer_instance

instance outputFormat_faithful : Faithful source outputFormat := by
  dsimp only [outputFormat]
  infer_instance

instance query_faithful {command : Parser (Option (String × Phrase))} [Faithful source command] :
    Faithful source (query g command) := by
  dsimp only [query]
  refine .bind_of fun _ _ => .bind_of fun read h => ?_
  rcases read with _ | ⟨kind, phrase⟩
  · infer_instance
  · have : Traced source phrase := (h.out _ rfl).out.2
    dsimp only [Query.ofBody]
    infer_instance

/-! ## Commands -/

instance conflictClause_faithful : Faithful source conflictClause := by
  dsimp only [conflictClause]
  infer_instance

instance assignment_faithful : Faithful source (assignment g) := by
  dsimp only [assignment]
  infer_instance

instance returningClause_faithful : Faithful source (returningClause g) := by
  dsimp only [returningClause]
  infer_instance

instance conflictAction_faithful : Faithful source (conflictAction g) := by
  dsimp only [conflictAction]
  infer_instance

instance onInsert_faithful : Faithful source (onInsert g) := by
  dsimp only [onInsert]
  infer_instance

instance fileFormat_faithful : Faithful source fileFormat := by
  dsimp only [fileFormat]
  infer_instance

instance directoryExport_faithful {overwrite isLocal : Bool} :
    Faithful source (directoryExport g overwrite isLocal) := by
  dsimp only [directoryExport]
  infer_instance

instance comesParenSelect_faithful : Faithful source comesParenSelect := by
  refine .bind_of fun l _ => ?_
  split <;> infer_instance

instance insertSource_faithful : Faithful source (insertSource g) := by
  dsimp only [insertSource]
  infer_instance

instance insertAlias_faithful : Faithful source (insertAlias g) := by
  dsimp only [insertAlias]
  cases g.dialect <;> infer_instance

instance tableInsertion_faithful {replacing : Bool} {head : InsertHead} :
    Faithful source (tableInsertion g replacing head) := by
  dsimp only [tableInsertion]
  refine .bind_of fun _ _ => .bind_of fun read h => ?_
  obtain ⟨columns, partitions, from_⟩ := read
  have : Traced source from_ := h.out.2.out.2
  cases partitions with
  | none => infer_instance
  | some es =>
    have : Traced source es := h.out.2.out.1.out es rfl
    infer_instance

instance insertion_faithful {replacing : Bool} : Faithful source (insertion g replacing) := by
  dsimp only [insertion]
  cases g.dialect <;> infer_instance

instance updating_faithful : Faithful source (updating g) := by
  dsimp only [updating]
  infer_instance

instance bodyCommand_faithful : Faithful source (bodyCommand g) := by
  dsimp only [bodyCommand]
  infer_instance

instance deletion_faithful : Faithful source (deletion g) := by
  dsimp only [deletion]
  cases g.dialect <;> infer_instance

instance viewColumn_faithful : Faithful source (viewColumn g) := by
  dsimp only [viewColumn]
  cases g.dialect <;> infer_instance

instance viewCreation_faithful {head : CreateHead} {materialized : Bool} :
    Faithful source (viewCreation g head materialized) := by
  dsimp only [viewCreation]
  infer_instance

instance creation_faithful : Faithful source (creation g) := by
  dsimp only [creation]
  infer_instance

instance grantedRight_faithful : Faithful source grantedRight := by
  refine .bind_of fun word _ => ?_
  split
  · infer_instance
  · split
    · refine .bind_of fun columns _ => ?_
      split <;> infer_instance
    · infer_instance
    · infer_instance

instance grantedRights_faithful : Faithful source grantedRights := by
  dsimp only [grantedRights]
  infer_instance

instance grantedObjects_faithful : Faithful source grantedObjects := by
  dsimp only [grantedObjects]
  refine .bind_of fun _ _ => .ite_of inferInstance (.bind_of fun _ _ => .ite_of inferInstance (.bind_of fun kind _ =>
    .bind_of fun _ _ => ?_))
  split <;> infer_instance

instance grantor_faithful : Faithful source grantor := ⟨fun {input} h => by
  have hident := (ident_faithful : Faithful source ident).run h
  unfold grantor
  split
  · rename_i heq
    rwa [heq] at hident
  · trivial
  · rename_i heq
    rw [heq] at hident
    exact hident⟩

instance optionalGrantor_faithful : Faithful source optionalGrantor := by
  dsimp only [optionalGrantor]
  infer_instance

instance granting_faithful : Faithful source granting := by
  dsimp only [granting]
  infer_instance

instance revoking_faithful : Faithful source revoking := by
  dsimp only [revoking]
  infer_instance

/-! ## Transactions -/

instance transactionMode_faithful : Faithful source transactionMode? := by
  dsimp only [transactionMode?]
  infer_instance

instance transactionModesFrom_faithful {fuel : Nat} {required : Bool} :
    Faithful source (transactionModesFrom fuel required) := by
  induction fuel generalizing required with
  | zero =>
    dsimp only [transactionModesFrom]
    infer_instance
  | succ fuel ih =>
    dsimp only [transactionModesFrom]
    infer_instance

instance transactionModes_faithful : Faithful source transactionModes := by
  dsimp only [transactionModes]
  infer_instance

instance transactionStart_faithful : Faithful source transactionStart := by
  dsimp only [transactionStart]
  infer_instance

instance transactionBegin_faithful : Faithful source (transactionBegin g) := by
  dsimp only [transactionBegin]
  cases g.dialect <;> infer_instance

instance transactionChain_faithful : Faithful source transactionChain := by
  dsimp only [transactionChain]
  infer_instance

instance commitment_faithful : Faithful source commitment := by
  dsimp only [commitment]
  infer_instance

instance rollback_faithful : Faithful source rollback := by
  dsimp only [rollback]
  infer_instance

instance savepoint_faithful : Faithful source savepoint := by
  dsimp only [savepoint]
  infer_instance

instance release_faithful : Faithful source release := by
  dsimp only [release]
  infer_instance

/-! ## Sessions -/

instance showFilter_faithful : Faithful source (showFilter g) := by
  dsimp only [showFilter]
  infer_instance

instance lacksParentName_faithful {parent : String} : Faithful source (lacksParentName parent) := by
  dsimp only [lacksParentName]
  infer_instance

instance showIn_faithful : Faithful source showIn := by
  dsimp only [showIn]
  infer_instance

instance showOptions_faithful : Faithful source (showOptions g) := by
  dsimp only [showOptions]
  infer_instance

instance showPhrase_traced {lead kind : String} {members : List (String × Shape)} {options : Draft Slot}
    [Traced source options] : Traced source (showPhrase lead kind members options) := by
  dsimp only [showPhrase]
  infer_instance

instance filterPhrase_traced {lead kind : String} {members : List (String × Shape)} {filter : Option (Draft Slot)}
    [Traced source filter] : Traced source (filterPhrase lead kind members filter) := by
  dsimp only [filterPhrase]
  infer_instance

theorem looseNames_suffix (input : List Lexeme) : (looseNames input).2 <:+ input := by
  induction input with
  | nil => exact List.suffix_refl _
  | cons l rest ih =>
    unfold looseNames
    split
    · exact ih.trans (List.suffix_cons l rest)
    · exact List.suffix_refl _
    · exact ih.trans (List.suffix_cons l rest)

instance variableShow_faithful : Faithful source variableShow := by
  refine .bind_of fun input h => ?_
  have : Traced source (looseNames input).2 := ⟨(looseNames_suffix input).trans h.out⟩
  dsimp only
  infer_instance

instance showing_faithful : Faithful source (showing g) := by
  dsimp only [showing]
  infer_instance

instance use_faithful : Faithful source using_ := by
  dsimp only [using_]
  infer_instance

instance killing_faithful : Faithful source killing := by
  dsimp only [killing]
  infer_instance

instance discarding_faithful : Faithful source discarding := by
  dsimp only [discarding]
  infer_instance

instance pragma_faithful : Faithful source pragma := by
  refine .bind_of fun setting _ => ?_
  extract_lets pragmaValue phrase
  have : Faithful source pragmaValue := by
    refine .bind_of fun l _ => .bind_of fun v _ => ?_
    split <;> infer_instance
  have (text : String) (value : Shape) (equals : Bool) : Traced source (phrase text value equals) :=
    inferInstanceAs (Traced source (Wording.phrase _))
  infer_instance

instance roleSetting_faithful {modifier : Option String} : Faithful source (roleSetting modifier) := by
  dsimp only [roleSetting]
  infer_instance

instance namesSetting_faithful : Faithful source (namesSetting g) := by
  dsimp only [namesSetting]
  infer_instance

instance settingValue_faithful {what : String} : Faithful source (settingValue g what) := by
  dsimp only [settingValue]
  infer_instance

instance transactionSetting_faithful {session : Bool} : Faithful source (transactionSetting session) := by
  dsimp only [transactionSetting]
  infer_instance

instance settingTarget_faithful : Faithful source (settingTarget g) := by
  dsimp only [settingTarget]
  infer_instance

instance assignedVariables_faithful {modifier : Option String} {target : SettingTarget} :
    Faithful source (assignedVariables g modifier target) := by
  dsimp only [assignedVariables]
  cases target <;> infer_instance

instance comesAssignment_faithful : Faithful source variableSetting.comesAssignment := by
  unfold variableSetting.comesAssignment
  infer_instance

instance variableSetting_faithful {modifier : Option String} : Faithful source (variableSetting g modifier) := by
  refine .bind_of fun target _ => ?_
  dsimp only
  refine .ite_of inferInstance (.bind_of fun _ _ => .ite_of inferInstance ?_)
  cases target <;> infer_instance

instance setting_faithful : Faithful source (setting g) := by
  dsimp only [setting]
  infer_instance

instance commenting_faithful : Faithful source (commenting g) := by
  dsimp only [commenting]
  infer_instance

/-! ## Maintenance -/

instance onCluster_faithful : Faithful source onCluster := by
  dsimp only [onCluster]
  infer_instance

instance partitionList_faithful : Faithful source (partitionList g) := by
  dsimp only [partitionList]
  infer_instance

instance optExprs_traced {es : Option (List Expr)} [h : Traced source es] : Traced source (optExprs es) := by
  unfold optExprs
  cases es with
  | none => infer_instance
  | some es =>
    have : Traced source es := h.out es rfl
    infer_instance

instance dropping_faithful : Faithful source (dropping g) := by
  dsimp only [dropping]
  infer_instance

instance truncation_faithful : Faithful source (truncation g) := by
  dsimp only [truncation]
  cases g.dialect <;> infer_instance

instance inspectionFrom_faithful {fuel : Nat} {found : Inspection} [Traced source found] :
    Faithful source (inspectionFrom g fuel found) := by
  induction fuel generalizing found with
  | zero =>
    unfold inspectionFrom
    infer_instance
  | succ fuel ih =>
    unfold inspectionFrom
    refine .bind_of fun word _ => ?_
    split <;> infer_instance

instance inspecting_faithful : Faithful source (inspecting g) := by
  dsimp only [inspecting]
  infer_instance

instance optimizing_faithful : Faithful source (optimizing g) := by
  dsimp only [optimizing]
  infer_instance

instance repairing_faithful : Faithful source repairing := by
  dsimp only [repairing]
  infer_instance

instance cachedQuery_faithful : Faithful source (cachedQuery g) := by
  refine .bind_of fun l _ => ?_
  split <;> infer_instance

instance caching_faithful : Faithful source (caching g) := by
  dsimp only [caching]
  infer_instance

instance uncaching_faithful : Faithful source uncaching := by
  dsimp only [uncaching]
  infer_instance

instance attaching_faithful : Faithful source (attaching g) := by
  dsimp only [attaching]
  infer_instance

instance detaching_faithful : Faithful source detaching := by
  dsimp only [detaching]
  infer_instance

instance extension_faithful {word kind : String} : Faithful source (extension word kind) := by
  dsimp only [extension]
  infer_instance

instance loading_faithful : Faithful source (loading g) := by
  dsimp only [loading]
  cases g.dialect <;> infer_instance

instance unloading_faithful : Faithful source (unloading g) := by
  dsimp only [unloading]
  infer_instance

/-! ## Routines -/

instance asserting_faithful : Faithful source (asserting g) := by
  dsimp only [asserting]
  infer_instance

instance deallocating_faithful : Faithful source deallocating := by
  dsimp only [deallocating]
  infer_instance

instance bareParameters_faithful : Faithful source (bareParameters g) := by
  dsimp only [bareParameters]
  infer_instance

instance executing_faithful : Faithful source (executing g) := by
  dsimp only [executing]
  infer_instance

instance closing_faithful : Faithful source closing := by
  dsimp only [closing]
  infer_instance

instance optionalChoice_faithful {yes no : List String} : Faithful source (optionalChoice yes no) := by
  dsimp only [optionalChoice]
  infer_instance

instance declaring_faithful : Faithful source (declaring g) := by
  dsimp only [declaring]
  infer_instance

instance numberValue_faithful : Faithful source numberValue := by
  refine .bind_of fun l _ => .bind_of fun v _ => ?_
  split <;> infer_instance

instance fetchDirection_faithful : Faithful source fetchDirection := by
  dsimp only [fetchDirection]
  refine .bind_of fun word _ => ?_
  split <;> infer_instance

instance fetching_faithful : Faithful source fetching := by
  dsimp only [fetching]
  infer_instance

instance draftArgs_traced {a : ArgList} [Traced source a] : Traced source (draftArgs a) := by
  dsimp only [draftArgs]
  infer_instance

instance procedureCall_traced {procedure : Name} {parameters args window within : Draft Slot} [Traced source parameters]
    [Traced source args] [Traced source window] [Traced source within] :
    Traced source (procedureCall procedure parameters args window within) := by
  unfold procedureCall
  infer_instance

instance calling_faithful : Faithful source (calling g) := by
  dsimp only [calling]
  refine .bind_of fun _ _ => .bind_of fun _ _ => .ite_of (.bind_of fun _ _ => .bind_gives (P := IsCall) ?_) inferInstance
  rintro _ h ⟨_, _, _, _, _, _, rfl⟩
  obtain ⟨_, _, _, _⟩ := Traced.of_call h
  infer_instance

/-! ## Statements -/

instance descriptionOption_faithful : Faithful source (descriptionOption g) := by
  dsimp only [descriptionOption]
  infer_instance

instance descriptionOptions_faithful : Faithful source (descriptionOptions g) := by
  dsimp only [descriptionOptions]
  infer_instance

instance descriptionFormat_faithful : Faithful source descriptionFormat := by
  dsimp only [descriptionFormat]
  infer_instance

instance tableFormat_faithful : Faithful source tableFormat := by
  dsimp only [tableFormat]
  infer_instance

instance descriptionHead_faithful {word : DescribeWord} : Faithful source (descriptionHead g word) := by
  dsimp only [descriptionHead]
  infer_instance

instance description_faithful {word : DescribeWord} : Faithful source (description g word) := by
  dsimp only [description]
  cases g.dialect <;> infer_instance

instance replacement_faithful : Faithful source (replacement g) := by
  dsimp only [replacement]
  cases g.dialect <;> infer_instance

instance commandOf_traced {word : String} : Traced source (commandOf g word) := by
  dsimp only [commandOf]
  split <;> infer_instance

instance statement_faithful : Faithful source (statement g) := by
  refine .bind_of fun input _ => .bind_of fun l _ => ?_
  split
  · infer_instance
  · infer_instance
  · infer_instance
  · infer_instance
  · infer_instance
  · infer_instance
  · split
    · have := Faithful.of_eq_some source ‹_›
      infer_instance
    · infer_instance
  · infer_instance

instance statements_faithful {p : Parser Statement} [Faithful source p] {fuel : Nat} {ended : Bool} :
    Faithful source (statements p fuel ended) := by
  induction fuel generalizing ended with
  | zero =>
    dsimp only [statements]
    infer_instance
  | succ fuel ih =>
    dsimp only [statements]
    infer_instance

end

end Parser

/-! ## Texts -/

open SqlTemplate.Sql.Parser in
theorem grammars_faithful (source : List Lexeme) (dialect : Dialect) (depth : Nat) :
    FaithfulGrammar source (grammars dialect depth).1 ∧ FaithfulGrammar source (grammars dialect depth).2 := by
  induction depth with
  | zero =>
    exact ⟨⟨⟨dialect, 0, .inl rfl⟩, fun _ => tooDeep_faithful, tooDeep_faithful, tooDeep_faithful, tooDeep_faithful⟩,
      ⟨dialect, 0, .inr rfl⟩, fun _ => tooDeep_faithful, tooDeep_faithful, tooDeep_faithful, tooDeep_faithful⟩
  | succ depth ih =>
    obtain ⟨_, _⟩ := ih
    exact ⟨⟨⟨dialect, depth + 1, .inl rfl⟩, fun _ => exprAbove_faithful, exprAbove_faithful, query_faithful,
      statement_faithful⟩, ⟨dialect, depth + 1, .inr rfl⟩, fun _ => exprAbove_faithful, exprAbove_faithful,
      query_faithful, statement_faithful⟩

/-- The statements of a text are traced to its tokens. -/
theorem traced_of_parseStatements {dialect : Dialect} {text : String} {statements : List Statement}
    (h : parseStatements dialect text = .ok statements) :
    ∃ tokens, lexemes dialect text = .ok tokens ∧ Traced tokens statements := by
  cases htokens : lexemes dialect text with
  | error e =>
    rw [parseStatements, tokensOf, htokens] at h
    cases h
  | ok tokens =>
    have : Parser.FaithfulGrammar tokens (grammar dialect maxDepth) := (grammars_faithful tokens dialect maxDepth).1
    have hread := (inferInstance : Faithful tokens (Parser.statements (grammar dialect maxDepth).statement
      (2 * tokens.length + 1) false)).run (List.suffix_refl tokens)
    rw [Parser.parseStatements_eq htokens] at h
    split at h
    · rename_i heq
      cases h
      exact ⟨tokens, rfl, (hread.ok heq).2⟩
    · cases h

end SqlTemplate.Sql
