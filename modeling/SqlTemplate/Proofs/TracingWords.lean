import SqlTemplate.Proofs.Tracing

/-!
# Where words, types and operators come from

The parsers that take tokens one by one are faithful, and so are the ones for what stands between the operands of
expressions: names, values, options, columns, types and operators.
-/

namespace SqlTemplate.Sql.Parser

set_option synthInstance.maxSize 1000000000
set_option synthInstance.maxHeartbeats 400000

section

variable {source : List Lexeme} {α : Type} [Traceable α]

/-! ## Taking tokens -/

theorem mem_of_suffix_cons {l : Lexeme} {rest : List Lexeme} (h : l :: rest <:+ source) : l ∈ source :=
  h.subset List.mem_cons_self

theorem suffix_of_cons {l : Lexeme} {rest : List Lexeme} (h : l :: rest <:+ source) : rest <:+ source :=
  (List.suffix_cons l rest).trans h

instance get_faithful : Faithful source (get : Parser (List Lexeme)) := ⟨fun h => ⟨h, ⟨h⟩⟩⟩

instance set_faithful {rest : List Lexeme} [h : Traced source rest] : Faithful source (set rest : Parser PUnit) :=
  ⟨fun _ => ⟨h.out, inferInstance⟩⟩

instance throw_faithful {message : String} [h : Unplaced source message] :
    Faithful source (throw (.rejected message none) : Parser α) := ⟨fun _ => ⟨nofun, h⟩⟩

instance tooDeep_faithful : Faithful source (throw .tooDeep : Parser α) := ⟨fun _ => trivial⟩

instance peek_faithful : Faithful source peek := ⟨fun {input} h => by
  refine ⟨h, ⟨fun l hl => ⟨?_⟩⟩⟩
  cases input with
  | nil => cases hl
  | cons => cases hl; exact mem_of_suffix_cons h⟩

instance next_faithful : Faithful source next := ⟨fun {input} h => by
  cases input with
  | nil => exact ⟨h, inferInstance⟩
  | cons l rest =>
    have : Traced source l := ⟨mem_of_suffix_cons h⟩
    exact ⟨suffix_of_cons h, (inferInstance : Traced source (some l))⟩⟩

instance reject_faithful {message : String} {found : Option Lexeme} [hm : Unplaced source message]
    [hf : Traced source found] : Faithful source (reject message found : Parser α) := ⟨fun _ => by
  refine ⟨fun place hplace => ?_, hm⟩
  obtain ⟨l, hl, rfl⟩ := Option.map_eq_some_iff.1 hplace
  exact ⟨l, (hf.out l hl).out, rfl⟩⟩

theorem found_unplaced {lead : String} {found : Option Lexeme} [hf : Traced source found]
    (h : ∀ {text}, Shown text → ¬ EndsInPosition (lead.toList ++ text)) : Unplaced source (lead ++ foundText found) :=
  .of_found h fun l hl => (hf.out l hl).out

instance expected_faithful {what : String} {found : Option Lexeme} [Traced source found] :
    Faithful source (expected what found : Parser α) := by
  have hlead : Leads ("Expected: " ++ what ++ ", found: ").toList := by
    rw [String.toList_append]
    exact .append _ ⟨", foun".toList, 'd', ':', by decide, by decide, by decide⟩
  have : Unplaced source ("Expected: " ++ what ++ ", found: " ++ foundText found) := found_unplaced hlead.shown
  unfold expected
  infer_instance

instance expectedNext_faithful {what : String} : Faithful source (expectedNext what : Parser α) := by
  unfold expectedNext
  infer_instance

instance attempt_faithful {p : Parser α} [hp : Faithful source p] : Faithful source (attempt p) := ⟨fun {input} h => by
  have hp := hp.run h
  unfold attempt
  split
  · rename_i a rest heq
    rw [heq] at hp
    have := hp.2
    exact ⟨hp.1, (inferInstance : Traced source (some a))⟩
  · exact ⟨h, inferInstance⟩
  · rename_i e _ heq
    rw [heq] at hp
    exact hp.error⟩

instance peekWord_faithful : Faithful source peekWord := by
  unfold peekWord
  infer_instance

instance takeIf_faithful {test : Option Lexeme → Bool} : Faithful source (takeIf test) := by
  unfold takeIf
  infer_instance

instance acceptSign_faithful {text : String} : Faithful source (acceptSign text) := by
  unfold acceptSign
  infer_instance

instance expectSign_faithful {text : String} : Faithful source (expectSign text) := by
  unfold expectSign
  infer_instance

instance acceptWord_faithful {word : String} : Faithful source (acceptWord word) := by
  unfold acceptWord
  infer_instance

instance acceptWordIf_faithful {allowed : Bool} {word : String} : Faithful source (acceptWordIf allowed word) := by
  unfold acceptWordIf
  infer_instance

instance {rest : List Lexeme} {n : Nat} [h : Traced source rest] : Traced source (rest.drop n) :=
  ⟨(List.drop_suffix n rest).trans h.out⟩

instance {rest : List Lexeme} [h : Traced source rest] : Traced source rest.head? := ⟨fun l hl => by
  cases rest with
  | nil => cases hl
  | cons => cases hl; exact ⟨mem_of_suffix_cons h.out⟩⟩

instance acceptWords_faithful {words : List String} : Faithful source (acceptWords words) := by
  unfold acceptWords
  infer_instance

instance acceptOneOf_faithful {words : List String} : Faithful source (acceptOneOf words) := by
  unfold acceptOneOf
  infer_instance

/-! ## Names and values -/

instance acceptWordsIf_faithful {allowed : Bool} {words : List String} :
    Faithful source (acceptWordsIf allowed words) := by
  dsimp only [acceptWordsIf]
  infer_instance

instance acceptFirst_faithful [Nameless α] {choices : List (List String × α)} :
    Faithful source (acceptFirst choices) := by
  induction choices with
  | nil =>
    unfold acceptFirst
    infer_instance
  | cons choice rest ih =>
    obtain ⟨keywords, kind⟩ := choice
    unfold acceptFirst
    infer_instance

instance expectWord_faithful {word : String} : Faithful source (expectWord word) := by
  dsimp only [expectWord]
  infer_instance

instance expectWords_faithful {words : List String} : Faithful source (expectWords words) := by
  induction words with
  | nil =>
    unfold expectWords
    infer_instance
  | cons word rest ih =>
    unfold expectWords
    infer_instance

instance expectOneOf_faithful {words : List String} : Faithful source (expectOneOf words) := by
  dsimp only [expectOneOf]
  infer_instance

instance comesOneOf_faithful {words : List String} : Faithful source (comesOneOf words) := by
  dsimp only [comesOneOf]
  infer_instance

theorem faithful_repeatWhile {test : Parser Bool} {p : Parser α} {fuel : Nat} (htest : Faithful source test)
    (hp : Faithful source p) : Faithful source (repeatWhile test p fuel) := by
  induction fuel with
  | zero =>
    dsimp only [repeatWhile]
    infer_instance
  | succ fuel ih =>
    dsimp only [repeatWhile]
    infer_instance

instance repeatWhile_faithful {test : Parser Bool} [htest : Faithful source test] {p : Parser α} [hp :
    Faithful source p]
    {fuel : Nat} : Faithful source (repeatWhile test p fuel) := faithful_repeatWhile htest hp

instance direction_faithful : Faithful source direction := by
  dsimp only [direction]
  infer_instance

instance optionalClause_faithful {word : String} {p : Parser α} [Faithful source p] :
    Faithful source (optionalClause word p) := by
  dsimp only [optionalClause]
  infer_instance

instance remaining_faithful : Faithful source remaining := by
  dsimp only [remaining]
  infer_instance

instance commaSeparated_faithful {p : Parser α} [Faithful source p] : Faithful source (commaSeparated p) := by
  dsimp only [commaSeparated]
  infer_instance

instance commaSeparatedUntil_faithful {closing : String} {p : Parser α} [Faithful source p] :
    Faithful source (commaSeparatedUntil closing p) := by
  dsimp only [commaSeparatedUntil]
  infer_instance

instance inParens_faithful {p : Parser α} [Faithful source p] : Faithful source (inParens p) := by
  dsimp only [inParens]
  infer_instance

theorem Traced.word (source : List Lexeme) {l : Lexeme} {text : String} {quote : Option Char}
    (h : l.token = .word text quote) [hl : Traced source l] : Traced source (⟨text, quote, some l.span⟩ : Ident) := by
  refine ⟨fun hquote => ⟨l, hl.out, h.trans (congrArg (Token.word text) hquote), rfl⟩, fun hscanned mark hmark => ?_⟩
  have hword := hscanned l hl.out
  obtain rfl : quote = some mark := hmark
  rw [h] at hword
  exact hword

instance {l : Option Lexeme} [h : Traced source l] : Traced source (identOf? l) := ⟨fun i hi => by
  unfold identOf? at hi
  split at hi
  · rename_i text quote span
    cases hi
    have hl : Traced source (⟨.word text quote, span⟩ : Lexeme) := h.out _ rfl
    exact Traced.word source (l := ⟨.word text quote, span⟩) rfl
  · cases hi
    exact ⟨⟨nofun, fun _ quote hquote => Option.some.inj hquote ▸ .inl rfl⟩⟩
  · cases hi⟩

instance ident_faithful : Faithful source ident := by
  refine .bind_of fun l _ => ?_
  split
  · have := Traced.of_eq_some source ‹_›
    infer_instance
  · infer_instance

instance name_faithful : Faithful source name := by
  dsimp only [name]
  infer_instance

instance columnList_faithful : Faithful source columnList := by
  dsimp only [columnList]
  infer_instance

instance optionalColumnList_faithful : Faithful source optionalColumnList := by
  dsimp only [optionalColumnList]
  infer_instance

instance optionalAlias_faithful {reserved : List String} : Faithful source (optionalAlias reserved) := by
  refine .bind_of fun _ _ => .bind_of fun l _ => ?_
  split
  · have := Traced.of_eq_some source ‹_›
    infer_instance
  · have := Traced.of_eq_some source ‹_›
    infer_instance
  · infer_instance

instance value_faithful : Faithful source value := by
  refine .bind_of fun l _ => ?_
  split
  · infer_instance
  · split
    · split <;> infer_instance
    · infer_instance
    · infer_instance
    · infer_instance
    · infer_instance
    · infer_instance
    · refine .ite_of (.bind_of fun after _ => ?_) inferInstance
      split <;> infer_instance
    · infer_instance

instance settingList_faithful : Faithful source settingList := by
  dsimp only [settingList]
  infer_instance

instance settings_faithful : Faithful source settings := by
  dsimp only [settings]
  infer_instance

instance numberOf_faithful {width : Width} {text : String} {found : Option Lexeme} [Traced source found] :
    Faithful source (numberOf width text found) := by
  unfold numberOf
  split
  · infer_instance
  · rename_i fault _
    have hfault : EndsPlain fault.message.toList := by
      cases fault <;> exact .of_getLast ⟨_, rfl, by decide⟩
    have : Unplaced source ("Could not parse '" ++ text ++ "' as " ++ width.name ++ ": " ++ fault.message) :=
      .of_endsPlain (by
        rw [String.toList_append]
        exact hfault.append _)
    infer_instance

instance wholeNumber_faithful : Faithful source wholeNumber := by
  refine .bind_of fun l _ => ?_
  split <;> infer_instance

instance quotedText_faithful {what : String} : Faithful source (quotedText what) := by
  refine .bind_of fun l _ => ?_
  split <;> infer_instance

instance literalText_faithful {dialect : Dialect} : Faithful source (literalText dialect) := by
  refine .bind_of fun l _ => ?_
  split
  · infer_instance
  · infer_instance
  · cases dialect <;> infer_instance
  · infer_instance
  · infer_instance

end

/-! ## Grammars -/

/-- A grammar of a dialect whose parsers are faithful. -/
class FaithfulGrammar (source : List Lexeme) (g : Grammar) : Prop where
  proper : g.Proper
  expr : ∀ level, Faithful source (g.expr level)
  relating : Faithful source g.relating
  query : Faithful source g.query
  statement : Faithful source g.statement

section

variable {source : List Lexeme} {α : Type} [Traceable α] {g : Grammar} [hg : FaithfulGrammar source g]

instance {level : Nat} : Faithful source (g.expr level) := hg.expr level

instance : Faithful source g.relating := hg.relating

instance : Faithful source g.query := hg.query

instance : Faithful source g.statement := hg.statement

instance {p : {p : Parser α // Traced source p}} : Faithful source p.val := p.2.out

instance : Traceable Checking := .trivially
instance : Nameless Checking := ⟨fun _ _ => ⟨trivial⟩⟩

/-! ## Storage options -/

instance partitionOption_faithful : Faithful source (partitionOption g) := by
  dsimp only [partitionOption]
  infer_instance

instance indexColumn_faithful : Faithful source indexColumn := by
  dsimp only [indexColumn]
  infer_instance

instance clusteredOption_faithful : Faithful source clusteredOption := by
  dsimp only [clusteredOption]
  infer_instance

instance keyedOption_faithful : Faithful source (keyedOption g) := by
  dsimp only [keyedOption]
  infer_instance

instance storageOption_faithful : Faithful source (storageOption g) := by
  refine .bind_of fun word _ => ?_
  split <;> infer_instance

instance optionsBehind_faithful {word : String} : Faithful source (optionsBehind g word) := by
  dsimp only [optionsBehind]
  infer_instance

/-! ## Columns -/

instance signedNumber_faithful : Faithful source signedNumber := by
  dsimp only [signedNumber]
  infer_instance

instance checkingFrom_faithful {fuel : Nat} {found : Checking} : Faithful source (checkingFrom fuel found) := by
  induction fuel generalizing found with
  | zero =>
    dsimp only [checkingFrom]
    infer_instance
  | succ fuel ih =>
    dsimp only [checkingFrom]
    infer_instance

instance checking_faithful : Faithful source checking := by
  dsimp only [checking]
  infer_instance

instance keyOption_faithful {primary : Bool} : Faithful source (keyOption primary) := by
  dsimp only [keyOption]
  infer_instance

instance referenceAction_faithful : Faithful source referenceAction := by
  dsimp only [referenceAction]
  infer_instance

instance referenceActionsFrom_faithful {fuel : Nat} {onDelete : Option Wording} {onUpdate : Option Wording} :
    Faithful source (referenceActionsFrom fuel onDelete onUpdate) := by
  induction fuel generalizing onDelete onUpdate with
  | zero =>
    dsimp only [referenceActionsFrom]
    infer_instance
  | succ fuel ih =>
    dsimp only [referenceActionsFrom]
    infer_instance

instance referenceOption_faithful : Faithful source referenceOption := by
  dsimp only [referenceOption]
  infer_instance

instance sequenceNumber_faithful {word second kind : String} : Faithful source (sequenceNumber word second kind) := by
  dsimp only [sequenceNumber]
  infer_instance

instance sequenceBound_faithful {word kind : String} : Faithful source (sequenceBound word kind) := by
  dsimp only [sequenceBound]
  infer_instance

instance sequenceOptions_faithful : Faithful source sequenceOptions := by
  dsimp only [sequenceOptions]
  infer_instance

instance identityColumn_faithful {lead kind : String} : Faithful source (identityColumn lead kind) := by
  dsimp only [identityColumn]
  infer_instance

instance computedColumn_faithful {marked : Bool} : Faithful source (computedColumn g marked) := by
  dsimp only [computedColumn]
  infer_instance

instance generatedOption_faithful : Faithful source (generatedOption g) := by
  dsimp only [generatedOption]
  infer_instance

instance identityOption_faithful : Faithful source identityOption := by
  dsimp only [identityOption]
  infer_instance

instance exprOption_faithful {lead kind : String} : Faithful source (exprOption g lead kind) := by
  dsimp only [exprOption]
  infer_instance

instance keywordOption_faithful {words : List String} : Faithful source (keywordOption? g words) := by
  induction words with
  | nil =>
    unfold keywordOption?
    infer_instance
  | cons word rest ih =>
    unfold keywordOption?
    infer_instance

instance laterColumnOption_faithful : Faithful source (laterColumnOption g) := by
  dsimp only [laterColumnOption]
  infer_instance

instance columnOption_faithful : Faithful source (columnOption g) := by
  dsimp only [columnOption]
  infer_instance

instance namedOption_traced {constraint : Option Ident} [Traced source constraint] {option : Draft Slot}
    [Traced source option] : Traced source (namedOption constraint option) := by
  dsimp only [namedOption]
  infer_instance

instance columnOptions_faithful {fuel : Nat} {collation : Option Name} [hcollation : Traced source collation] :
    Faithful source (columnOptions g fuel collation) := by
  induction fuel generalizing collation with
  | zero =>
    dsimp only [columnOptions]
    infer_instance
  | succ fuel ih =>
    dsimp only [columnOptions]
    infer_instance

instance columnDefinition_faithful {type : Parser DataType} [Faithful source type] :
    Faithful source (columnDefinition g type) := by
  dsimp only [columnDefinition]
  infer_instance

/-! ## Data types -/

instance optionalSize_faithful : Faithful source optionalSize := by
  dsimp only [optionalSize]
  infer_instance

instance sizedType_faithful {word kind : String} : Faithful source (sizedType word kind) := by
  dsimp only [sizedType]
  infer_instance

instance characterLength_faithful : Faithful source characterLength := by
  dsimp only [characterLength]
  infer_instance

instance lengthType_faithful {word kind : String} : Faithful source (lengthType word kind) := by
  dsimp only [lengthType]
  infer_instance

instance characterType_faithful {word kind : String} : Faithful source (characterType word kind) := by
  dsimp only [characterType]
  infer_instance

instance integerType_faithful {word kind : String} : Faithful source (integerType word kind) := by
  dsimp only [integerType]
  infer_instance

instance decimalType_faithful {word kind : String} : Faithful source (decimalType word kind) := by
  dsimp only [decimalType]
  infer_instance

instance clockType_faithful {word kind : String} : Faithful source (clockType word kind) := by
  dsimp only [clockType]
  infer_instance

instance typeModifiers_faithful {fuel : Nat} : Faithful source (typeModifiers fuel) := by
  induction fuel with
  | zero =>
    unfold typeModifiers
    infer_instance
  | succ fuel ih =>
    unfold typeModifiers
    refine .bind_of fun l _ => ?_
    split <;> infer_instance

instance customType_faithful : Faithful source customType := by
  dsimp only [customType]
  infer_instance

/-- A type whose parser took the closing bracket of the type around it, too, ends in a bracket. -/
def Bracketed (type : BracketedType) : Prop := type.2 = true → EndsPlain type.1.toSql.toList

instance closedType_faithful {p : Parser BracketedType} [Faithful source p] [Gives Bracketed p] :
    Faithful source (closedType p) := by
  refine .bind_gives (P := Bracketed) ?_
  rintro ⟨type, closed⟩ htype hbracketed
  have : Traced source type := htype.out.1
  cases closed with
  | false => exact (inferInstance : Faithful source (pure type))
  | true =>
    have hends : EndsPlain ("unmatched > after parsing data type " ++ type.toSql).toList := by
      rw [String.toList_append]
      exact (hbracketed rfl).append _
    refine .bind_of fun l _ => ?_
    have : Unplaced source ("unmatched > after parsing data type " ++ type.toSql ++ foundText l) :=
      found_unplaced hends.shown
    infer_instance

instance closeAngle_faithful {closed : Bool} : Faithful source (closeAngle closed) := by
  dsimp only [closeAngle]
  infer_instance

instance structField_faithful {inner : Parser BracketedType} [Faithful source inner] :
    Faithful source (structField inner) := by
  dsimp only [structField]
  refine .bind_of fun input _ => ?_
  split <;> infer_instance

instance structFields_faithful {start : Option Lexeme} [Traced source start] {inner : Parser BracketedType}
    [Faithful source inner] {fuel : Nat} : Faithful source (structFields start inner fuel) := by
  induction fuel with
  | zero =>
    dsimp only [structFields]
    infer_instance
  | succ fuel ih =>
    dsimp only [structFields]
    infer_instance

instance structType_faithful {start : Option Lexeme} [Traced source start] {inner : Parser BracketedType}
    [Faithful source inner] : Faithful source (structType start inner) := by
  dsimp only [structType]
  infer_instance

instance enumMember_faithful {dialect : Dialect} : Faithful source (enumMember dialect) := by
  dsimp only [enumMember]
  infer_instance

instance enumType_faithful {dialect : Dialect} {word : String} {bits : Option Nat} :
    Faithful source (enumType dialect word bits) := by
  dsimp only [enumType]
  infer_instance

instance setMembers_faithful {fuel : Nat} : Faithful source (setMembers fuel) := by
  induction fuel with
  | zero =>
    unfold setMembers
    infer_instance
  | succ fuel ih =>
    unfold setMembers
    refine .bind_of fun l _ => ?_
    split <;> infer_instance

instance unionField_faithful {inner : Parser DataType} [Faithful source inner] :
    Faithful source (unionField inner) := by
  dsimp only [unionField]
  infer_instance

instance wrappedType_traced {lead closing : String} {shape : Shape → Shape} {inner : DataType} [Traced source inner] :
    Traced source (wrappedType lead closing shape inner) := by
  dsimp only [wrappedType]
  infer_instance

instance builtType_traced {word kind : String} {inner : List (Draft Slot)} [Traced source inner] :
    Traced source (builtType word kind inner) := by
  dsimp only [builtType]
  infer_instance

instance compositeType_traced {start : Option Lexeme} {inner : Parser BracketedType} {word : String}
    [Traced source start] [Faithful source inner] [Gives Bracketed inner] : Traced source (compositeType g start inner word) := by
  dsimp only [compositeType]
  split
  · infer_instance
  · infer_instance
  · infer_instance
  · infer_instance
  · cases g.dialect <;> infer_instance
  · cases g.dialect <;> infer_instance
  · cases g.dialect <;> infer_instance
  · infer_instance

/-! ### Types that end in a bracket -/

theorem phrase_endsPlain {lead : List Segment} {closing : String} (h : EndsPlain closing.toList) (shape : Shape)
    (parts : List Part) : EndsPlain (Phrase.toSql ⟨lead ++ words closing, shape, parts⟩).toList := by
  have hjoin : Phrase.toSql ⟨lead ++ words closing, shape, parts⟩ = segmentsText (partTexts parts) "" lead ++ closing := by
    simp [Phrase.toSql, segmentsText, words]
  rw [hjoin, String.toList_append]
  exact h.append _

theorem wrappedType_endsPlain {closing : String} (h : EndsPlain closing.toList) (lead : String) (shape : Shape → Shape)
    (inner : DataType) : EndsPlain (wrappedType lead closing shape inner).toSql.toList := phrase_endsPlain h _ _

theorem drafts_cons (d : Draft Slot) (ds : List (Draft Slot)) (parts : List Part) :
    ∃ slot slots, ((drafts (d :: ds)).run parts).1 = slot :: slots := by
  rw [drafts, List.mapM_cons]
  exact ⟨_, _, rfl⟩

theorem structFields_cons {start : Option Lexeme} {inner : Parser BracketedType} {fuel : Nat}
    {input rest : List Lexeme} {defs : List (Draft Slot)} {closed : Bool}
    (h : structFields start inner (fuel + 1) input = .ok ((defs, closed), rest)) : ∃ d ds, defs = d :: ds := by
  obtain ⟨⟨field, inside⟩, mid, -, h⟩ := bind_eq_ok h
  obtain ⟨comma, mid', -, h⟩ := bind_eq_ok h
  cases comma with
  | false =>
    cases h
    exact ⟨_, _, rfl⟩
  | true =>
    cases inside with
    | true => cases h
    | false =>
      obtain ⟨more, behind, -, h⟩ := bind_eq_ok h
      cases h
      exact ⟨_, _, rfl⟩

/-- A parser that took no bracket of the type around it. -/
theorem bracketed_closed (p : Parser DataType) : Gives Bracketed (p >>= fun type => pure (type, false)) :=
  .bind fun _ => .pure nofun

/-- The phrase of a structured type that has fields. -/
theorem structType_endsPlain {members : List (Draft Slot)} (hmembers : ∃ d ds, members = d :: ds) {type : DataType}
    (htype : type = Draft.phrase (do
      let members ← drafts members
      return ⟨words "STRUCT" ++ commasWithin "<" ">" members,
        .node "Struct" (.list [listShape members, .text "AngleBrackets"])⟩)) : EndsPlain type.toSql.toList := by
  obtain ⟨d, ds, rfl⟩ := hmembers
  obtain ⟨slot, slots, hslots⟩ := drafts_cons d ds []
  have hphrase : type = ⟨words "STRUCT" ++ commasWithin "<" ">" ((drafts (d :: ds)).run []).1,
      .node "Struct" (.list [listShape ((drafts (d :: ds)).run []).1, .text "AngleBrackets"]),
      ((drafts (d :: ds)).run []).2⟩ := htype
  rw [hphrase, hslots, commasWithin, ← List.append_assoc]
  · exact phrase_endsPlain ⟨[], '>', by decide, by decide⟩ _ _
  · nofun

theorem compositeType_bracketed {start : Option Lexeme} {inner p : Parser BracketedType} {word : String}
    (h : compositeType g start inner word = some p) : Gives Bracketed p := by
  unfold compositeType at h
  dsimp only at h
  split at h
  · cases h
    exact bracketed_closed _
  · cases h
    exact bracketed_closed _
  · cases h
    exact bracketed_closed _
  · cases h
    exact bracketed_closed _
  · cases hdialect : g.dialect with
    | clickHouse =>
      rw [hdialect] at h
      cases h
      exact bracketed_closed _
    | generic =>
      rw [hdialect] at h
      cases h
      exact .bind fun _ => .bind fun inner => .bind fun _ => .pure fun _ =>
        wrappedType_endsPlain ⟨[], '>', by decide, by decide⟩ "ARRAY<"
          (fun s => .node "Array" (.node "AngleBracket" s)) inner.1
  · cases hdialect : g.dialect with
    | clickHouse =>
      rw [hdialect] at h
      cases h
    | generic =>
      rw [hdialect] at h
      cases h
      refine ⟨fun h hclosed => ?_⟩
      obtain ⟨⟨members, closed⟩, mid, hstruct, h⟩ := bind_eq_ok h
      cases h
      obtain rfl : closed = true := hclosed
      obtain ⟨opened, mid', -, hstruct⟩ := bind_eq_ok hstruct
      cases opened with
      | false => cases hstruct
      | true =>
        obtain ⟨fuel, behind, -, hstruct⟩ := bind_eq_ok hstruct
        obtain ⟨⟨defs, inside⟩, behind', hfields, hstruct⟩ := bind_eq_ok hstruct
        obtain ⟨closed', _, -, hstruct⟩ := bind_eq_ok hstruct
        cases hstruct
        exact structType_endsPlain (structFields_cons hfields) rfl
  · cases hdialect : g.dialect with
    | clickHouse =>
      rw [hdialect] at h
      cases h
    | generic =>
      rw [hdialect] at h
      cases h
      exact bracketed_closed _
  · cases h

/-- Brackets behind a type that ends in one. -/
theorem listBrackets_endsPlain {dialect : Dialect} {fuel : Nat} {element type : DataType} {input rest : List Lexeme}
    (helement : EndsPlain element.toSql.toList) (h : listBrackets dialect fuel element input = .ok (type, rest)) :
    EndsPlain type.toSql.toList := by
  induction fuel generalizing element input with
  | zero =>
    cases h
    exact helement
  | succ fuel ih =>
    obtain ⟨opened, mid, -, h⟩ := bind_eq_ok h
    cases opened with
    | false =>
      cases h
      exact helement
    | true =>
      have hclosing (lead : String) : EndsPlain (lead ++ "]").toList := by
        rw [String.toList_append]
        exact .append _ ⟨[], ']', by decide, by decide⟩
      cases dialect
      all_goals
        obtain ⟨size, mid', -, h⟩ := bind_eq_ok h
        obtain ⟨_, behind, -, h⟩ := bind_eq_ok h
        exact ih (wrappedType_endsPlain (hclosing _) _ _ _) h

/-- Brackets stand behind a type. -/
theorem listed_bracketed {p : Parser BracketedType} (hp : Gives Bracketed p) (dialect : Dialect) :
    Gives Bracketed (p >>= fun (element, closed) => do
      return (← listBrackets dialect (← remaining) element, closed)) := ⟨fun h => by
  obtain ⟨⟨element, closed⟩, mid, hread, h⟩ := bind_eq_ok h
  obtain ⟨fuel, mid', -, h⟩ := bind_eq_ok h
  obtain ⟨type, behind, htype, h⟩ := bind_eq_ok h
  cases h
  exact fun hclosed => listBrackets_endsPlain (hp.out hread hclosed) htype⟩

instance dataTypeAt_bracketed {fuel : Nat} : Gives Bracketed (dataTypeAt g fuel) := by
  cases fuel with
  | zero => exact ⟨nofun⟩
  | succ fuel =>
    refine .bind fun l => ?_
    dsimp only
    split
    · split
      · exact .bind fun _ => listed_bracketed (compositeType_bracketed ‹_›) _
      · exact .bind fun _ => .bind fun w => listed_bracketed (bracketed_closed (pure w.phrase)) _
      · exact .bind fun w => listed_bracketed (bracketed_closed (pure w.phrase)) _
    · exact ⟨nofun⟩

/-- The tables of simple types hold nothing but parsers that are faithful. -/
instance simpleType_traced {dialect : Dialect} {word : String} : Traced source (simpleType dialect word) := by
  unfold simpleType
  split
  · infer_instance
  · dsimp only
    split
    · rename_i p hp
      obtain ⟨⟨table, read⟩, hmem, hread⟩ := List.exists_of_findSome?_eq_some hp
      obtain ⟨kind, -, rfl⟩ := Option.map_eq_some_iff.1 hread
      simp only [List.mem_cons, Prod.mk.injEq, List.not_mem_nil, or_false] at hmem
      rcases hmem with ⟨-, rfl⟩ | ⟨-, rfl⟩ | ⟨-, rfl⟩ | ⟨-, rfl⟩ | ⟨-, rfl⟩ | ⟨-, rfl⟩ | ⟨-, rfl⟩ <;> infer_instance
    · split <;> infer_instance

instance listBrackets_faithful {dialect : Dialect} {fuel : Nat} {element : DataType} [Traced source element] :
    Faithful source (listBrackets dialect fuel element) := by
  induction fuel generalizing element with
  | zero =>
    unfold listBrackets
    infer_instance
  | succ fuel ih =>
    dsimp only [listBrackets]
    cases dialect <;> infer_instance

instance dataTypeAt_faithful {fuel : Nat} : Faithful source (dataTypeAt g fuel) := by
  induction fuel with
  | zero =>
    unfold dataTypeAt
    infer_instance
  | succ fuel ih =>
    dsimp only [dataTypeAt]
    refine .bind_of fun l _ => ?_
    split
    · split
      · have := Faithful.of_eq_some source ‹_›
        infer_instance
      · have := Faithful.of_eq_some source ‹_›
        infer_instance
      · infer_instance
    · infer_instance

instance dataType_faithful : Faithful source (dataType g) := by
  dsimp only [dataType]
  infer_instance

instance columnDefs_faithful : Faithful source (columnDefs g) := by
  dsimp only [columnDefs]
  infer_instance

instance tableAlias_faithful : Faithful source (tableAlias g) := by
  dsimp only [tableAlias]
  infer_instance

/-! ## Operators -/

instance operatorName_faithful {fuel : Nat} : Faithful source (operatorName fuel) := by
  induction fuel with
  | zero =>
    dsimp only [operatorName]
    infer_instance
  | succ fuel ih =>
    dsimp only [operatorName]
    infer_instance

instance binaryOp_faithful {dialect : Dialect} {token : Token} : Faithful source (binaryOp? dialect token) := by
  unfold binaryOp?
  split
  · split <;> infer_instance
  · split <;> infer_instance

instance comesQuery_faithful : Faithful source comesQuery := by
  dsimp only [comesQuery]
  infer_instance

end

end SqlTemplate.Sql.Parser
