import SqlTemplate.Macro.Predicate
import SqlTemplate.Proofs.Running
import SqlTemplate.Sql.Parser.Expr

/-!
# Words as operands

A word may start a typed literal or a special form before it counts as a plain name. In front of a comparison, of `IS`,
`IN`, `NOT`, of a comma or of a point, no word starts a typed literal (`typedLiteral_refused`), and the special forms
that need more than their keyword give way to the plain name, all but two (`operandAt_column`).
-/

namespace SqlTemplate.Sql.Parser

/-- What can follow a word of a column in a predicate: a comparison with a text, a test, a comma or a point. -/
inductive Follows : List Lexeme → Prop
  | eq (sp sp' : Text.Span) (raw : String) (rest : List Lexeme) :
      Follows (⟨.sign "=", sp⟩ :: ⟨.string .single raw, sp'⟩ :: rest)
  | notEq (sp sp' : Text.Span) (raw : String) (rest : List Lexeme) :
      Follows (⟨.sign "<>", sp⟩ :: ⟨.string .single raw, sp'⟩ :: rest)
  | lt (sp sp' : Text.Span) (raw : String) (rest : List Lexeme) :
      Follows (⟨.sign "<", sp⟩ :: ⟨.string .single raw, sp'⟩ :: rest)
  | ltEq (sp sp' : Text.Span) (raw : String) (rest : List Lexeme) :
      Follows (⟨.sign "<=", sp⟩ :: ⟨.string .single raw, sp'⟩ :: rest)
  | gt (sp sp' : Text.Span) (raw : String) (rest : List Lexeme) :
      Follows (⟨.sign ">", sp⟩ :: ⟨.string .single raw, sp'⟩ :: rest)
  | gtEq (sp sp' : Text.Span) (raw : String) (rest : List Lexeme) :
      Follows (⟨.sign ">=", sp⟩ :: ⟨.string .single raw, sp'⟩ :: rest)
  | is (sp : Text.Span) (rest : List Lexeme) : Follows (⟨.word "IS" none, sp⟩ :: rest)
  | inWord (sp : Text.Span) (rest : List Lexeme) : Follows (⟨.word "IN" none, sp⟩ :: rest)
  | not (sp : Text.Span) (rest : List Lexeme) : Follows (⟨.word "NOT" none, sp⟩ :: rest)
  | comma (sp : Text.Span) (rest : List Lexeme) : Follows (⟨.sign ",", sp⟩ :: rest)
  | point (sp : Text.Span) (rest : List Lexeme) : Follows (⟨.sign ".", sp⟩ :: rest)

variable {g : Grammar} {operand : Parser Expr} {ts : List Lexeme}

theorem Follows.notOpening (h : Follows ts) : isSign "(" ts.head? = false := by cases h <;> rfl

/-! ## Types -/

/-- A type that has been read does not make a typed literal of what follows. -/
structure Closed (p : Parser Wording) (ts : List Lexeme) : Prop where
  /-- It is refused, or takes nothing and is no interval. -/
  reads : Refused p ts ∨ ∃ w, p ts = .ok (w, ts) ∧ isIntervalType w.phrase = false

theorem Closed.of_ok {p : Parser Wording} {w : Wording} (h : p ts = .ok (w, ts))
    (hw : isIntervalType w.phrase = false) : Closed p ts := ⟨.inr ⟨w, h, hw⟩⟩

theorem Closed.of_refused {p : Parser Wording} (h : Refused p ts) : Closed p ts := ⟨.inl h⟩

/-- A type that starts with a parenthesis is refused where none follows. -/
theorem refused_of_opening {α : Type} {p : Unit → Parser α} (h : Follows ts) :
    Refused (expectSign "(" >>= p) ts := (expectSign_refused h.notOpening).bind p

theorem sizedType_closed (word kind : String) (h : Follows ts) : Closed (sizedType word kind) ts := by
  cases h <;> exact .of_ok rfl rfl

theorem lengthType_closed (word kind : String) (h : Follows ts) : Closed (lengthType word kind) ts := by
  cases h <;> exact .of_ok rfl rfl

theorem characterType_closed (word kind : String) (h : Follows ts) : Closed (characterType word kind) ts := by
  cases h <;> exact .of_ok rfl rfl

theorem integerType_closed (word kind : String) (h : Follows ts) : Closed (integerType word kind) ts := by
  cases h <;> exact .of_ok rfl rfl

theorem decimalType_closed (word kind : String) (h : Follows ts) : Closed (decimalType word kind) ts := by
  cases h <;> exact .of_ok rfl rfl

theorem clockType_closed (word kind : String) (h : Follows ts) : Closed (clockType word kind) ts := by
  cases h <;> exact .of_ok rfl rfl

theorem optionalSize_none (h : Follows ts) : optionalSize ts = .ok (none, ts) := by
  cases h <;> rfl

/-- The types without others inside them. -/
theorem simpleType_closed {dialect : Dialect} {word : String} (hi : word ≠ "INTERVAL") {p : Parser Wording}
    (hp : simpleType dialect word = some p) (h : Follows ts) : Closed p ts := by
  unfold simpleType at hp
  split at hp
  · rename_i spelling kind hl
    cases hp
    refine .of_ok rfl ?_
    -- the only plain type that introduces a value is `INTERVAL` itself
    have hm : ∀ entry ∈ plainTypes, entry.2.2 = "Interval" → entry.1 = "INTERVAL" := by decide
    obtain ⟨before, after, he, -⟩ := List.lookup_eq_some_iff.1 hl
    have hk : kind ≠ "Interval" := fun hk => hi (hm (word, spelling, kind) (by simp [he]) hk)
    unfold isIntervalType
    split
    · rename_i hs
      exact absurd (Shape.text.inj hs) hk
    · rfl
  · dsimp only at hp
    generalize hf : List.findSome? _ _ = found at hp
    cases found with
    | some q =>
      cases hp
      obtain ⟨⟨table, read⟩, hmem, hread⟩ := List.exists_of_findSome?_eq_some hf
      obtain ⟨kind, -, rfl⟩ := Option.map_eq_some_iff.1 hread
      simp only [List.mem_cons, Prod.mk.injEq, List.not_mem_nil, or_false] at hmem
      rcases hmem with ⟨-, rfl⟩ | ⟨-, rfl⟩ | ⟨-, rfl⟩ | ⟨-, rfl⟩ | ⟨-, rfl⟩ | ⟨-, rfl⟩ | ⟨-, rfl⟩
      · exact sizedType_closed word kind h
      · exact lengthType_closed word kind h
      · exact characterType_closed word kind h
      · exact integerType_closed word kind h
      · exact decimalType_closed word kind h
      · exact clockType_closed word kind h
      · exact .of_ok (run_bind_ok (optionalSize_none h) _) rfl
    | none =>
      dsimp only at hp
      split at hp
      · cases hp; cases h <;> exact .of_ok rfl rfl
      · cases hp; cases h <;> exact .of_ok rfl rfl
      · cases hp; exact .of_refused ((refused_of_opening h).bind _)
      · cases hp; exact .of_refused (refused_of_opening h)
      · cases hp; exact .of_refused ((refused_of_opening h).bind _)
      · cases hp; exact .of_refused ((refused_of_opening h).bind _)
      · cases hp; exact .of_refused ((refused_of_opening h).bind _)
      · cases hp; exact .of_refused (refused_of_opening h)
      · cases hp

/-- No member of a structure starts with a text literal. -/
theorem structType_string (start : Option Lexeme) {inner : Parser BracketedType}
    (hinner : ∀ raw sp rest, Refused inner (⟨.string .single raw, sp⟩ :: rest)) (sp sp' : Text.Span) (raw : String)
    (rest : List Lexeme) :
    Refused (structType start inner) (⟨.sign "<", sp⟩ :: ⟨.string .single raw, sp'⟩ :: rest) := by
  refine .bind_ok (a := true) (r := ⟨.string .single raw, sp'⟩ :: rest) rfl ?_
  refine .bind_ok (a := rest.length + 1) (r := ⟨.string .single raw, sp'⟩ :: rest) rfl ?_
  have hfield : Refused (structField inner) (⟨.string .single raw, sp'⟩ :: rest) :=
    .bind_ok (a := ⟨.string .single raw, sp'⟩ :: rest) rfl (.bind_ok (a := none) rfl ((hinner raw sp' rest).bind _))
  exact (hfield.bind _).bind _

/-- The types built from others: they are refused, or are a structure without members. -/
theorem compositeType_closed {start : Option Lexeme} {inner : Parser BracketedType} {word : String}
    (hinner : ∀ raw sp rest, Refused inner (⟨.string .single raw, sp⟩ :: rest)) {p : Parser BracketedType}
    (hp : compositeType g start inner word = some p) (h : Follows ts) :
    Refused p ts ∨ ∃ type, p ts = .ok ((type, false), ts) ∧ isIntervalType type = false := by
  unfold compositeType at hp
  dsimp only at hp
  split at hp
  · cases hp
    exact .inl (((refused_of_opening h).bind _).bind _)
  · cases hp
    exact .inl ((refused_of_opening h).bind _)
  · cases hp
    exact .inl (((refused_of_opening h).bind _).bind _)
  · cases hp
    exact .inl (((refused_of_opening h).bind _).bind _)
  · split at hp
    · cases hp
      exact .inl (((refused_of_opening h).bind _).bind _)
    · cases hp
      left
      cases h with
      | lt sp sp' raw rest => exact .bind_ok (a := ()) rfl ((hinner raw sp' rest).bind _)
      | _ => exact .bind (by exact expectSign_refused rfl) _
  · split at hp
    · cases hp
    · cases hp
      cases h with
      | lt sp sp' raw rest =>
        exact .inl ((structType_string start hinner sp sp' raw rest).bind _)
      | _ => exact .inr ⟨_, rfl, rfl⟩
  · split at hp
    · cases hp
    · cases hp
      exact .inl (((refused_of_opening h).bind _).bind _)
  · cases hp

/-- A keyword is no text literal. -/
theorem literalText_keyword {dialect : Dialect} {w : String} {sp : Text.Span} (hw : (Token.word w none).isKeyword = true)
    (rest : List Lexeme) : Refused (literalText dialect) (⟨.word w none, sp⟩ :: rest) := by
  refine .bind_ok (a := some ⟨.word w none, sp⟩) (r := rest) rfl ?_
  show Refused (if (Token.word w none).isKeyword then expected "literal string" _ else pure w) rest
  rw [if_pos hw]
  exact refused_expected _ _ _

theorem literalText_refused {dialect : Dialect} (h : Follows ts) : Refused (literalText dialect) ts := by
  cases h with
  | is sp rest => exact literalText_keyword (by decide +kernel) rest
  | inWord sp rest => exact literalText_keyword (by decide +kernel) rest
  | not sp rest => exact literalText_keyword (by decide +kernel) rest
  | _ => exact ⟨_, _, rfl⟩

theorem dataTypeAt_string (fuel : Nat) (raw : String) (sp : Text.Span) (rest : List Lexeme) :
    Refused (dataTypeAt g fuel) (⟨.string .single raw, sp⟩ :: rest) := by
  cases fuel <;> exact ⟨_, _, rfl⟩

/-- What can follow opens no list type. -/
theorem listBrackets_follows (dialect : Dialect) (element : DataType) (h : Follows ts) :
    listBrackets dialect ts.length element ts = .ok (element, ts) := by
  cases h <;> rfl

/-- The upper-case form of an unquoted word, the empty text for a quoted one. -/
def keywordOf (text : String) (quote : Option Char) : String := ((Token.word text quote).keyword?).getD ""

/-- The brackets behind a type that has been read. -/
def bracketed (dialect : Dialect) (p : Parser BracketedType) : Parser BracketedType := do
  let (element, closed) ← p
  return (← listBrackets dialect (← remaining) element, closed)

theorem bracketed_ok {dialect : Dialect} {p : Parser BracketedType} {type : DataType} {rest : List Lexeme}
    (hp : p ts = .ok ((type, false), rest)) (h : Follows rest) :
    bracketed dialect p ts = .ok ((type, false), rest) := by
  unfold bracketed
  rw [run_bind_ok hp]
  dsimp only
  rw [run_bind_ok (show remaining rest = .ok (rest.length, rest) from rfl),
    run_bind_ok (listBrackets_follows dialect type h)]
  rfl

/-- A type whose word comes next, by the kind of type that the word names. -/
theorem dataTypeAt_word (fuel : Nat) (text : String) (quote : Option Char) (sp : Text.Span) (ts : List Lexeme) :
    dataTypeAt g (fuel + 1) (⟨.word text quote, sp⟩ :: ts) =
      match compositeType g (some ⟨.word text quote, sp⟩) (dataTypeAt g fuel) (keywordOf text quote),
        simpleType g.dialect (keywordOf text quote) with
      | some p, _ => bracketed g.dialect p ts
      | none, some p => bracketed g.dialect (do return ((← p).phrase, false)) ts
      | none, none =>
        bracketed g.dialect (do return ((← customType).phrase, false)) (⟨.word text quote, sp⟩ :: ts) := by
  rw [dataTypeAt, run_bind_ok (show peek (⟨.word text quote, sp⟩ :: ts) = .ok (some ⟨.word text quote, sp⟩, _) from rfl)]
  unfold keywordOf
  dsimp only
  generalize compositeType g _ _ _ = composite
  generalize simpleType _ _ = simple
  cases composite with
  | some p => rfl
  | none =>
    cases simple with
    | some p =>
      simp only [bracketed, bind_assoc]
      rfl
    | none => simp only [bracketed, bind_assoc]

/-! ## Qualified names -/

/-- The names behind the points of a qualified name, as tokens: where each point stands, the name and its place. -/
def pointed (ps : List (Text.Span × String × Text.Span)) : List Lexeme :=
  ps.flatMap fun (at_, text, span) => [⟨.sign ".", at_⟩, ⟨.word text none, span⟩]

/-- The names behind the points of a qualified name. -/
def pointedIdents (ps : List (Text.Span × String × Text.Span)) : List Ident :=
  ps.map fun (_, text, span) => ⟨text, none, some span⟩

theorem pointed_cons (p : Text.Span × String × Text.Span) (ps : List (Text.Span × String × Text.Span))
    (ts : List Lexeme) :
    pointed (p :: ps) ++ ts = ⟨.sign ".", p.1⟩ :: ⟨.word p.2.1 none, p.2.2⟩ :: (pointed ps ++ ts) := by
  simp [pointed]

/-- What ends a name with its qualifiers. -/
structure Ends (ts : List Lexeme) : Prop where
  follows : Follows ts
  noPoint : isSign "." ts.head? = false

theorem Ends.pointed (h : Ends ts) (ps : List (Text.Span × String × Text.Span)) : Follows (pointed ps ++ ts) := by
  cases ps with
  | nil => simpa [Parser.pointed] using h.follows
  | cons p ps =>
    rw [pointed_cons]
    exact .point _ _

theorem acceptSign_point (h : Ends ts) : acceptSign "." ts = .ok (false, ts) := by
  obtain ⟨hf, hp⟩ := h
  cases hf with
  | point sp rest => simp [isSign] at hp
  | _ => rfl

theorem repeatWhile_pointed (h : Ends ts) : ∀ (ps : List (Text.Span × String × Text.Span)) (fuel : Nat),
    ps.length < fuel → repeatWhile (acceptSign ".") ident fuel (pointed ps ++ ts) = .ok (pointedIdents ps, ts)
  | _, 0, hl => by omega
  | [], fuel + 1, _ => by
    show repeatWhile (acceptSign ".") ident (fuel + 1) ts = _
    rw [repeatWhile, run_bind_ok (acceptSign_point h)]
    rfl
  | p :: ps, fuel + 1, hl => by
    rw [pointed_cons, repeatWhile]
    rw [run_bind_ok (a := true) (r := ⟨.word p.2.1 none, p.2.2⟩ :: (pointed ps ++ ts)) rfl]
    show (ident >>= _) _ = _
    rw [run_bind_ok (a := ⟨p.2.1, none, some p.2.2⟩) (r := pointed ps ++ ts) rfl,
      run_bind_ok (repeatWhile_pointed h ps fuel (by simp at hl; omega))]
    rfl

theorem pointedNames_pointed (h : Ends ts) : ∀ (ps : List (Text.Span × String × Text.Span)) (fuel : Nat),
    ps.length < fuel → pointedNames fuel (pointed ps ++ ts) = .ok (pointedIdents ps, ts)
  | _, 0, hl => by omega
  | [], fuel + 1, _ => by
    show pointedNames (fuel + 1) ts = _
    rw [pointedNames, run_bind_ok (acceptSign_point h)]
    rfl
  | p :: ps, fuel + 1, hl => by
    rw [pointed_cons, pointedNames]
    rw [run_bind_ok (a := true) (r := ⟨.word p.2.1 none, p.2.2⟩ :: (pointed ps ++ ts)) rfl]
    show (next >>= _) _ = _
    rw [run_bind_ok (a := some ⟨.word p.2.1 none, p.2.2⟩) (r := pointed ps ++ ts) rfl]
    show (pointedNames fuel >>= _) _ = _
    rw [run_bind_ok (pointedNames_pointed h ps fuel (by simp at hl; omega))]
    rfl

theorem length_pointed (ps : List (Text.Span × String × Text.Span)) (ts : List Lexeme) :
    (pointed ps ++ ts).length = 2 * ps.length + ts.length := by
  induction ps with
  | nil => simp [pointed]
  | cons p ps ih =>
    rw [pointed_cons, List.length_cons, List.length_cons, ih, List.length_cons]
    omega

theorem Follows.length_pos (h : Follows ts) : 0 < ts.length := by cases h <;> simp

/-- A name that no type has is a type of its own. -/
theorem customType_pointed (text : String) (quote : Option Char) (sp : Text.Span) (h : Ends ts)
    (ps : List (Text.Span × String × Text.Span)) :
    ∃ w, customType (⟨.word text quote, sp⟩ :: (pointed ps ++ ts)) = .ok (w, ts) ∧ isCustomType w.phrase = true ∧
      isIntervalType w.phrase = false := by
  have hname : name (⟨.word text quote, sp⟩ :: (pointed ps ++ ts)) =
      .ok (⟨text, quote, some sp⟩ :: pointedIdents ps, ts) := by
    unfold name
    rw [run_bind_ok (a := ⟨text, quote, some sp⟩) (r := pointed ps ++ ts) rfl,
      run_bind_ok (a := (pointed ps ++ ts).length) (r := pointed ps ++ ts) rfl]
    have hl : ps.length < (pointed ps ++ ts).length := by
      have := h.follows.length_pos
      rw [length_pointed]
      omega
    rw [run_bind_ok (repeatWhile_pointed h ps _ hl)]
    rfl
  have hopen : acceptSign "(" ts = .ok (false, ts) := by
    have hf := h.follows
    cases hf <;> rfl
  unfold customType
  rw [run_bind_ok hname, run_bind_ok hopen]
  exact ⟨_, rfl, rfl, rfl⟩

theorem dataType_ok {l : Lexeme} {type : DataType} {rest : List Lexeme}
    (h : dataTypeAt g (ts.length + 1 + 1) (l :: ts) = .ok ((type, false), rest)) :
    dataType g (l :: ts) = .ok (type, rest) := by
  unfold dataType
  rw [run_bind_ok (a := ts.length + 1) (r := l :: ts) rfl, closedType, run_bind_ok h]
  rfl

theorem dataType_refused {l : Lexeme} (h : Refused (dataTypeAt g (ts.length + 1 + 1)) (l :: ts)) :
    Refused (dataType g) (l :: ts) :=
  .bind_ok (a := ts.length + 1) (r := l :: ts) rfl (h.bind _)

/-- In front of what can follow a column, no word starts a typed literal. -/
theorem typedLiteral_refused (operand : Parser Expr) {text : String} {quote : Option Char}
    (hi : keywordOf text quote ≠ "INTERVAL") (sp : Text.Span) (h : Ends ts) (ps : List (Text.Span × String × Text.Span)) :
    Refused (typedLiteral g operand) (⟨.word text quote, sp⟩ :: (pointed ps ++ ts)) := by
  have hf := h.pointed ps
  -- whatever the word names, the type is refused, is no known type, or has no text literal behind it
  have htype : Refused (dataTypeAt g ((pointed ps ++ ts).length + 1 + 1)) (⟨.word text quote, sp⟩ :: (pointed ps ++ ts)) ∨
      ∃ type rest, dataTypeAt g ((pointed ps ++ ts).length + 1 + 1) (⟨.word text quote, sp⟩ :: (pointed ps ++ ts)) =
          .ok ((type, false), rest) ∧
        isIntervalType type = false ∧ (isCustomType type = true ∨ Follows rest) := by
    unfold Refused
    rw [dataTypeAt_word]
    generalize hcomp : compositeType g _ _ _ = composite
    generalize hsimple : simpleType _ _ = simple
    rcases composite with _ | p
    · rcases simple with _ | p
      · obtain ⟨w, hok, hc, hint⟩ := customType_pointed text quote sp h ps
        have hp : (do return ((← customType).phrase, false) : Parser BracketedType)
            (⟨.word text quote, sp⟩ :: (pointed ps ++ ts)) = .ok ((w.phrase, false), ts) := by
          rw [run_bind_ok hok]
          rfl
        exact .inr ⟨w.phrase, ts, bracketed_ok hp h.follows, hint, .inl hc⟩
      · rcases (simpleType_closed hi hsimple hf).reads with hr | ⟨w, hok, hint⟩
        · exact .inl ((hr.bind _).bind _)
        · have hp : (do return ((← p).phrase, false) : Parser BracketedType) (pointed ps ++ ts) =
              .ok ((w.phrase, false), pointed ps ++ ts) := by
            rw [run_bind_ok hok]
            rfl
          exact .inr ⟨w.phrase, _, bracketed_ok hp hf, hint, .inr hf⟩
    · rcases compositeType_closed (fun raw sp rest => dataTypeAt_string _ raw sp rest) hcomp hf with
        hr | ⟨type, hok, hint⟩
      · exact .inl (hr.bind _)
      · exact .inr ⟨type, _, bracketed_ok hok hf, hint, .inr hf⟩
  rcases htype with hr | ⟨type, rest, hok, hint, hrest⟩
  · exact (dataType_refused hr).bind _
  · refine .bind_ok (dataType_ok hok) ?_
    rw [if_neg (by simp [hint])]
    split
    · exact ⟨_, _, rfl⟩
    · rcases hrest with hc | hc
      · contradiction
      · exact (literalText_refused hc).bind _

/-! ## Special forms -/

/-- The words that are a call by themselves. -/
def bareWords : Dialect → List String
  | .clickHouse => ["CURRENT_TIMESTAMP", "CURRENT_TIME", "CURRENT_DATE", "LOCALTIME", "LOCALTIMESTAMP"]
  | .generic => ["CURRENT_TIMESTAMP", "CURRENT_TIME", "CURRENT_DATE", "LOCALTIME", "LOCALTIMESTAMP", "CURRENT_CATALOG",
      "CURRENT_USER", "SESSION_USER", "USER"]

/-- The words that never give way to a plain name, although no filter key is quoted for them. -/
def stubbornWords : Dialect → List String
  | .clickHouse => ["TRIM"]
  | .generic => ["TRIM", "STRUCT"]

/-- A structure needs its members in parentheses. -/
theorem structExpr_refused (start : Option Lexeme) (h : Follows ts) : Refused (structExpr g start) ts := by
  refine .bind_ok (a := ts.length) (r := ts) rfl ?_
  cases h with
  | lt sp sp' raw rest =>
    exact (structType_string start (fun raw sp rest => dataTypeAt_string _ raw sp rest) sp sp' raw rest).bind _
  | _ => exact .bind_ok (a := ([], false)) rfl (.bind (.bind (expectSign_refused rfl) _) _)

/-- The special form of a word in front of what can follow a column: none, or one that is refused, or a call without
parentheses. -/
theorem specialForm_follows (operand : Parser Expr) {word : String} (hw : word ∉ Macro.expressionKeywords)
    (hg : g.connecting = false) (first : Ident) (start : Option Lexeme) (h : Follows ts) :
    (word ∈ bareWords g.dialect ∧
      ∃ p, specialForm g operand word first start ts.head? = some p ∧ p ts = .ok (.bareCall [first], ts)) ∨
    (word ∉ bareWords g.dialect ∧ word ∉ stubbornWords g.dialect ∧
      specialForm g operand word first start ts.head? = none) ∨
    (word ∉ bareWords g.dialect ∧ (word ∈ reservedForIdent ↔ word ∈ stubbornWords g.dialect) ∧
      ∃ p, specialForm g operand word first start ts.head? = some p ∧ Refused p ts) := by
  -- a form that asks for a parenthesis first
  have refused : ∀ {w : String} {p : Parser Expr}, (∀ d, w ∉ bareWords d) →
      (w ∈ reservedForIdent ↔ w ∈ stubbornWords g.dialect) → Refused p ts →
      w ∉ bareWords g.dialect ∧ (w ∈ reservedForIdent ↔ w ∈ stubbornWords g.dialect) ∧
        ∃ q, some p = some q ∧ Refused q ts :=
    fun hb hs hp => ⟨hb _, hs, _, rfl, hp⟩
  unfold specialForm
  split
  case h_4 | h_5 | h_6 | h_7 =>
    cases hd : g.dialect
    · exact .inr (.inl ⟨by decide, by decide, rfl⟩)
    · exact .inl ⟨by decide, _, rfl, rfl⟩
  case h_8 | h_9 | h_10 | h_11 | h_12 =>
    refine .inl ⟨by cases g.dialect <;> decide, _, rfl, ?_⟩
    cases h <;> rfl
  case h_14 | h_17 | h_18 | h_20 | h_21 | h_22 | h_24 | h_25 | h_26 =>
    exact .inr (.inr (refused (fun d => by cases d <;> decide) (by cases g.dialect <;> decide) (refused_of_opening h)))
  case h_15 =>
    cases hd : g.dialect
    · exact .inr (.inl ⟨by decide, by decide, rfl⟩)
    · exact .inr (.inr ⟨by decide, by decide, _, rfl, refused_of_opening h⟩)
  case h_23 =>
    rw [if_neg (by simp [h.notOpening])]
    exact .inr (.inl ⟨by cases g.dialect <;> decide, by cases g.dialect <;> decide, rfl⟩)
  case h_28 =>
    rw [if_neg (by cases h <;> simp [isSign]), if_neg (by simp [h.notOpening])]
    exact .inr (.inl ⟨by cases g.dialect <;> decide, by cases g.dialect <;> decide, rfl⟩)
  case h_30 =>
    cases hd : g.dialect
    · exact .inr (.inl ⟨by decide, by decide, rfl⟩)
    · refine .inr (.inr ⟨by decide, by decide, _, rfl, ?_⟩)
      cases h <;> exact ⟨_, _, rfl⟩
  case h_31 =>
    cases hd : g.dialect
    · exact .inr (.inl ⟨by decide, by decide, rfl⟩)
    · exact .inr (.inr ⟨by decide, by decide, _, rfl, structExpr_refused start h⟩)
  case h_32 =>
    rw [if_neg (by simp [hg])]
    exact .inr (.inl ⟨by cases g.dialect <;> decide, by cases g.dialect <;> decide, rfl⟩)
  case h_33 =>
    rw [if_neg (by cases h <;> simp [isSign])]
    exact .inr (.inl ⟨by cases g.dialect <;> decide, by cases g.dialect <;> decide, rfl⟩)
  case h_34 =>
    refine .inr (.inl ⟨?_, ?_, rfl⟩)
    · cases g.dialect <;> simp only [bareWords, List.mem_cons, List.not_mem_nil, or_false, not_or] <;> and_intros <;>
        assumption
    · cases g.dialect <;> simp only [stubbornWords, List.mem_cons, List.not_mem_nil, or_false, not_or] <;>
        and_intros <;> assumption
  -- the words that are left are keywords of expressions
  all_goals exact absurd (by decide) hw

/-! ## Columns -/

/-- The expression of a name and the names behind its points. -/
def columnExpr (first : Ident) : List Ident → Expr
  | [] => .ident first
  | more => .compound (first :: more)

theorem plainWord_follows (operand : Parser Expr) (first : Ident) (h : Ends ts) (ps : List (Text.Span × String × Text.Span)) :
    plainWord g operand first (pointed ps ++ ts) = .ok (columnExpr first (pointedIdents ps), ts) := by
  cases ps with
  | nil =>
    obtain ⟨hf, hp⟩ := h
    show plainWord g operand first ts = _
    unfold plainWord
    rw [run_bind_ok (a := ts.head?) (r := ts) rfl, if_neg (by simp [hf.notOpening, hp]), if_neg]
    · rfl
    · cases hf <;> simp [isIntroducible]
  | cons p ps =>
    have hopen : acceptSign "(" ts = .ok (false, ts) := by
      have hf := h.follows
      cases hf <;> rfl
    have hl : (p :: ps).length < (pointed (p :: ps) ++ ts).length := by
      have := h.follows.length_pos
      rw [length_pointed]
      omega
    unfold plainWord
    rw [run_bind_ok (a := some ⟨.sign ".", p.1⟩) (r := pointed (p :: ps) ++ ts) (by rw [pointed_cons]; rfl),
      if_pos (by rfl), run_bind_ok (a := (pointed (p :: ps) ++ ts).length) (r := pointed (p :: ps) ++ ts) rfl,
      run_bind_ok (pointedNames_pointed h (p :: ps) _ hl)]
    rw [run_bind_ok hopen]
    rfl

/-- A word that starts no special form, or one that gives way, is a plain name. -/
theorem wordExpr_plain {l : Lexeme} {first : Ident} {plain : Expr} {rest : List Lexeme}
    (hplain : plainWord g operand first ts = .ok (plain, rest))
    (hform : ∀ word, l.token.keyword? = some word → specialForm g operand word first (some l) ts.head? = none ∨
      word ∉ reservedForIdent ∧ ∃ p, specialForm g operand word first (some l) ts.head? = some p ∧ Refused p ts) :
    ∃ b, wordExpr g operand l first ts = .ok (⟨plain, b⟩, rest) := by
  unfold wordExpr
  cases hk : l.token.keyword? with
  | none =>
    refine ⟨true, ?_⟩
    dsimp only [Option.bind]
    rw [run_bind_ok hplain]
    rfl
  | some word =>
    rcases hform word hk with hn | ⟨hr, p, hp, m, at', href⟩
    · refine ⟨true, ?_⟩
      simp only [Option.bind, hn, Option.map]
      rw [run_bind_ok hplain]
      rfl
    · refine ⟨false, ?_⟩
      simp only [Option.bind, hp, Option.map, href, List.contains_eq_mem, hr, decide_false, Bool.false_eq_true,
        if_false, hplain]

/-- A special form that is read. -/
theorem wordExpr_special {l : Lexeme} {first : Ident} {w : String} {p : Parser Expr} {e : Expr}
    {rest : List Lexeme} (hk : l.token.keyword? = some w)
    (hp : specialForm g operand w first (some l) ts.head? = some p) (he : p ts = .ok (e, rest)) :
    wordExpr g operand l first ts = .ok (⟨e, true⟩, rest) := by
  simp only [wordExpr, hk, Option.bind, hp, Option.map, he]

/-- A special form of a reserved word that is refused. -/
theorem wordExpr_refused {l : Lexeme} {first : Ident} {word : String} {p : Parser Expr}
    (hk : l.token.keyword? = some word) (hr : word ∈ reservedForIdent)
    (hp : specialForm g operand word first (some l) ts.head? = some p) (he : Refused p ts) :
    Refused (wordExpr g operand l first) ts := by
  obtain ⟨m, at', he⟩ := he
  refine ⟨m, at', ?_⟩
  simp only [wordExpr, hk, Option.bind, hp, Option.map, he, List.contains_eq_mem, hr, decide_true, if_true]

/-- What stands behind an operand is no collation. -/
theorem collated_none {e : Expr} (h : isWord "COLLATE" ts.head? = false) : collated e ts = .ok (e, ts) := by
  have ha : acceptWord "COLLATE" ts = .ok (false, ts) := by
    cases ts with
    | nil => rfl
    | cons l rest =>
      rw [acceptWord_cons, if_neg]
      simpa [isWord] using h
  have hc : optionalClause "COLLATE" name ts = .ok (none, ts) := by
    unfold optionalClause
    rw [run_bind_ok ha]
    rfl
  unfold collated
  rw [run_bind_ok hc]
  rfl

/-- An operand that starts with a word and is no typed literal. -/
theorem operandAt_word {fuel : Nat} {text : String} {quote : Option Char} {sp : Text.Span}
    (ht : Refused (typedLiteral g (operandAt g fuel)) (⟨.word text quote, sp⟩ :: ts)) :
    operandAt g (fuel + 1) (⟨.word text quote, sp⟩ :: ts) =
      (do
        let found ← wordExpr g (operandAt g fuel) ⟨.word text quote, sp⟩ ⟨text, quote, some sp⟩
        if found.collatable then collated found.expr else return found.expr : Parser Expr) ts := by
  rw [operandAt, run_bind_ok (attempt_refused ht)]
  rfl

theorem operandAt_word_ok {fuel : Nat} {text : String} {quote : Option Char} {sp : Text.Span} {e : Expr} {b : Bool}
    {rest : List Lexeme} (ht : Refused (typedLiteral g (operandAt g fuel)) (⟨.word text quote, sp⟩ :: ts))
    (hw : wordExpr g (operandAt g fuel) ⟨.word text quote, sp⟩ ⟨text, quote, some sp⟩ ts = .ok (⟨e, b⟩, rest))
    (hc : isWord "COLLATE" rest.head? = false) :
    operandAt g (fuel + 1) (⟨.word text quote, sp⟩ :: ts) = .ok (e, rest) := by
  rw [operandAt_word ht, run_bind_ok hw]
  cases b
  · rfl
  · exact collated_none hc

theorem Follows.noCollation (h : Follows ts) : isWord "COLLATE" ts.head? = false := by
  cases h <;> rfl

/-- The operand that a name in front of what can follow a column is: a call without parentheses, no operand at all, or
the column. -/
theorem operandAt_column {text : String} {quote : Option Char} (hw : keywordOf text quote ∉ Macro.expressionKeywords)
    (hg : g.connecting = false) (fuel : Nat) (sp : Text.Span) (h : Ends ts)
    (ps : List (Text.Span × String × Text.Span)) :
    let read := operandAt g (fuel + 1)
    let input := ⟨.word text quote, sp⟩ :: (pointed ps ++ ts)
    (keywordOf text quote ∈ bareWords g.dialect ∧
      read input = .ok (.bareCall [⟨text, quote, some sp⟩], pointed ps ++ ts)) ∨
    (keywordOf text quote ∈ stubbornWords g.dialect ∧ Refused read input) ∨
    (keywordOf text quote ∉ bareWords g.dialect ∧ keywordOf text quote ∉ stubbornWords g.dialect ∧
      read input = .ok (columnExpr ⟨text, quote, some sp⟩ (pointedIdents ps), ts)) := by
  intro read input
  have hf := h.pointed ps
  have hi : keywordOf text quote ≠ "INTERVAL" := fun hi => hw (by rw [hi]; decide)
  have ht := typedLiteral_refused (g := g) (operandAt g fuel) hi sp h ps
  have hplain := plainWord_follows (g := g) (operandAt g fuel) ⟨text, quote, some sp⟩ h ps
  cases quote with
  | some q =>
    obtain ⟨b, hb⟩ := wordExpr_plain (l := ⟨.word text (some q), sp⟩) hplain
      (fun word hk => by simp [Token.keyword?] at hk)
    refine .inr (.inr ⟨?_, ?_, operandAt_word_ok ht hb h.follows.noCollation⟩)
    · show "" ∉ bareWords g.dialect
      cases g.dialect <;> decide
    · show "" ∉ stubbornWords g.dialect
      cases g.dialect <;> decide
  | none =>
    have hk : (Token.word text none).keyword? = some (keywordOf text none) := rfl
    rcases specialForm_follows (operandAt g fuel) hw hg ⟨text, none, some sp⟩
        (some ⟨.word text none, sp⟩) hf with ⟨hb, p, hp, he⟩ | ⟨hb, hs, hn⟩ | ⟨hb, hr, p, hp, he⟩
    · exact .inl ⟨hb, operandAt_word_ok ht (wordExpr_special hk hp he) hf.noCollation⟩
    · obtain ⟨b, hok⟩ := wordExpr_plain (l := ⟨.word text none, sp⟩) hplain
        (fun word hword => .inl (by rw [hk] at hword; cases hword; exact hn))
      exact .inr (.inr ⟨hb, hs, operandAt_word_ok ht hok h.follows.noCollation⟩)
    · by_cases hs : keywordOf text none ∈ stubbornWords g.dialect
      · refine .inr (.inl ⟨hs, ?_⟩)
        show Refused (operandAt g (fuel + 1)) _
        unfold Refused
        rw [operandAt_word ht]
        exact (wordExpr_refused (l := ⟨.word text none, sp⟩) hk (hr.2 hs) hp he).bind _
      · obtain ⟨b, hok⟩ := wordExpr_plain (l := ⟨.word text none, sp⟩) hplain
          (fun word hword => .inr (by rw [hk] at hword; cases hword; exact ⟨fun h => hs (hr.1 h), p, hp, he⟩))
        exact .inr (.inr ⟨hb, hs, operandAt_word_ok ht hok h.follows.noCollation⟩)

end SqlTemplate.Sql.Parser
