import SqlTemplate.Proofs.Comparisons

/-!
# Functions of arguments

A function whose name is no keyword is read with its arguments as one call, whatever expressions the arguments are. The
name with the parenthesis could also start a type; then what stands behind it is no text literal, and the type is given
up.

* `typedLiteral_function`: the name and the parenthesis start no typed literal.
* `operandAt_function`: a call is read as an operand.
* `argList_of_args`: arguments without clauses behind them.
* `ReadsArgument`: tokens that are read as an argument; `function_read`: a function of such arguments.
-/

namespace SqlTemplate.Sql.Parser

open Service.Tree

variable {dialect : Dialect} {g : Grammar} {ts rest : List Lexeme}

/-! ## A name in front of a parenthesis -/

/-- Modifiers of a type end with the first closing parenthesis, and hold no other sign than commas. -/
theorem typeModifiers_cases {fuel : Nat} (hfuel : ts.length < fuel) :
    Refused (typeModifiers fuel) ts ∨ ∃ modifiers front l behind, ts = front ++ l :: behind ∧
      typeModifiers fuel ts = .ok (modifiers, behind) ∧ l.token = .sign ")" ∧
      ∀ l' ∈ front, ∀ s, l'.token = .sign s → s = "," := by
  induction fuel generalizing ts with
  | zero => omega
  | succ fuel ih =>
    cases ts with
    | nil => exact .inl ⟨_, _, rfl⟩
    | cons l ts =>
      obtain ⟨t, sp⟩ := l
      have hlt : ts.length < fuel := Nat.lt_of_succ_lt_succ hfuel
      -- a modifier in front of the others
      have step (text : String) (hsign : ∀ s, t = .sign s → s = ",")
          (hread : typeModifiers (fuel + 1) (⟨t, sp⟩ :: ts) = (do return text :: (← typeModifiers fuel) : Parser _) ts) :
          Refused (typeModifiers (fuel + 1)) (⟨t, sp⟩ :: ts) ∨
            ∃ modifiers front l behind, ⟨t, sp⟩ :: ts = front ++ l :: behind ∧
              typeModifiers (fuel + 1) (⟨t, sp⟩ :: ts) = .ok (modifiers, behind) ∧ l.token = .sign ")" ∧
              ∀ l' ∈ front, ∀ s, l'.token = .sign s → s = "," := by
        rcases ih hlt with hrefused | ⟨modifiers, front, l, behind, rfl, hok, hl, hfront⟩
        · obtain ⟨m, at_, herror⟩ := hrefused.bind fun more => pure (text :: more)
          exact .inl ⟨m, at_, by rw [hread, herror]⟩
        · refine .inr ⟨text :: modifiers, ⟨t, sp⟩ :: front, l, behind, rfl, ?_, hl,
            List.forall_mem_cons.2 ⟨hsign, hfront⟩⟩
          rw [hread, run_bind_ok hok]
          rfl
      cases t with
      | word text quote => exact step _ nofun rfl
      | number text long => exact step _ nofun rfl
      | string kind text =>
        cases kind with
        | single => exact step _ nofun rfl
        | _ => exact .inl ⟨_, _, rfl⟩
      | placeholder text => exact .inl ⟨_, _, rfl⟩
      | blank => exact .inl ⟨_, _, rfl⟩
      | sign s =>
        by_cases hcomma : s = ","
        · subst hcomma
          rcases ih hlt with hrefused | ⟨modifiers, front, l, behind, rfl, hok, hl, hfront⟩
          · exact .inl hrefused
          · exact .inr ⟨modifiers, ⟨.sign ",", sp⟩ :: front, l, behind, rfl, hok, hl,
              List.forall_mem_cons.2 ⟨fun _ h => (Token.sign.inj h).symm, hfront⟩⟩
        · by_cases hclosing : s = ")"
          · subst hclosing
            exact .inr ⟨[], [], ⟨.sign ")", sp⟩, ts, rfl, rfl, rfl, by simp⟩
          · refine .inl (.bind_ok (p := next) (a := some ⟨.sign s, sp⟩) (r := ts) rfl ?_)
            split
            all_goals first | exact refused_expected .. | (rename_i h; cases h)
            all_goals contradiction

/-- Behind the first closing parenthesis no bracket is opened. -/
def ClosesApart (ts : List Lexeme) : Prop :=
  ∀ front l behind, ts = front ++ l :: behind → l.token = .sign ")" →
    (∀ l' ∈ front, ∀ s, l'.token = .sign s → s = ",") → isSign "[" behind.head? = false

variable {text : String}

/-- A name with modifiers is a type of its own. -/
theorem customType_modifiers {modifiers : List String} {n : Name} {r behind : List Lexeme} (opening : Text.Span)
    (hname : name ts = .ok (n, ⟨.sign "(", opening⟩ :: r))
    (hmodifiers : typeModifiers (r.length + 1) r = .ok (modifiers, behind)) :
    ∃ w, customType ts = .ok (w, behind) ∧ isCustomType w.phrase = true ∧ isIntervalType w.phrase = false := by
  suffices h : ∃ text, customType ts = .ok (⟨text, .node "Custom" (.list [n.shape, .list (modifiers.map .text)])⟩, behind) by
    obtain ⟨text, h⟩ := h
    exact ⟨_, h, rfl, rfl⟩
  refine ⟨?_, ?_⟩
  rotate_left
  · unfold customType
    rw [run_bind_ok hname, run_bind_ok (a := true) (r := r) rfl, if_pos rfl, run_bind_ok (a := r.length) (r := r) rfl,
      run_bind_ok hmodifiers]
    exact rfl

/-- The name of a function and the parenthesis behind it start no typed literal. -/
theorem typedLiteral_function (hw : isOrdinary g.dialect (keywordOf text none) = true) (hts : ClosesApart ts)
    (operand : Parser Expr) (sp opening : Text.Span) :
    Refused (typedLiteral g operand) (⟨.word text none, sp⟩ :: ⟨.sign "(", opening⟩ :: ts) := by
  have hsimple : simpleType g.dialect (keywordOf text none) = none := by
    simp only [isOrdinary, Bool.and_eq_true, Option.isNone_iff_eq_none] at hw
    exact hw.1.1.1.1
  have hname : name (⟨.word text none, sp⟩ :: ⟨.sign "(", opening⟩ :: ts) =
      .ok ([⟨text, none, some sp⟩], ⟨.sign "(", opening⟩ :: ts) := rfl
  -- the type with what stands in the parentheses
  have hcustom : Refused customType (⟨.word text none, sp⟩ :: ⟨.sign "(", opening⟩ :: ts) ∨
      ∃ w behind, customType (⟨.word text none, sp⟩ :: ⟨.sign "(", opening⟩ :: ts) = .ok (w, behind) ∧
        isCustomType w.phrase = true ∧ isIntervalType w.phrase = false ∧ isSign "[" behind.head? = false := by
    rcases typeModifiers_cases (Nat.lt_succ_self ts.length) with hrefused | ⟨ms, front, l, behind, hlist, hok, hl, hfront⟩
    · refine .inl (.bind_ok hname (.bind_ok (a := true) (r := ts) rfl ?_))
      exact .bind_ok (a := ts.length) (r := ts) rfl (hrefused.bind _)
    · obtain ⟨w, hok, hc, hinterval⟩ := customType_modifiers opening hname hok
      exact .inr ⟨w, behind, hok, hc, hinterval, hts front l behind hlist hl hfront⟩
  have htype : ∀ fuel, dataTypeAt g (fuel + 1) (⟨.word text none, sp⟩ :: ⟨.sign "(", opening⟩ :: ts) =
      bracketed g.dialect (do return ((← customType).phrase, false))
        (⟨.word text none, sp⟩ :: ⟨.sign "(", opening⟩ :: ts) := by
    intro fuel
    rw [dataTypeAt_word, compositeType_ordinary hw, hsimple]
  rcases hcustom with hrefused | ⟨w, behind, hok, hc, hinterval, hapart⟩
  · have hrefused' : Refused (dataType g) (⟨.word text none, sp⟩ :: ⟨.sign "(", opening⟩ :: ts) := by
      refine .bind_ok (a := ts.length + 2) (r := _) rfl (Refused.bind ?_ _)
      unfold Refused
      rw [htype]
      exact (hrefused.bind _).bind _
    exact hrefused'.bind _
  · have hbrackets : ∀ element, listBrackets g.dialect behind.length element behind = .ok (element, behind) := by
      intro element
      cases behind with
      | nil => rfl
      | cons l behind =>
        have hno : acceptSign "[" (l :: behind) = .ok (false, l :: behind) := by
          rw [acceptSign_cons, if_neg]
          simpa [isSign] using hapart
        rw [List.length_cons, listBrackets, run_bind_ok hno]
        rfl
    refine .bind_ok (a := w.phrase) (r := behind) (dataType_ok ?_) ?_
    · rw [htype]
      unfold bracketed
      rw [run_bind, run_bind_ok hok]
      dsimp only [run_pure]
      rw [run_bind_ok (a := behind.length) (r := behind) rfl, run_bind_ok (hbrackets _)]
      rfl
    · rw [if_neg (by simp [hinterval]), if_pos hc]
      exact ⟨_, _, rfl⟩

/-- **A function with its arguments is read as one call.** -/
theorem operandAt_function (hw : isOrdinary g.dialect (keywordOf text none) = true) (hts : ClosesApart ts)
    {args : List Arg} (hargs : argList g ts = .ok (⟨none, args, []⟩, rest)) (hrest : Stops rest) (fuel : Nat)
    (sp opening : Text.Span) :
    operandAt g (fuel + 1) (⟨.word text none, sp⟩ :: ⟨.sign "(", opening⟩ :: ts) =
      .ok (.call [⟨text, none, some sp⟩] none ⟨none, args, []⟩ ⟨false, none⟩ none none, rest) := by
  have hcall (operand : Parser Expr) : call g operand false [⟨text, none, some sp⟩] ts =
      .ok (.call [⟨text, none, some sp⟩] none ⟨none, args, []⟩ ⟨false, none⟩ none none, rest) := by
    unfold call
    rw [run_bind_ok hargs]
    cases hrest <;> rfl
  have hplain : plainWord g (operandAt g fuel) ⟨text, none, some sp⟩ (⟨.sign "(", opening⟩ :: ts) =
      .ok (.call [⟨text, none, some sp⟩] none ⟨none, args, []⟩ ⟨false, none⟩ none none, rest) := by
    rw [← hcall (operandAt g fuel)]
    rfl
  obtain ⟨b, hword⟩ := wordExpr_plain (l := ⟨.word text none, sp⟩) hplain fun word hk => .inl (by
    rw [keywordOf, hk] at hw
    exact specialForm_ordinary hw _ _ _ _)
  exact operandAt_word_ok (typedLiteral_function hw hts _ sp opening) hword (by cases hrest <;> rfl)

/-! ## Arguments -/

/-- Arguments without words in front of them and without clauses behind them. -/
theorem argList_of_args {args : List Arg} {closing : Text.Span} (hjson : jsonNullClause ts = .ok ([], ts))
    (hclosing : isSign ")" ts.head? = false) (hrepeats : repeats ts = .ok (none, ts))
    (hargs : commaSeparated (arg g) ts = .ok (args, ⟨.sign ")", closing⟩ :: rest)) :
    argList g ts = .ok (⟨none, args, []⟩, rest) := by
  have hopen : acceptSign ")" ts = .ok (false, ts) := by
    cases ts with
    | nil => rfl
    | cons l ts =>
      rw [acceptSign_cons, if_neg]
      simpa [isSign] using hclosing
  unfold argList
  rw [run_bind_ok hjson, run_bind_ok hopen]
  show (repeats >>= _) _ = _
  rw [run_bind_ok hrepeats, run_bind_ok hargs]
  obtain ⟨dialect, connecting, expr, relating, query, statement⟩ := g
  cases dialect <;> rfl

/-- An expression is an argument without a name if no word or sign that could follow a name comes second. -/
theorem arg_unnamed {l u : Lexeme} {e : Expr} (hstar : l.token ≠ .sign "*")
    (hsecond : u.token ∉ [.sign ".", .sign "=>", .sign ":="]) (hvalue : u.token.keyword? ≠ some "VALUE")
    (hread : g.expr 0 (l :: u :: ts) = .ok (e, rest)) : arg g (l :: u :: ts) = .ok (.expr none e, rest) := by
  simp only [List.mem_cons, List.not_mem_nil, or_false, not_or] at hsecond
  obtain ⟨hpoint, harrow, hassign⟩ := hsecond
  have hstyle : Refused (namedStyle g.dialect) (u :: ts) := by
    have hword : acceptWord "VALUE" (u :: ts) = .ok (false, u :: ts) := by
      rw [acceptWord_cons, if_neg (by simpa using hvalue)]
    have hsign : acceptSign "=>" (u :: ts) = .ok (false, u :: ts) := by
      rw [acceptSign_cons, if_neg (by simpa using harrow)]
    refine .bind_ok hword ?_
    show Refused (acceptSign "=>" >>= _) _
    refine .bind_ok hsign ?_
    show Refused (peek >>= _) _
    refine .bind_ok (a := some u) (r := u :: ts) rfl ?_
    rw [if_neg (by simp [isSign, hassign])]
    exact refused_expected ..
  have hitem : item g (l :: u :: ts) = .ok (.expr e, rest) := by
    have hexpr : (do return .expr (← g.expr 0) : Parser Item) (l :: u :: ts) = .ok (.expr e, rest) := by
      rw [run_bind_ok hread]
      rfl
    unfold item
    rw [run_bind_ok (a := l :: u :: ts) (r := l :: u :: ts) rfl]
    generalize hinput : l :: u :: ts = input at hexpr ⊢
    split
    · exact absurd (congrArg Lexeme.token (List.cons.inj hinput).1) hstar
    · exact absurd (congrArg Lexeme.token (List.cons.inj (List.cons.inj hinput).2).1) hpoint
    · exact hexpr
  have hnamed (p : NamedStyle → Ident → Parser (Option (Ident × NamedStyle) × Item)) :
      Refused (ident >>= fun label => namedStyle g.dialect >>= fun style => p style label) (l :: u :: ts) := by
    cases hl : identOf? (some l) with
    | none =>
      refine Refused.bind (.bind_ok (p := next) (a := some l) (r := u :: ts) rfl ?_) _
      rw [hl]
      exact refused_expected ..
    | some i =>
      have hident : ident (l :: u :: ts) = .ok (i, u :: ts) := by
        unfold ident
        rw [run_bind_ok (a := some l) (r := u :: ts) rfl, hl]
        rfl
      exact .bind_ok hident (hstyle.bind _)
  unfold arg
  rw [run_bind_ok (attempt_refused (hnamed fun style label => item g >>= fun i => pure (some (label, style), i)))]
  show (item g >>= _) _ = _
  rw [run_bind_ok hitem]
  rfl

/-- Tokens are read as an argument without a name, in front of a comma or of the closing parenthesis. -/
def ReadsArgument (dialect : Dialect) (depth : Nat) (tokens : List Token) (e : Expr) : Prop :=
  ∀ {ls : List Lexeme} {s : String} {sp : Text.Span} {rest : List Lexeme}, ls.map Lexeme.token = tokens →
    s ∈ [")", ","] → ∃ x, exprTree x = exprTree e ∧
      arg (grammar dialect depth) (ls ++ ⟨.sign s, sp⟩ :: rest) = .ok (.expr none x, ⟨.sign s, sp⟩ :: rest)

/-- The start of a first argument: no word about repeated values or about members that are null. -/
def OpensArguments (tokens : List Token) : Prop :=
  ∃ t ts, tokens = t :: ts ∧ t ≠ .sign ")" ∧ (∀ word ∈ repeatWords, t.keyword? ≠ some word) ∧
    ∀ u ∈ ts.head?, u.keyword? ≠ some "ON"

/-- No words stand in front of the arguments. -/
theorem unmarked_of_opens {tokens : List Token} (h : OpensArguments tokens) {ls : List Lexeme}
    (hls : ls.map Lexeme.token = tokens) (s : String) (sp : Text.Span) (rest : List Lexeme) :
    jsonNullClause (ls ++ ⟨.sign s, sp⟩ :: rest) = .ok ([], ls ++ ⟨.sign s, sp⟩ :: rest) ∧
      isSign ")" (ls ++ ⟨.sign s, sp⟩ :: rest).head? = false ∧
      repeats (ls ++ ⟨.sign s, sp⟩ :: rest) = .ok (none, ls ++ ⟨.sign s, sp⟩ :: rest) := by
  obtain ⟨t, tokens, rfl, hclosing, hrepeats, hon⟩ := h
  obtain ⟨tsp, ls, rfl, hsecond⟩ := cons_of_tokens hls
  rw [List.cons_append]
  have hapart (w w'' : String) : startsWithWords [w, "ON", w''] (⟨t, tsp⟩ :: (ls ++ ⟨.sign s, sp⟩ :: rest)) = false := by
    cases ls with
    | nil => simp [startsWithWords, isWord, Token.keyword?]
    | cons u ls =>
      subst hsecond
      have hu : isWord "ON" (some u) = false := by simpa [isWord] using hon u.token rfl
      simp [startsWithWords, hu]
  refine ⟨?_, by simpa [isSign] using hclosing, repeats_none hrepeats⟩
  unfold jsonNullClause
  rw [run_bind_ok (acceptWords_none (hapart ..))]
  show (acceptWords _ >>= _) _ = _
  rw [run_bind_ok (acceptWords_none (hapart ..))]
  rfl

section

variable {args : List Arg} {a : Arg} {comma closing : Text.Span}

/-- An argument behind a comma. -/
theorem repeatWhile_more {fuel : Nat} {mid : List Lexeme} (ha : arg g ts = .ok (a, mid))
    (hmore : repeatWhile (acceptSign ",") (arg g) fuel mid = .ok (args, rest)) :
    repeatWhile (acceptSign ",") (arg g) (fuel + 1) (⟨.sign ",", comma⟩ :: ts) = .ok (a :: args, rest) := by
  rw [repeatWhile, run_bind_ok (a := true) (r := ts) rfl, if_pos rfl, run_bind_ok ha, run_bind_ok hmore]
  rfl

/-- The first argument and those behind it. -/
theorem commaSeparated_first {mid : List Lexeme} (ha : arg g ts = .ok (a, mid))
    (hmore : repeatWhile (acceptSign ",") (arg g) mid.length mid = .ok (args, rest)) :
    commaSeparated (arg g) ts = .ok (a :: args, rest) := by
  unfold commaSeparated
  rw [run_bind_ok ha, run_bind_ok (a := mid.length) (r := mid) rfl, run_bind_ok hmore]
  rfl

end

/-- Tokens of arguments with a comma in front of each. -/
def commaTokens (more : List (List Token × Expr)) : List Token := more.flatMap fun p => .sign "," :: p.1

theorem commaTokens_cons (p : List Token × Expr) (more : List (List Token × Expr)) :
    commaTokens (p :: more) = .sign "," :: (p.1 ++ commaTokens more) := rfl

theorem length_commaTokens (more : List (List Token × Expr)) : more.length ≤ (commaTokens more).length := by
  induction more with
  | nil => exact Nat.le_refl _
  | cons p more ih =>
    rw [commaTokens_cons, List.length_cons, List.length_cons, List.length_append]
    omega

variable {depth : Nat} {first : List Token × Expr} {more : List (List Token × Expr)} {ls : List Lexeme}
  {closing : Text.Span}

/-- An argument in front of others, or of the closing parenthesis. -/
theorem arg_read {tokens : List Token} {e : Expr} (h : ReadsArgument dialect depth tokens e)
    (hls : ls.map Lexeme.token = tokens) {ms : List Lexeme} (hms : ms.map Lexeme.token = commaTokens more)
    (closing : Text.Span) (rest : List Lexeme) :
    ∃ x, exprTree x = exprTree e ∧ arg (grammar dialect depth) (ls ++ (ms ++ ⟨.sign ")", closing⟩ :: rest)) =
      .ok (.expr none x, ms ++ ⟨.sign ")", closing⟩ :: rest) := by
  cases more with
  | nil =>
    obtain rfl := List.map_eq_nil_iff.1 hms
    exact h hls (by decide)
  | cons p more =>
    obtain ⟨sp, ms, rfl, -⟩ := cons_of_tokens hms
    exact h hls (by decide)

/-- Arguments behind the first one. -/
theorem repeatWhile_arguments (hmore : ∀ p ∈ more, ReadsArgument dialect depth p.1 p.2) {ms : List Lexeme}
    (hms : ms.map Lexeme.token = commaTokens more) {fuel : Nat} (hfuel : more.length ≤ fuel)
    (closing : Text.Span) (rest : List Lexeme) :
    ∃ xs : List Expr, xs.map exprTree = more.map (fun p => exprTree p.2) ∧
      repeatWhile (acceptSign ",") (arg (grammar dialect depth)) fuel (ms ++ ⟨.sign ")", closing⟩ :: rest) =
        .ok (xs.map (.expr none), ⟨.sign ")", closing⟩ :: rest) := by
  induction more generalizing ms fuel with
  | nil =>
    obtain rfl := List.map_eq_nil_iff.1 hms
    exact ⟨[], rfl, by cases fuel <;> rfl⟩
  | cons p more ih =>
    obtain ⟨hp, hmore⟩ := List.forall_mem_cons.1 hmore
    obtain ⟨fuel, rfl⟩ : ∃ k, fuel = k + 1 := ⟨fuel - 1, by rw [List.length_cons] at hfuel; omega⟩
    obtain ⟨sp, _, rfl, htail⟩ := cons_of_tokens hms
    obtain ⟨ps, ms, rfl, hps, hms⟩ := List.map_eq_append_iff.1 htail
    obtain ⟨x, hx, hread⟩ := arg_read hp hps hms closing rest
    obtain ⟨xs, hxs, hloop⟩ := ih hmore hms (Nat.le_of_succ_le_succ hfuel)
    refine ⟨x :: xs, by rw [List.map_cons, hx, hxs, List.map_cons], ?_⟩
    rw [List.cons_append, List.append_assoc]
    exact repeatWhile_more hread hloop

/-- Tokens in which something else than a comma stands in front of every closing parenthesis: the bracket that it
closes. -/
def Encloses (tokens : List Token) : Prop :=
  ∀ front behind, tokens = front ++ .sign ")" :: behind → ∃ s, .sign s ∈ front ∧ s ≠ ","

theorem Encloses.append {tokens more : List Token} (h : Encloses tokens) (hmore : Encloses more) :
    Encloses (tokens ++ more) := by
  intro front behind hsplit
  rcases List.append_eq_append_iff.1 hsplit with ⟨front', rfl, hbehind⟩ | ⟨middle, rfl, hmiddle⟩
  · obtain ⟨s, hs, hne⟩ := hmore front' behind hbehind
    exact ⟨s, List.mem_append_right _ hs, hne⟩
  · cases middle with
    | nil => exact absurd (hmore [] behind hmiddle.symm) (by simp)
    | cons t middle =>
      obtain ⟨rfl, -⟩ := List.cons.inj hmiddle
      exact h front middle rfl

theorem Encloses.comma {tokens : List Token} (h : Encloses tokens) : Encloses (.sign "," :: tokens) := by
  intro front behind hsplit
  cases front with
  | nil => exact absurd (List.cons.inj hsplit).1 (by decide)
  | cons t front =>
    obtain ⟨s, hs, hne⟩ := h front behind (List.cons.inj hsplit).2
    exact ⟨s, List.mem_cons_of_mem _ hs, hne⟩

theorem encloses_commaTokens (h : ∀ p ∈ more, Encloses p.1) : Encloses (commaTokens more) := by
  induction more with
  | nil => exact fun front behind hsplit => by simp [commaTokens] at hsplit
  | cons p more ih =>
    obtain ⟨hp, hmore⟩ := List.forall_mem_cons.1 h
    exact (hp.append (ih hmore)).comma

/-- The first closing parenthesis behind such tokens is the one that ends the call. -/
theorem Encloses.closesApart {tokens : List Token} (h : Encloses tokens) (hls : ls.map Lexeme.token = tokens)
    (hrest : Stops rest) : ClosesApart (ls ++ ⟨.sign ")", closing⟩ :: rest) := by
  intro front l behind hsplit hl hfront
  rcases List.append_eq_append_iff.1 hsplit with ⟨front', rfl, hbehind⟩ | ⟨middle, rfl, hmiddle⟩
  · cases front' with
    | nil =>
      obtain ⟨-, rfl⟩ := List.cons.inj hbehind
      cases hrest <;> rfl
    | cons l' front' =>
      obtain ⟨rfl, -⟩ := List.cons.inj hbehind
      exact absurd (hfront ⟨.sign ")", closing⟩ (by simp) ")" rfl) (by decide)
  · cases middle with
    | nil =>
      obtain ⟨-, rfl⟩ := List.cons.inj hmiddle
      cases hrest <;> rfl
    | cons l' middle =>
      obtain ⟨rfl, -⟩ := List.cons.inj hmiddle
      obtain ⟨s, hs, hne⟩ := h (front.map Lexeme.token) (middle.map Lexeme.token)
        (by rw [← hls, List.map_append, List.map_cons, hl])
      obtain ⟨l'', hl'', hs⟩ := List.mem_map.1 hs
      exact absurd (hfront l'' hl'' s hs) hne

/-- A function of arguments. -/
def functionExpr (name : String) (args : List Expr) : Expr :=
  .call [⟨name, none, none⟩] none ⟨none, args.map (.expr none), []⟩ ⟨false, none⟩ none none

/-- The tokens of a function of arguments. -/
def functionTokens (name : String) (first : List Token × Expr) (more : List (List Token × Expr)) : List Token :=
  .word name none :: .sign "(" :: (first.1 ++ (commaTokens more ++ [.sign ")"]))

variable {name : String}

/-- **A function of arguments** is read as an operand. -/
theorem function_read (hw : isOrdinary dialect (keywordOf name none) = true) (hopens : OpensArguments first.1)
    (hall : ∀ p ∈ first :: more, ReadsArgument dialect depth p.1 p.2 ∧ Encloses p.1)
    (hls : ls.map Lexeme.token = functionTokens name first more) (hrest : Stops rest) (fuel : Nat) :
    ∃ x, exprTree x = exprTree (functionExpr name (first.2 :: more.map Prod.snd)) ∧
      operandAt (grammar dialect depth) (fuel + 1) (ls ++ rest) = .ok (x, rest) := by
  obtain ⟨sp, _, rfl, htail⟩ := cons_of_tokens hls
  obtain ⟨opening, _, rfl, hinside⟩ := cons_of_tokens htail
  obtain ⟨fs, _, rfl, hfs, hbehind⟩ := List.map_eq_append_iff.1 hinside
  obtain ⟨ms, _, rfl, hms, hend⟩ := List.map_eq_append_iff.1 hbehind
  obtain ⟨closing, _, rfl, hnil⟩ := cons_of_tokens hend
  obtain rfl := List.map_eq_nil_iff.1 hnil
  obtain ⟨⟨hfirst, hencloses⟩, hmore⟩ := List.forall_mem_cons.1 hall
  obtain ⟨x, hx, hread⟩ := arg_read hfirst hfs hms closing rest
  have hfuel : more.length ≤ (ms ++ ⟨.sign ")", closing⟩ :: rest).length := by
    have hlength := length_commaTokens more
    rw [← hms, List.length_map] at hlength
    rw [List.length_append]
    omega
  obtain ⟨xs, hxs, hloop⟩ := repeatWhile_arguments (fun p hp => (hmore p hp).1) hms hfuel closing rest
  have hopening : ∃ s sp r, ms ++ ⟨.sign ")", closing⟩ :: rest = ⟨.sign s, sp⟩ :: r := by
    cases more with
    | nil =>
      obtain rfl := List.map_eq_nil_iff.1 hms
      exact ⟨_, _, _, rfl⟩
    | cons p more =>
      obtain ⟨sp, ms, rfl, -⟩ := cons_of_tokens hms
      exact ⟨_, _, _, rfl⟩
  obtain ⟨s, ssp, r, hsign⟩ := hopening
  have hmarks := unmarked_of_opens hopens hfs s ssp r
  rw [← hsign] at hmarks
  have hargs := argList_of_args hmarks.1 hmarks.2.1 hmarks.2.2 (commaSeparated_first hread hloop)
  have happart : ClosesApart (fs ++ (ms ++ ⟨.sign ")", closing⟩ :: rest)) := by
    rw [← List.append_assoc]
    refine (hencloses.append (encloses_commaTokens fun p hp => (hmore p hp).2)).closesApart ?_ hrest
    rw [List.map_append, hfs, hms]
  have hcall := operandAt_function (by rw [grammar_dialect]; exact hw) happart hargs hrest fuel sp opening
  refine ⟨_, ?_, by simpa using hcall⟩
  have hlist : (.expr none x :: xs.map (Arg.expr none)) = (x :: xs).map (Arg.expr none) := rfl
  rw [hlist, exprTree_plainCall, functionExpr, exprTree_plainCall]
  simp only [List.map_cons, List.map_map, hx, hxs]
  rfl

end SqlTemplate.Sql.Parser
