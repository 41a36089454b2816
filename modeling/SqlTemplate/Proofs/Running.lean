import SqlTemplate.Sql.Document

/-!
# Running parsers

A parser is a function from tokens to a result and the tokens behind it. It may refuse the tokens, and then something
else is tried, or fail for good.

* `run_bind`, `run_bind_ok`, `run_bind_error`: two parsers one after the other.
* `Refused.bind`, `Refused.bind_ok`: the second parser is not reached, or it is the one that refuses.
-/

namespace SqlTemplate.Sql.Parser

variable {α β : Type} {p : Parser α} {f : α → Parser β} {ts r : List Lexeme}

theorem run_pure (a : α) (ts : List Lexeme) : (pure a : Parser α) ts = .ok (a, ts) := rfl

theorem run_bind (p : Parser α) (f : α → Parser β) (ts : List Lexeme) :
    (p >>= f) ts = match p ts with
      | .ok (a, rest) => f a rest
      | .error e => .error e := by
  show (p ts >>= fun x => f x.1 x.2) = _
  cases p ts <;> rfl

theorem run_bind_ok {a : α} (h : p ts = .ok (a, r)) (f : α → Parser β) : (p >>= f) ts = f a r := by
  rw [run_bind, h]

theorem run_bind_error {e : Fault} (h : p ts = .error e) (f : α → Parser β) : (p >>= f) ts = .error e := by
  rw [run_bind, h]

/-- A result of two parsers one after the other comes from a result of each. -/
theorem bind_eq_ok {b : β} (h : (p >>= f) ts = .ok (b, r)) :
    ∃ a mid, p ts = .ok (a, mid) ∧ f a mid = .ok (b, r) := by
  rw [run_bind] at h
  split at h
  · exact ⟨_, _, by assumption, h⟩
  · cases h

/-- All values that a parser gives have a property. -/
class Gives (P : α → Prop) (p : Parser α) : Prop where
  out : ∀ {ts r : List Lexeme} {a : α}, p ts = .ok (a, r) → P a

theorem Gives.pure {P : α → Prop} {a : α} (h : P a) : Gives P (Pure.pure a : Parser α) := ⟨fun hread => by
  cases hread
  exact h⟩

theorem Gives.bind {P : β → Prop} {p : Parser α} {f : α → Parser β} (hf : ∀ a, Gives P (f a)) : Gives P (p >>= f) :=
  ⟨fun hread => by
    obtain ⟨a, mid, -, hread⟩ := bind_eq_ok hread
    exact (hf a).out hread⟩

/-! ## Refusing -/

/-- The parser does not take the tokens, and something else can be tried. -/
def Refused (p : Parser α) (ts : List Lexeme) : Prop := ∃ m l, p ts = .error (.rejected m l)

theorem Refused.bind (h : Refused p ts) (f : α → Parser β) : Refused (p >>= f) ts := by
  obtain ⟨m, l, h⟩ := h
  exact ⟨m, l, run_bind_error h f⟩

theorem Refused.bind_ok {a : α} (h : p ts = .ok (a, r)) (hf : Refused (f a) r) : Refused (p >>= f) ts := by
  obtain ⟨m, l, hf⟩ := hf
  exact ⟨m, l, by rw [run_bind_ok h, hf]⟩

theorem refused_expected (what : String) (found : Option Lexeme) (ts : List Lexeme) :
    Refused (expected what found : Parser α) ts := ⟨_, _, rfl⟩

/-- What is refused is taken back. -/
theorem attempt_refused (h : Refused p ts) : attempt p ts = .ok (none, ts) := by
  obtain ⟨m, l, h⟩ := h
  simp [attempt, h]

theorem Refused.ne_ok (h : Refused p ts) {r : α × List Lexeme} : p ts ≠ .ok r := by
  obtain ⟨m, l, h⟩ := h
  simp [h]

/-! ## Taking one token -/

theorem takeIf_cons (test : Option Lexeme → Bool) (l : Lexeme) (rest : List Lexeme) :
    takeIf test (l :: rest) = if test (some l) then .ok (some l, rest) else .ok (none, l :: rest) := by
  show (if test (some l) then next else pure none : Parser (Option Lexeme)) (l :: rest) = _
  split <;> rfl

theorem acceptSign_cons (text : String) (l : Lexeme) (rest : List Lexeme) :
    acceptSign text (l :: rest) = if l.token == .sign text then .ok (true, rest) else .ok (false, l :: rest) := by
  show (takeIf (isSign text) >>= fun x => pure x.isSome) (l :: rest) = _
  rw [run_bind, takeIf_cons, isSign]
  by_cases h : l.token == .sign text <;> simp [h, run_pure]

theorem acceptWord_cons (word : String) (l : Lexeme) (rest : List Lexeme) :
    acceptWord word (l :: rest) =
      if l.token.keyword? == some word then .ok (true, rest) else .ok (false, l :: rest) := by
  show (takeIf (isWord word) >>= fun x => pure x.isSome) (l :: rest) = _
  rw [run_bind, takeIf_cons, isWord]
  by_cases h : l.token.keyword? == some word <;> simp [h, run_pure]

/-- The first of some tokens has a place. -/
theorem cons_of_tokens {t : Token} {tokens : List Token} (h : ts.map Lexeme.token = t :: tokens) :
    ∃ sp rest, ts = ⟨t, sp⟩ :: rest ∧ rest.map Lexeme.token = tokens := by
  obtain ⟨⟨_, sp⟩, rest, rfl, rfl, hrest⟩ := List.map_eq_cons_iff.1 h
  exact ⟨sp, rest, rfl, hrest⟩

/-- A sign that does not come next is refused. -/
theorem expectSign_refused {text : String} (h : isSign text ts.head? = false) : Refused (expectSign text) ts := by
  have ha : acceptSign text ts = .ok (false, ts) := by
    cases ts with
    | nil => rfl
    | cons l rest =>
      rw [acceptSign_cons, if_neg]
      simpa [isSign] using h
  exact .bind_ok ha ⟨_, _, rfl⟩

theorem not_isSign_of_isWord {word sign : String} {l : Lexeme} (h : isWord word (some l)) : ¬ isSign sign (some l) := by
  obtain ⟨token, span⟩ := l
  cases token with
  | word => simp [isSign]
  | _ => cases h

/-! ## Statements -/

/-- One turn of the loop: a semicolon, the end of the text, or a statement. -/
theorem statements_cons (p : Parser Statement) (fuel : Nat) (ended : Bool) (l : Lexeme) (rest : List Lexeme) :
    statements p (fuel + 1) ended (l :: rest) =
      if isSign ";" (some l) then statements p fuel false rest
      else if ended && isWord "END" (some l) then .ok ([], l :: rest)
      else if ended then expected "end of statement" (some l) (l :: rest)
      else (p >>= fun s => statements p fuel true >>= fun ss => pure (s :: ss)) (l :: rest) := by
  rw [statements, run_bind_ok (a := some l) (r := l :: rest) rfl]
  dsimp only
  rw [run_bind, acceptSign_cons]
  have hsign : isSign ";" (some l) = (l.token == .sign ";") := rfl
  rw [hsign]
  cases l.token == .sign ";" with
  | true => rfl
  | false =>
    cases ended with
    | false => rfl
    | true => cases isWord "END" (some l) <;> rfl

/-- The statements of a text are read from its tokens. -/
theorem parseStatements_eq {dialect : Dialect} {text : String} {ls : List Lexeme} (hlex : lexemes dialect text = .ok ls) :
    parseStatements dialect text =
      match statements (grammar dialect maxDepth).statement (2 * ls.length + 1) false ls with
      | .ok (found, _) => .ok found
      | .error fault => .error (fault.failure ls) := by
  unfold parseStatements
  rw [tokensOf, hlex]
  rfl

/-- An expression is read from the tokens of its text, and no token is left. -/
theorem parseExpr_eq {dialect : Dialect} {text : String} {ls : List Lexeme} (hlex : lexemes dialect text = .ok ls) :
    parseExpr dialect text =
      match (grammar dialect maxDepth).expr 0 ls with
      | .ok (e, []) => .ok e
      | .ok (_, l :: _) =>
        .error (.error ⟨"Expected: end of expression, found: " ++ l.token.display, some l.span.start⟩)
      | .error fault => .error (fault.failure ls) := by
  unfold parseExpr
  rw [tokensOf, hlex]
  rfl

end SqlTemplate.Sql.Parser
