import SqlTemplate.Macro.Predicate
import SqlTemplate.Sql.Lexer

/-!
# Quoting and reading back

What is held between quotes is what `readQuoted` found there, so writing it between quotes again gives the same
characters (`quotedBody_of_readQuoted`), and reading these finds it again in front of any text that does not start with
the quote (`readQuoted_extend`).

* `readQuoted_doubled`: a text whose quotes are doubled ends at the quote behind it.
* `undoubled_doubleQuotes`: what is found there means the text.
* `readQuoted_literal`: so does a value that is written as a text literal of its dialect.
* `literalValue_held`: the value of that literal is the value that was written.
-/

namespace SqlTemplate.Sql

/-- Reading stops at the same quote in front of any text that does not go on with a quote. -/
theorem readQuoted_extend {q : Char} {escapes : Bool} {cs text : List Char}
    (h : readQuoted q escapes cs = some (text, [])) {rest : List Char} (hr : rest.head? ≠ some q) :
    readQuoted q escapes (cs ++ rest) = some (text, rest) := by
  fun_induction readQuoted q escapes cs generalizing text with
  | case1 => simp at h
  | case2 =>
    simp only [Option.some.injEq, Prod.mk.injEq] at h
    obtain ⟨rfl, -⟩ := h
    cases rest with
    | nil => simp [readQuoted]
    | cons d rest => simp_all [readQuoted]
  | case3 => simp at h
  | case4 rest' ih =>
    simp only [Option.map_eq_some_iff, Prod.mk.injEq] at h
    obtain ⟨⟨text', after⟩, h₁, rfl, rfl⟩ := h
    simp [readQuoted, ih h₁]
  | case5 => simp at h
  | case6 c d rest' hc he ih =>
    simp only [Option.map_eq_some_iff, Prod.mk.injEq] at h
    obtain ⟨⟨text', after⟩, h₁, rfl, rfl⟩ := h
    simp [readQuoted, hc, he, ih h₁]
  | case7 c d rest' hc he ih =>
    simp only [Option.map_eq_some_iff, Prod.mk.injEq] at h
    obtain ⟨⟨text', after⟩, h₁, rfl, rfl⟩ := h
    have := ih h₁
    simp_all [readQuoted]

/-- What was found, the closing quote and what follows it are the characters that were read. -/
theorem eq_append_of_readQuoted {q : Char} {escapes : Bool} {cs text rest : List Char}
    (h : readQuoted q escapes cs = some (text, rest)) : cs = text ++ q :: rest := by
  fun_induction readQuoted q escapes cs generalizing text rest with
  | case1 => cases h
  | case2 => cases h; rfl
  | case3 => cases h
  | case4 rest' ih =>
    obtain ⟨⟨text', after⟩, h₁, h₂⟩ := Option.map_eq_some_iff.1 h
    cases h₂
    rw [ih h₁, List.cons_append, List.cons_append]
  | case5 => cases h; rfl
  | case6 c d rest' _ _ ih =>
    obtain ⟨⟨text', after⟩, h₁, h₂⟩ := Option.map_eq_some_iff.1 h
    cases h₂
    rw [ih h₁, List.cons_append, List.cons_append]
  | case7 c d rest' _ _ ih =>
    obtain ⟨⟨text', after⟩, h₁, h₂⟩ := Option.map_eq_some_iff.1 h
    cases h₂
    rw [ih h₁, List.cons_append]

theorem quotedBody_other {q c : Char} (hc : c ≠ q) (previous : Char) (cs : List Char) :
    quotedBody q previous (c :: cs) = c :: quotedBody q c cs := by
  cases cs <;> exact if_neg hc

theorem quotedBody_escaped (q : Char) (cs : List Char) : quotedBody q '\\' (q :: cs) = q :: quotedBody q '\\' cs := by
  cases cs <;> exact (if_pos rfl).trans (if_pos rfl)

theorem quotedBody_doubled {q previous : Char} (hp : previous ≠ '\\') (cs : List Char) :
    quotedBody q previous (q :: q :: cs) = q :: q :: quotedBody q q cs :=
  (if_pos rfl).trans ((if_neg hp).trans (if_pos rfl))

/-- What was found between quotes is written between quotes as it was found. -/
theorem quotedBody_of_readQuoted {q : Char} {escapes : Bool} {cs text rest : List Char}
    (h : readQuoted q escapes cs = some (text, rest)) (previous : Char) : quotedBody q previous text = text := by
  fun_induction readQuoted q escapes cs generalizing text rest previous with
  | case1 => simp at h
  | case2 => simp_all [quotedBody]
  | case3 => simp at h
  | case4 rest' ih =>
    simp only [Option.map_eq_some_iff, Prod.mk.injEq] at h
    obtain ⟨⟨text', after⟩, h₁, rfl, rfl⟩ := h
    by_cases hp : previous = '\\'
    · rw [hp, quotedBody_escaped, quotedBody_escaped, ih h₁]
    · rw [quotedBody_doubled hp, ih h₁]
  | case5 => simp_all [quotedBody]
  | case6 c d rest' hc he ih =>
    simp only [Option.map_eq_some_iff, Prod.mk.injEq] at h
    obtain ⟨⟨text', after⟩, h₁, rfl, rfl⟩ := h
    obtain ⟨-, rfl⟩ : escapes = true ∧ c = '\\' := by simpa using he
    rw [quotedBody_other hc]
    -- the character behind a backslash may be a quote, and then stands alone
    by_cases hd : d = q
    · rw [hd, quotedBody_escaped, ih h₁]
    · rw [quotedBody_other hd, ih h₁]
  | case7 c d rest' hc he ih =>
    simp only [Option.map_eq_some_iff, Prod.mk.injEq] at h
    obtain ⟨⟨text', after⟩, h₁, rfl, rfl⟩ := h
    rw [quotedBody_other hc, ih h₁]

/-- A text whose quotes are doubled ends at the quote behind it. -/
theorem readQuoted_doubled {q : Char} (cs : List Char) :
    readQuoted q false (doubleQuotes q cs ++ [q]) = some (doubleQuotes q cs, []) := by
  induction cs with
  | nil => simp [doubleQuotes, readQuoted]
  | cons c cs ih =>
    by_cases hc : c = q
    · subst hc
      simpa [doubleQuotes, readQuoted] using ih
    · have hd : doubleQuotes q (c :: cs) = c :: doubleQuotes q cs := by simp [doubleQuotes, hc]
      rw [hd, List.cons_append]
      cases hs : doubleQuotes q cs ++ [q] with
      | nil => simp at hs
      | cons d rest =>
        rw [hs] at ih
        simp [readQuoted, hc, ih]

/-- Held text between quotes as it is meant: two quotes are one. -/
def undoubled (quote : Char) : List Char → List Char
  | [] => []
  | [c] => [c]
  | c :: d :: rest =>
    if c = quote ∧ d = quote then c :: undoubled quote rest else c :: undoubled quote (d :: rest)

theorem undoubled_cons {quote c : Char} (hc : c ≠ quote) (cs : List Char) :
    undoubled quote (c :: cs) = c :: undoubled quote cs := by
  cases cs with
  | nil => rfl
  | cons d rest => rw [undoubled, if_neg fun h => hc h.1]

/-- A text whose quotes were doubled means the text. -/
theorem undoubled_doubleQuotes (quote : Char) (cs : List Char) : undoubled quote (doubleQuotes quote cs) = cs := by
  induction cs with
  | nil => rfl
  | cons c cs ih =>
    rw [doubleQuotes, List.flatMap_cons]
    by_cases hc : c = quote
    · rw [if_pos hc, List.cons_append, List.singleton_append, undoubled, if_pos ⟨hc, hc⟩]
      exact congrArg (c :: ·) ih
    · rw [if_neg hc, List.singleton_append, undoubled_cons hc]
      exact congrArg (c :: ·) ih

/-- A key that does not read as a column is written between quotes, with its own ones doubled. -/
theorem quoteKey_of_quoted (dialect : Dialect) {key : String} (hne : key ≠ "")
    (hquoted : Macro.isPlainKey key = false) :
    Macro.quoteKey dialect key = .ok (String.ofList (Macro.nameQuote dialect ::
      doubleQuotes (Macro.nameQuote dialect) key.toList ++ [Macro.nameQuote dialect])) := by
  have hempty : ¬ key.isEmpty = true := by rwa [String.isEmpty_iff]
  rw [Macro.quoteKey, if_neg hempty, hquoted]
  rfl

/-- The text that is held of a value between the quotes of a literal. -/
def heldLiteral (dialect : Dialect) (value : String) : String :=
  String.ofList (value.toList.flatMap (Macro.literalChar dialect))

/-- What a character stands for behind a backslash. -/
def escapedChar : Char → Char
  | 'a' => '\x07'
  | 'b' => '\x08'
  | 'f' => '\x0c'
  | 'n' => '\n'
  | 'r' => '\r'
  | 't' => '\t'
  | 'v' => '\x0b'
  | '0' => '\x00'
  | c => c

/-- The characters that a held text literal means: two quotes are one, and where `escapes` holds, a backslash and the
character behind it are one. -/
def literalChars (escapes : Bool) : List Char → List Char
  | [] => []
  | [c] => [c]
  | c :: d :: rest =>
    if c = '\'' ∧ d = '\'' then c :: literalChars escapes rest
    else if escapes && c == '\\' then escapedChar d :: literalChars escapes rest
    else c :: literalChars escapes (d :: rest)

/-- The value that a held text literal means in a dialect. -/
def literalValue (dialect : Dialect) (held : String) : String :=
  String.ofList (literalChars dialect.hasBackslashEscapes held.toList)

/-- A value in a literal of its dialect ends at the quote behind it. -/
theorem readQuoted_literal (dialect : Dialect) (cs : List Char) :
    readQuoted '\'' dialect.hasBackslashEscapes (cs.flatMap (Macro.literalChar dialect) ++ ['\'']) =
      some (cs.flatMap (Macro.literalChar dialect), []) := by
  induction cs with
  | nil => simp [readQuoted]
  | cons c cs ih =>
    rw [List.flatMap_cons, List.append_assoc]
    cases hs : cs.flatMap (Macro.literalChar dialect) ++ ['\''] with
    | nil => simp at hs
    | cons d rest =>
      rw [hs] at ih
      by_cases hc : c = '\''
      · simp [Macro.literalChar, hc, readQuoted, ih]
      · by_cases hb : c = '\\' ∧ dialect.hasBackslashEscapes
        · obtain ⟨rfl, hb⟩ := hb
          simp [Macro.literalChar, hb, readQuoted] at ih ⊢
          simp [ih]
        · simp only [Macro.literalChar, if_neg hc, if_neg hb, List.cons_append, List.nil_append]
          have he : ¬ (dialect.hasBackslashEscapes && c == '\\') = true := by
            simpa [and_comm] using hb
          rw [readQuoted, if_neg hc, if_neg he, ih]
          rfl

/-- The literal of a value means the value. -/
theorem literalValue_held (dialect : Dialect) (value : String) :
    literalValue dialect (heldLiteral dialect value) = value := by
  have key : ∀ cs : List Char,
      literalChars dialect.hasBackslashEscapes (cs.flatMap (Macro.literalChar dialect)) = cs := by
    intro cs
    induction cs with
    | nil => rfl
    | cons c cs ih =>
      rw [List.flatMap_cons]
      by_cases hc : c = '\''
      · simp [Macro.literalChar, hc, literalChars, ih]
      · by_cases hb : c = '\\' ∧ dialect.hasBackslashEscapes
        · obtain ⟨rfl, hb⟩ := hb
          simp only [Macro.literalChar, hb] at ih ⊢
          simp [literalChars, escapedChar, ih]
        · simp only [Macro.literalChar, if_neg hc, if_neg hb, List.cons_append, List.nil_append]
          cases hs : cs.flatMap (Macro.literalChar dialect) with
          | nil => simp_all [literalChars]
          | cons d rest =>
            have he : ¬ (dialect.hasBackslashEscapes && c == '\\') = true := by
              simpa [and_comm] using hb
            rw [literalChars, if_neg (fun h => hc h.1), if_neg he, ← hs, ih]
  rw [literalValue, heldLiteral, String.toList_ofList, key, String.ofList_toList]

end SqlTemplate.Sql
