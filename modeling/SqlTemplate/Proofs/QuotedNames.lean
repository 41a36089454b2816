import SqlTemplate.Proofs.Quoted

/-!
# Names between quotes

A key that cannot stand as it is becomes a name between quotes, in which quotes are doubled and nothing else is changed.
A reader that takes two quotes for one finds the key again. For one that lets a backslash take the next character along,
as it does in text literals, a backslash of the key may take a quote along, and it never stands for itself.

* `readsBack_iff_paired`: the name ends at its closing quote just if no quote is behind an odd number of backslashes.
* `length_unescaped_lt`: a name with a backslash means fewer characters than the key has.
* `quoted_key_read_back_iff`: which keys are read back.
-/

namespace SqlTemplate.Sql

variable {q c d : Char} {cs rest : List Char}

theorem doubleQuotes_quote (q : Char) (cs : List Char) : doubleQuotes q (q :: cs) = q :: q :: doubleQuotes q cs := by
  simp [doubleQuotes]

theorem doubleQuotes_other (hc : c ≠ q) (cs : List Char) : doubleQuotes q (c :: cs) = c :: doubleQuotes q cs := by
  simp [doubleQuotes, hc]

/-! ## Where a name ends -/

/-- A name whose quotes were doubled ends at its closing quote, although a backslash takes the next character along. -/
def ReadsBack (q : Char) (cs rest : List Char) : Prop :=
  readQuoted q true (doubleQuotes q cs ++ q :: rest) = some (doubleQuotes q cs, rest)

theorem map_cons_eq_some {r : Option (List Char × List Char)} {text : List Char} :
    (r.map fun (text, after) => (c :: text, after)) = some (c :: text, rest) ↔ r = some (text, rest) := by
  cases r <;> simp [Prod.ext_iff]

theorem map_cons_cons_eq_some {r : Option (List Char × List Char)} {text : List Char} :
    (r.map fun (text, after) => (c :: d :: text, after)) = some (c :: d :: text, rest) ↔ r = some (text, rest) := by
  cases r <;> simp [Prod.ext_iff]

theorem readsBack_nil (hrest : rest.head? ≠ some q) : ReadsBack q [] rest := by
  cases rest with
  | nil => simp [ReadsBack, doubleQuotes, readQuoted]
  | cons d rest =>
    have hd : d ≠ q := by simpa using hrest
    simp [ReadsBack, doubleQuotes, readQuoted, hd]

/-- Anything but a backslash is passed by. -/
theorem readsBack_cons (hc : c ≠ '\\') : ReadsBack q (c :: cs) rest ↔ ReadsBack q cs rest := by
  unfold ReadsBack
  by_cases hq : c = q
  · subst hq
    rw [doubleQuotes_quote, List.cons_append, List.cons_append, readQuoted, if_pos rfl, if_pos rfl,
      map_cons_cons_eq_some]
  · rw [doubleQuotes_other hq, List.cons_append]
    cases hs : doubleQuotes q cs ++ q :: rest with
    | nil => simp at hs
    | cons d more => rw [readQuoted, if_neg hq, if_neg (by simpa using hc), map_cons_eq_some]

/-- A backslash takes a character along that is no quote. -/
theorem readsBack_backslash (hq : q ≠ '\\') (hd : d ≠ q) :
    ReadsBack q ('\\' :: d :: cs) rest ↔ ReadsBack q cs rest := by
  unfold ReadsBack
  rw [doubleQuotes_other hq.symm, doubleQuotes_other hd, List.cons_append, List.cons_append, readQuoted,
    if_neg hq.symm, if_pos (by rfl), map_cons_cons_eq_some]

/-- Behind one quote that was taken along, the others are paired with the wrong ones up to the closing one. -/
theorem readQuoted_unpaired (cs : List Char) :
    readQuoted q true (q :: (doubleQuotes q cs ++ q :: rest)) ≠ some (q :: doubleQuotes q cs, rest) := by
  induction cs with
  | nil =>
    intro h
    rw [show doubleQuotes q [] = [] from rfl, List.nil_append, readQuoted, if_pos rfl, if_pos rfl] at h
    obtain ⟨⟨text, after⟩, -, h⟩ := Option.map_eq_some_iff.1 h
    cases h
  | cons c cs ih =>
    by_cases hc : c = q
    · subst hc
      rw [doubleQuotes_quote, List.cons_append, List.cons_append, readQuoted, if_pos rfl, if_pos rfl, ne_eq,
        map_cons_cons_eq_some]
      exact ih
    · rw [doubleQuotes_other hc, List.cons_append, readQuoted, if_pos rfl, if_neg hc]
      simp

theorem not_readsBack_quote (hq : q ≠ '\\') : ¬ ReadsBack q ('\\' :: q :: cs) rest := by
  unfold ReadsBack
  rw [doubleQuotes_other hq.symm, doubleQuotes_quote, List.cons_append, List.cons_append, List.cons_append, readQuoted,
    if_neg hq.symm, if_pos (by rfl), map_cons_cons_eq_some]
  exact readQuoted_unpaired cs

theorem not_readsBack_end (hq : q ≠ '\\') : ¬ ReadsBack q ['\\'] rest := by
  unfold ReadsBack
  rw [doubleQuotes_other hq.symm, show doubleQuotes q [] = [] from rfl, List.cons_append, List.nil_append, readQuoted,
    if_neg hq.symm, if_pos (by rfl)]
  intro h
  obtain ⟨⟨text, after⟩, -, h⟩ := Option.map_eq_some_iff.1 h
  cases h

/-- With how many backslashes a text ends, if it stands behind `n` of them. -/
def backslashes (n : Nat) (cs : List Char) : Nat := cs.foldl (fun n c => if c = '\\' then n + 1 else 0) n

/-- Behind `n` backslashes and a part of the text comes no quote, and the text does not end, where the number of
backslashes is odd. -/
def Paired (q : Char) (n : Nat) (cs : List Char) : Prop :=
  ∀ before after, cs = before ++ after → (∀ c, after.head? = some c → c = q) → backslashes n before % 2 = 0

theorem paired_nil {n : Nat} : Paired q n [] ↔ n % 2 = 0 := by
  constructor
  · exact fun h => h [] [] rfl (by simp)
  · intro h before after hsplit _
    obtain ⟨rfl, rfl⟩ := List.append_eq_nil_iff.1 hsplit.symm
    exact h

theorem paired_cons {n : Nat} :
    Paired q n (c :: cs) ↔ (c = q → n % 2 = 0) ∧ Paired q (if c = '\\' then n + 1 else 0) cs := by
  constructor
  · intro h
    refine ⟨fun hc => h [] (c :: cs) rfl (by simp [hc]), fun before after hsplit hafter => ?_⟩
    exact h (c :: before) after (by rw [hsplit, List.cons_append]) hafter
  · rintro ⟨hc, h⟩ before after hsplit hafter
    cases before with
    | nil =>
      obtain rfl : after = c :: cs := hsplit.symm
      exact hc (hafter c rfl)
    | cons b before =>
      cases hsplit
      exact h before after rfl hafter

/-- Two backslashes more make no difference. -/
theorem paired_add_two {n : Nat} : Paired q (n + 2) cs ↔ Paired q n cs := by
  induction cs generalizing n with
  | nil =>
    rw [paired_nil, paired_nil]
    omega
  | cons c cs ih =>
    rw [paired_cons, paired_cons, Nat.add_mod_right]
    split
    · rw [Nat.add_right_comm, ih]
    · rfl

/-- A name ends at its closing quote just if no quote is behind an odd number of backslashes. -/
theorem readsBack_iff_paired (hq : q ≠ '\\') (hrest : rest.head? ≠ some q) :
    ∀ cs : List Char, ReadsBack q cs rest ↔ Paired q 0 cs
  | [] => iff_of_true (readsBack_nil hrest) (paired_nil.2 rfl)
  | [c] => by
    by_cases hc : c = '\\'
    · subst hc
      refine iff_of_false (not_readsBack_end hq) fun h => ?_
      exact absurd (paired_nil.1 (paired_cons.1 h).2) (by decide)
    · rw [readsBack_cons hc, paired_cons, if_neg hc, readsBack_iff_paired hq hrest []]
      simp
  | c :: d :: cs => by
    by_cases hc : c = '\\'
    · subst hc
      rw [paired_cons, paired_cons, if_pos rfl, Nat.zero_add]
      by_cases hd : d = q
      · subst hd
        refine iff_of_false (not_readsBack_quote hq) fun h => ?_
        exact absurd (h.2.1 rfl) (by decide)
      · have hpaired : Paired q (if d = '\\' then 1 + 1 else 0) cs ↔ Paired q 0 cs := by
          split
          · exact paired_add_two
          · rfl
        rw [readsBack_backslash hq hd, hpaired, readsBack_iff_paired hq hrest cs]
        simp [hq.symm, hd]
    · rw [readsBack_cons hc, paired_cons, if_neg hc, readsBack_iff_paired hq hrest (d :: cs)]
      simp

/-! ## What a name means -/

/-- One character more means one character more at most, and never fewer. -/
theorem length_undoubled_cons (q c : Char) (cs : List Char) :
    (undoubled q cs).length ≤ (undoubled q (c :: cs)).length ∧
      (undoubled q (c :: cs)).length ≤ (undoubled q cs).length + 1 := by
  induction cs generalizing c with
  | nil => simp [undoubled]
  | cons d cs ih =>
    obtain ⟨hless, hmore⟩ := ih d
    rw [undoubled]
    split
    · -- the second quote of a pair means nothing of its own
      rw [List.length_cons]
      omega
    · rw [List.length_cons]
      omega

/-- What a backslash and the characters behind it stand for, and how many characters it takes along besides the next
one. -/
abbrev EscapeRule := Char → List Char → Char × Nat

/-- The characters that a held name means, where the first `skip` of them were taken along: two quotes are one, and a
backslash goes by a rule. -/
def unescaped (q : Char) (rule : EscapeRule) : (skip : Nat) → List Char → List Char
  | _, [] => []
  | skip + 1, _ :: cs => unescaped q rule skip cs
  | 0, [c] => [c]
  | 0, c :: d :: cs =>
    if c = q ∧ d = q then c :: unescaped q rule 0 cs
    else if c = '\\' then (rule d cs).1 :: unescaped q rule (rule d cs).2 cs
    else c :: unescaped q rule 0 (d :: cs)

variable {rule : EscapeRule}

theorem unescaped_other (hq : c ≠ q) (hc : c ≠ '\\') (cs : List Char) :
    unescaped q rule 0 (c :: cs) = c :: unescaped q rule 0 cs := by
  cases cs with
  | nil => rfl
  | cons d cs => rw [unescaped, if_neg fun h => hq h.1, if_neg hc]

theorem unescaped_quote (cs : List Char) : unescaped q rule 0 (q :: q :: cs) = q :: unescaped q rule 0 cs := by
  rw [unescaped, if_pos ⟨rfl, rfl⟩]

theorem unescaped_backslash (hq : q ≠ '\\') (d : Char) (cs : List Char) :
    unescaped q rule 0 ('\\' :: d :: cs) = (rule d cs).1 :: unescaped q rule (rule d cs).2 cs := by
  rw [unescaped, if_neg fun h => hq h.1.symm, if_pos rfl]

variable (rule)

/-- A backslash and the characters that it takes along stand for one character, so that a held name means no more
characters than it does without escapes. -/
theorem length_unescaped_le (skip : Nat) (cs : List Char) :
    (unescaped q rule skip cs).length ≤ (undoubled q cs).length := by
  fun_induction unescaped q rule skip cs with
  | case1 => exact Nat.zero_le _
  | case2 skip c cs ih => exact Nat.le_trans ih (length_undoubled_cons q c cs).1
  | case3 => exact Nat.le_refl _
  | case4 c d cs hquotes ih =>
    rw [undoubled, if_pos hquotes]
    exact Nat.succ_le_succ ih
  | case5 d cs hquotes ih =>
    rw [undoubled, if_neg hquotes]
    exact Nat.succ_le_succ (Nat.le_trans ih (length_undoubled_cons q d cs).1)
  | case6 c d cs hquotes _ ih =>
    rw [undoubled, if_neg hquotes]
    exact Nat.succ_le_succ ih

/-- A name that ends at its closing quote and has a backslash means fewer characters than the key has. -/
theorem length_unescaped_lt (hq : q ≠ '\\') (h : ReadsBack q cs rest) (hmem : '\\' ∈ cs) :
    (unescaped q rule 0 (doubleQuotes q cs)).length < cs.length := by
  induction cs with
  | nil => cases hmem
  | cons c cs ih =>
    by_cases hb : c = '\\'
    · subst hb
      cases cs with
      | nil => exact absurd h (not_readsBack_end hq)
      | cons d cs =>
        have hd : d ≠ q := by
          rintro rfl
          exact not_readsBack_quote hq h
        have hmore := length_unescaped_le (q := q) rule (rule d (doubleQuotes q cs)).2 (doubleQuotes q cs)
        rw [undoubled_doubleQuotes] at hmore
        rw [doubleQuotes_other hq.symm, doubleQuotes_other hd, unescaped_backslash hq, List.length_cons,
          List.length_cons, List.length_cons]
        omega
    · have hless := ih ((readsBack_cons hb).1 h) ((List.mem_cons.1 hmem).resolve_left (Ne.symm hb))
      by_cases hc : c = q
      · subst hc
        rw [doubleQuotes_quote, unescaped_quote, List.length_cons, List.length_cons]
        exact Nat.succ_lt_succ hless
      · rw [doubleQuotes_other hc, unescaped_other hc hb, List.length_cons, List.length_cons]
        exact Nat.succ_lt_succ hless

/-- A name without backslashes ends at its closing quote and means the key. -/
theorem readsBack_of_no_backslash (hrest : rest.head? ≠ some q) (hmem : '\\' ∉ cs) :
    ReadsBack q cs rest ∧ unescaped q rule 0 (doubleQuotes q cs) = cs := by
  induction cs with
  | nil => exact ⟨readsBack_nil hrest, rfl⟩
  | cons c cs ih =>
    obtain ⟨hb, hmem⟩ := not_or.1 (mt List.mem_cons.2 hmem)
    obtain ⟨hreads, hmeans⟩ := ih hmem
    refine ⟨(readsBack_cons (Ne.symm hb)).2 hreads, ?_⟩
    by_cases hc : c = q
    · subst hc
      rw [doubleQuotes_quote, unescaped_quote, hmeans]
    · rw [doubleQuotes_other hc, unescaped_other hc (Ne.symm hb), hmeans]

/-- Reads a name behind its opening quote: what it means, and what follows its closing quote. -/
def readName (q : Char) (rule : EscapeRule) (cs : List Char) : Option (List Char × List Char) :=
  (readQuoted q true cs).map fun (held, rest) => (unescaped q rule 0 held, rest)

/-- A key is read back just if it has no backslash. -/
theorem readName_iff (hq : q ≠ '\\') (hrest : rest.head? ≠ some q) :
    readName q rule (doubleQuotes q cs ++ q :: rest) = some (cs, rest) ↔ '\\' ∉ cs := by
  constructor
  · intro h hmem
    obtain ⟨⟨held, after⟩, hread, hname⟩ := Option.map_eq_some_iff.1 h
    obtain ⟨hmeans, rfl⟩ := Prod.mk.inj hname
    obtain rfl := List.append_cancel_right (eq_append_of_readQuoted hread)
    have hless := length_unescaped_lt rule hq hread hmem
    rw [hmeans] at hless
    exact Nat.lt_irrefl _ hless
  · intro hmem
    obtain ⟨hreads, hmeans⟩ := readsBack_of_no_backslash rule hrest hmem
    rw [readName, hreads, Option.map_some]
    simp only [hmeans]

end SqlTemplate.Sql

namespace SqlTemplate

open Sql Macro

/-- **Keys between quotes.** In front of any text that does not start with a quote, a key that is quoted where
backslashes escape ends at its closing quote just if in the key neither a quote nor the end is behind an odd number of
backslashes, and it is read back just if it has no backslash at all, whatever a backslash and the characters behind it
stand for. -/
theorem quoted_key_read_back_iff {key : String} (hne : key ≠ "") (hquoted : isPlainKey key = false)
    (rule : EscapeRule) {rest : List Char} (hrest : rest.head? ≠ some '\x60') :
    ∃ held, quoteKey .clickHouse key = .ok (String.ofList ('\x60' :: held ++ ['\x60'])) ∧
      (readQuoted '\x60' true (held ++ '\x60' :: rest) = some (held, rest) ↔ Paired '\x60' 0 key.toList) ∧
      (readName '\x60' rule (held ++ '\x60' :: rest) = some (key.toList, rest) ↔ '\\' ∉ key.toList) := by
  refine ⟨doubleQuotes '\x60' key.toList, quoteKey_of_quoted .clickHouse hne hquoted, ?_, ?_⟩
  · exact readsBack_iff_paired (by decide) hrest key.toList
  · exact readName_iff rule (by decide) hrest

/-- The escapes of text literals: the number of a character in two digits, the letters of control characters, and any
other character for itself. -/
def literalEscape : EscapeRule
  | 'x', a :: b :: _ =>
    if isHexDigit a && isHexDigit b then (Char.ofNat (16 * hexValue a + hexValue b), 2) else ('x', 0)
  | c, _ => (escapedChar c, 0)

/-- A backslash at the end of a key takes the closing quote along. -/
theorem last_backslash_not_read_back :
    "a\\" ≠ "" ∧ isPlainKey "a\\" = false ∧
      ∃ held, quoteKey .clickHouse "a\\" = .ok (String.ofList ('\x60' :: held ++ ['\x60'])) ∧
        readQuoted '\x60' true (held ++ ['\x60']) ≠ some (held, []) ∧
        readName '\x60' literalEscape (held ++ ['\x60']) ≠ some ("a\\".toList, []) := by
  have hne : "a\\" ≠ "" := by decide
  have hquoted : isPlainKey "a\\" = false := by decide +kernel
  have hrest : ([] : List Char).head? ≠ some '\x60' := by decide
  obtain ⟨held, hkey, hends, hread⟩ := quoted_key_read_back_iff hne hquoted literalEscape hrest
  refine ⟨hne, hquoted, held, hkey, mt hends.1 fun hpaired => ?_, mt hread.1 fun hnone => hnone (by decide)⟩
  exact absurd (hpaired "a\\".toList [] (List.append_nil _).symm (by simp)) (by decide)

end SqlTemplate
