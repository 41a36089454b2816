import SqlTemplate.Proofs.Positions

/-!
# Tokens on lines of their own

A token is read in the same way if another line stands behind the text. A comment and a carriage return at its end take
the newline along, which changes no token; a mark such as `@` takes along what follows it, be it a newline. So the
tokens of two texts on lines of their own are those of the first one and, that many lines further down, those of the
second.

* `GoesOn`, `Scans`: what is read in front of more; one lemma for each reader and scanner.
* `scanToken_line`: a token in front of another line.
* `Lexes`: the tokens that characters are read as, from a location on; `lexemes_eq_ok_iff`.
* `lexemes_line`, `lexemes_sequence`: the tokens of two texts, also with a semicolon between them.
-/

namespace SqlTemplate

namespace Sql

/-- What is read from the front of a text is read in front of more, too, if it is read at all. -/
def GoesOn {α : Type} (more : List Char) (x y : Option (α × List Char)) : Prop :=
  ∀ a r, x = some (a, r) → y = some (a, r ++ more)

section

variable {α β : Type} {more : List Char}

theorem goesOn_none (y : Option (α × List Char)) : GoesOn more none y := by
  intro _ _ h
  cases h

theorem goesOn_some (a : α) (rest : List Char) : GoesOn more (some (a, rest)) (some (a, rest ++ more)) := by
  rintro _ _ ⟨⟩
  rfl

theorem goesOn_map (o : Option α) (rest : List Char) :
    GoesOn more (o.map (·, rest)) (o.map (·, rest ++ more)) := by
  cases o with
  | none => exact goesOn_none _
  | some a => exact goesOn_some a rest

theorem GoesOn.map {x y : Option (α × List Char)} (h : GoesOn more x y) (f : α → β) :
    GoesOn more (x.map fun (a, r) => (f a, r)) (y.map fun (a, r) => (f a, r)) := by
  intro b r hb
  obtain ⟨⟨a, r⟩, ha, hr⟩ := Option.map_eq_some_iff.1 hb
  cases hr
  rw [h a _ ha]
  rfl

end

section

variable {quote : Char} {cs more : List Char}

theorem takeWhile_line {p : Char → Bool} (hp : p '\n' = false) (cs more : List Char) :
    (cs ++ '\n' :: more).takeWhile p = cs.takeWhile p ∧
      (cs ++ '\n' :: more).dropWhile p = cs.dropWhile p ++ '\n' :: more := by
  induction cs with
  | nil => simp [hp]
  | cons c cs ih =>
    by_cases hc : p c = true
    · simp [hc, ih]
    · simp [hc]

/-- The newline is no quote, so it does not double the closing one. -/
theorem readQuoted_line (hquote : quote ≠ '\n') (escapes : Bool) (cs : List Char) :
    GoesOn ('\n' :: more) (readQuoted quote escapes cs) (readQuoted quote escapes (cs ++ '\n' :: more)) := by
  fun_induction readQuoted quote escapes cs with
  | case1 => exact goesOn_none _
  | case2 =>
    rintro _ _ ⟨⟩
    simp [readQuoted, hquote.symm]
  | case3 => exact goesOn_none _
  | case4 rest ih => simpa [readQuoted] using ih.map fun text => quote :: quote :: text
  | case5 d rest hne =>
    rintro _ _ ⟨⟩
    simp [readQuoted, hne]
  | case6 c d rest hc he ih => simpa [readQuoted, hc, he] using ih.map fun text => c :: d :: text
  | case7 c d rest hc he ih => simpa [readQuoted, hc, he] using ih.map fun text => c :: text

theorem readTripled_line (run : Nat) (cs : List Char) :
    GoesOn more (readTripled quote run cs) (readTripled quote run (cs ++ more)) := by
  fun_induction readTripled quote run cs with
  | case1 => exact goesOn_none _
  | case2 =>
    rintro _ _ ⟨⟩
    simp [readTripled]
  | case3 run cs hrun ih => simpa [readTripled, hrun] using ih.map fun text => quote :: text
  | case4 run c cs hc ih => simpa [readTripled, hc] using ih.map fun text => c :: text

theorem codePoint?_line (count : Nat) (cs : List Char) :
    GoesOn more (codePoint? count cs) (codePoint? count (cs ++ more)) := by
  intro a r h
  unfold codePoint? at h ⊢
  dsimp only at h ⊢
  split at h
  · rename_i hlength
    have hcount : count ≤ cs.length := by
      rw [List.length_take] at hlength
      omega
    rw [List.take_append_of_le_length hcount, List.drop_append_of_le_length hcount, if_pos hlength]
    cases hnumber : hexNumber? (cs.take count) with
    | none => rw [hnumber] at h; cases h
    | some n =>
      cases hscalar : scalar? n with
      | none => simp [hnumber, hscalar] at h
      | some c =>
        simp only [hnumber, hscalar, Option.bind_eq_bind, Option.bind_some, pure, Option.some.injEq,
          Prod.mk.injEq] at h ⊢
        exact ⟨h.1, by rw [h.2]⟩
  · cases h

theorem takeWhile_take_line {p : Char → Bool} (hp : p '\n' = false) (count : Nat) (cs more : List Char) :
    ((cs ++ '\n' :: more).take count).takeWhile p = (cs.take count).takeWhile p := by
  rw [List.take_append]
  cases count - cs.length with
  | zero => simp
  | succ n => exact (takeWhile_line hp _ _).1

theorem takeDigits_line {isPart : Char → Bool} (hp : isPart '\n' = false) (count : Nat) (cs : List Char) :
    takeDigits isPart count (cs ++ '\n' :: more) =
      ((takeDigits isPart count cs).1, (takeDigits isPart count cs).2 ++ '\n' :: more) := by
  have hle : ((cs.take count).takeWhile isPart).length ≤ cs.length :=
    Nat.le_trans (List.takeWhile_sublist _).length_le (List.length_take_le' _ _)
  simp only [takeDigits, takeWhile_take_line hp]
  rw [List.drop_append_of_le_length hle]

theorem escapeValue?_line (c : Char) (cs : List Char) :
    GoesOn ('\n' :: more) (escapeValue? c cs) (escapeValue? c (cs ++ '\n' :: more)) := by
  unfold escapeValue?
  split
  case h_6 => exact codePoint?_line 4 cs
  case h_7 => exact codePoint?_line 8 cs
  case h_8 =>
    rw [takeDigits_line (by decide)]
    dsimp only
    split
    · exact goesOn_some _ _
    · exact goesOn_map _ _
  case h_9 =>
    split
    · rw [takeDigits_line (by decide)]
      exact goesOn_map _ _
    · exact goesOn_some _ _
  all_goals exact goesOn_some _ _

/-- The fuel of a loop that had enough of it is at least one. -/
theorem exists_fuel {fuel fuel' : Nat} (h : fuel + 1 ≤ fuel') : ∃ n, fuel' = n + 1 ∧ fuel ≤ n :=
  ⟨fuel' - 1, by omega, by omega⟩

theorem readEscaped_line {fuel fuel' : Nat} (hfuel : fuel ≤ fuel') (cs : List Char) :
    GoesOn ('\n' :: more) (readEscaped fuel cs) (readEscaped fuel' (cs ++ '\n' :: more)) := by
  fun_induction readEscaped fuel cs generalizing fuel' with
  | case1 => exact goesOn_none _
  | case2 => exact goesOn_none _
  | case3 fuel rest ih =>
    obtain ⟨fuel', rfl, hle⟩ := exists_fuel hfuel
    simpa [readEscaped] using (ih hle).map fun text => '\'' :: text
  | case4 fuel rest hne =>
    obtain ⟨fuel', rfl, -⟩ := exists_fuel hfuel
    rintro _ _ ⟨⟩
    cases rest <;> simp_all [readEscaped]
  | case5 => exact goesOn_none _
  | case6 => exact goesOn_none _
  | case7 => exact goesOn_none _
  | case8 fuel c rest value after hvalue hne ih =>
    obtain ⟨fuel', rfl, hle⟩ := exists_fuel hfuel
    simpa [readEscaped, escapeValue?_line c rest _ _ hvalue, hne] using (ih hle).map fun text => value :: text
  | case9 fuel c rest hdoubled hquote hlone hescape ih =>
    obtain ⟨fuel', rfl, hle⟩ := exists_fuel hfuel
    have hbackslash : c ≠ '\\' := by
      rintro rfl
      cases rest with
      | nil => exact hlone rfl rfl
      | cons d rest => exact hescape d rest rfl rfl
    have hquote : c ≠ '\'' := hquote
    simpa [readEscaped, hquote, hbackslash] using (ih hle).map fun text => c :: text

theorem readDollarString_line (pending : Bool) (cs : List Char) :
    GoesOn more (readDollarString pending cs) (readDollarString pending (cs ++ more)) := by
  fun_induction readDollarString pending cs with
  | case1 => exact goesOn_none _
  | case2 cs =>
    rintro _ _ ⟨⟩
    simp [readDollarString]
  | case3 c cs hc ih => simpa [readDollarString, hc] using ih.map fun text => '$' :: c :: text
  | case4 cs pending hpending ih => simpa [readDollarString, hpending] using ih
  | case5 pending c cs hpending hc ih => simpa [readDollarString, hpending, hc] using ih.map fun text => c :: text

theorem readTagged_line (tag : List Char) (search : TagSearch) (cs : List Char) :
    GoesOn more (readTagged tag search cs) (readTagged tag search (cs ++ more)) := by
  fun_induction readTagged tag search cs with
  | case1 => exact goesOn_none _
  | case2 cs ih => simpa [readTagged] using ih
  | case3 c cs hc ih => simpa [readTagged, hc] using ih.map fun text => c :: text
  | case4 seen expected c cs ih => simpa [readTagged] using ih
  | case5 seen e expected c cs hc ih => simpa [readTagged, hc] using ih.map fun text => seen ++ c :: text
  | case6 seen c =>
    rintro _ _ ⟨⟩
    simp [readTagged]
  | case7 seen c cs hc ih => simpa [readTagged, hc] using ih.map fun text => seen ++ c :: text

end

/-! ## Tokens -/

/-- What is scanned from the front of a text is scanned in front of more, too, if there is no error. -/
def Scans {α ε : Type} (more : List Char) (x y : Except ε (α × List Char)) : Prop :=
  ∀ a r, x = .ok (a, r) → y = .ok (a, r ++ more)

section

variable {dialect : Dialect} {c quote : Char} {cs more : List Char}

theorem scans_error {α ε : Type} (e : ε) (y : Except ε (α × List Char)) : Scans more (.error e) y := by
  intro _ _ h
  cases h

theorem Scans.bind {α β ε : Type} {x y : Except ε (α × List Char)}
    {f g : α × List Char → Except ε (β × List Char)} (h : Scans more x y)
    (hf : ∀ a r, Scans more (f (a, r)) (g (a, r ++ more))) : Scans more (x >>= f) (y >>= g) := by
  intro b r hb
  cases x with
  | error => cases hb
  | ok ar =>
    obtain ⟨a, r'⟩ := ar
    rw [h a r' rfl]
    exact hf a r' b r hb

/-- A text that is read is the text of a token; without it there is an error. -/
theorem scans_of_goesOn {x y : Option (List Char × List Char)} (f : List Char → Token)
    {e e' : LexError × List Char} : GoesOn more x y →
    Scans more (match x with | some (text, rest) => .ok (f text, rest) | none => .error e : ScanResult)
      (match y with | some (text, rest) => .ok (f text, rest) | none => .error e' : ScanResult) := by
  intro h
  cases x with
  | none => exact scans_error _ _
  | some read =>
    rintro _ _ ⟨⟩
    rw [h read.1 read.2 rfl]

theorem readHexDigits_line (count value : Nat) (cs : List Char) :
    Scans more (readHexDigits count value cs) (readHexDigits count value (cs ++ more)) := by
  fun_induction readHexDigits count value cs with
  | case1 value cs =>
    rintro _ _ ⟨⟩
    simp [readHexDigits]
  | case2 => exact scans_error _ _
  | case3 value count c cs hc ih => simpa [readHexDigits, hc] using ih
  | case4 => exact scans_error _ _

theorem readCodePoint_line (count : Nat) (cs : List Char) :
    Scans more (readCodePoint count cs) (readCodePoint count (cs ++ more)) := by
  refine (readHexDigits_line count 0 cs).bind fun n r => ?_
  dsimp only
  split
  · rintro _ _ ⟨⟩
    rfl
  · exact scans_error _ _

theorem readUnicode_line {fuel fuel' : Nat} (hfuel : fuel ≤ fuel') (cs : List Char) :
    Scans ('\n' :: more) (readUnicode fuel cs) (readUnicode fuel' (cs ++ '\n' :: more)) := by
  have hput {c : Char} {x y : Except (CodePointError × List Char) (List Char × List Char)}
      (h : Scans ('\n' :: more) x y) :
      Scans ('\n' :: more) (x >>= fun read => pure (c :: read.1, read.2))
        (y >>= fun read => pure (c :: read.1, read.2)) :=
    h.bind fun text after => by rintro _ _ ⟨⟩; rfl
  fun_induction readUnicode fuel cs generalizing fuel' with
  | case1 => exact scans_error _ _
  | case2 => exact scans_error _ _
  | case3 fuel rest ih =>
    obtain ⟨fuel', rfl, hle⟩ := exists_fuel hfuel
    exact hput (ih hle)
  | case4 fuel rest hne =>
    obtain ⟨fuel', rfl, -⟩ := exists_fuel hfuel
    rintro _ _ ⟨⟩
    cases rest <;> simp_all [readUnicode]
  | case5 fuel rest ih =>
    obtain ⟨fuel', rfl, hle⟩ := exists_fuel hfuel
    exact hput (ih hle)
  | case6 fuel rest ih =>
    obtain ⟨fuel', rfl, hle⟩ := exists_fuel hfuel
    exact (readCodePoint_line 6 rest).bind fun c r => hput (ih r hle)
  | case7 fuel rest hbackslash hplus ih =>
    obtain ⟨fuel', rfl, hle⟩ := exists_fuel hfuel
    have hread : readUnicode (fuel' + 1) ('\\' :: rest ++ '\n' :: more) =
        (readCodePoint 4 (rest ++ '\n' :: more) >>= fun point =>
          readUnicode fuel' point.2 >>= fun read => pure (point.1 :: read.1, read.2)) := by
      cases rest with
      | nil => rfl
      | cons d rest =>
        have hd : d ≠ '\\' := fun h => hbackslash rest (by rw [h])
        have hd' : d ≠ '+' := fun h => hplus rest (by rw [h])
        simp [readUnicode, hd, hd']
    rw [hread]
    exact (readCodePoint_line 4 rest).bind fun c r => hput (ih r hle)
  | case8 fuel c rest hdoubled hquote htwice hplus hbackslash ih =>
    obtain ⟨fuel', rfl, hle⟩ := exists_fuel hfuel
    have hread : readUnicode (fuel' + 1) (c :: rest ++ '\n' :: more) =
        (readUnicode fuel' (rest ++ '\n' :: more) >>= fun read => pure (c :: read.1, read.2)) := by
      have hquote : c ≠ '\'' := hquote
      have hbackslash : c ≠ '\\' := hbackslash
      simp [readUnicode, hquote, hbackslash]
    rw [hread]
    exact hput (ih hle)

theorem skipComment_line (depth : Nat) (previous : Char) (cs : List Char) :
    Scans more (skipComment depth previous cs) (skipComment depth previous (cs ++ more)) := by
  fun_induction skipComment depth previous cs with
  | case1 => exact scans_error _ _
  | case2 depth previous c cs hopen ih => simpa [skipComment, hopen] using ih
  | case3 depth previous c cs hopen hclose hdepth =>
    rintro _ _ ⟨⟩
    simp_all [skipComment]
  | case4 depth previous c cs hopen hclose hdepth ih => simpa [skipComment, hopen, hclose, hdepth] using ih
  | case5 depth previous c cs hopen hclose ih => simpa [skipComment, hopen, hclose] using ih

theorem scanWord_line (start : List Char) :
    Scans ('\n' :: more) (scanWord dialect start cs) (scanWord dialect start (cs ++ '\n' :: more)) := by
  rintro _ _ ⟨⟩
  have hpart : dialect.isWordPart '\n' = false := by cases dialect <;> decide
  obtain ⟨htake, hdrop⟩ := takeWhile_line hpart cs more
  rw [scanWord, htake, hdrop]

theorem scanString_line (kind : StringKind) (hquote : quote ≠ '\n') (escapes : Bool) (c : Char) :
    Scans ('\n' :: more) (scanString kind quote escapes (c :: cs))
      (scanString kind quote escapes (c :: cs ++ '\n' :: more)) :=
  scans_of_goesOn (fun text => .string kind (String.ofList text)) (readQuoted_line hquote escapes cs)

theorem scanQuotedWord_line (hquote : quote ≠ '\n') (c : Char) :
    Scans ('\n' :: more) (scanQuotedWord quote (c :: cs)) (scanQuotedWord quote (c :: cs ++ '\n' :: more)) :=
  scans_of_goesOn (fun text => .word (String.ofList text) (some quote)) (readQuoted_line hquote false cs)

theorem scanEscaped_line (c d : Char) :
    Scans ('\n' :: more) (scanEscaped (c :: d :: cs)) (scanEscaped (c :: d :: cs ++ '\n' :: more)) := by
  have hfuel : (c :: d :: cs).length ≤ (c :: d :: cs ++ '\n' :: more).length := by simp
  exact scans_of_goesOn (fun text => .string .escaped (String.ofList text)) (readEscaped_line hfuel cs)

theorem scanUnicode_line : Scans ('\n' :: more) (scanUnicode cs) (scanUnicode (cs ++ '\n' :: more)) := by
  unfold scanUnicode
  intro a r h
  split at h
  · rename_i heq
    cases h
    have hfuel : cs.length + 1 ≤ (cs ++ '\n' :: more).length + 1 := by simp
    rw [readUnicode_line hfuel cs _ _ heq]
  · cases h

theorem scanRaw_line (hquote : quote ≠ '\n') (c : Char) :
    Scans ('\n' :: more) (scanRaw quote (c :: cs)) (scanRaw quote (c :: cs ++ '\n' :: more)) := by
  have hp : ('\n' == quote) = false := beq_false_of_ne hquote.symm
  unfold scanRaw
  rw [takeWhile_take_line hp]
  split
  · exact scans_of_goesOn (fun text => .string (.raw quote false) (String.ofList text))
      (readQuoted_line hquote false cs)
  · rename_i hlength
    cases cs with
    | nil =>
      have hle := (List.takeWhile_sublist (fun x => x == quote) (l := [c].take 3)).length_le
      rw [hlength] at hle
      simp at hle
    | cons d cs =>
      rintro _ _ ⟨⟩
      rfl
  · match cs with
    | d :: e :: cs =>
      exact scans_of_goesOn (fun text => .string (.raw quote true) (String.ofList text.dropLast.dropLast))
        (readTripled_line 0 cs)
    | [] => exact scans_error _ _
    | [_] => exact scans_error _ _

/-- Whether a sign comes next does not depend on what stands on the line behind. -/
theorem dropStart?_line {start : List Char} (hstart : '\n' ∉ start) (cs : List Char) :
    dropStart? start (cs ++ '\n' :: more) = (dropStart? start cs).map (· ++ '\n' :: more) := by
  fun_induction dropStart? start cs with
  | case1 => rfl
  | case2 p ps =>
    have hp : p ≠ '\n' := fun h => hstart (h ▸ List.mem_cons_self)
    simp [dropStart?, hp]
  | case3 ps c cs ih => simpa [dropStart?] using ih (fun h => hstart (List.mem_cons_of_mem _ h))
  | case4 p ps c cs hne => simp [dropStart?, hne]

theorem firstSign?_line {signs : List (String × String)} (hsigns : ∀ s ∈ signs, '\n' ∉ s.1.toList)
    (cs : List Char) :
    firstSign? signs (cs ++ '\n' :: more) = (firstSign? signs cs).map fun (t, r) => (t, r ++ '\n' :: more) := by
  induction signs with
  | nil => rfl
  | cons sign signs ih =>
    obtain ⟨hsign, hsigns⟩ := List.forall_mem_cons.1 hsigns
    rw [firstSign?, firstSign?, dropStart?_line hsign]
    cases dropStart? sign.1.toList cs with
    | none => exact ih hsigns
    | some rest => rfl

theorem longSigns_line : ∀ s ∈ longSigns, '\n' ∉ s.1.toList := by decide

theorem scanSign_line : Scans ('\n' :: more) (scanSign c cs) (scanSign c (cs ++ '\n' :: more)) := by
  unfold scanSign
  rw [← List.cons_append, firstSign?_line longSigns_line]
  cases firstSign? longSigns (c :: cs) with
  | none => rintro _ _ ⟨⟩; rfl
  | some => rintro _ _ ⟨⟩; rfl

/-- The signs that take along what stands behind them, be it the end of the line. -/
def Token.IsMark (t : Token) : Prop := t = .sign "@" ∨ t = .sign "#" ∨ t = .sign "@@"

theorem scanMarked_line (hc : c = '#' ∨ c = '@') {t : Token} {r : List Char} (hmark : r = [] → ¬ t.IsMark)
    (h : scanMarked c cs = .ok (t, r)) : scanMarked c (cs ++ '\n' :: more) = .ok (t, r ++ '\n' :: more) := by
  have hword {start : Char} {before : List Char} {rest : List Char} {kept : Token}
      (h : (if start = ' ' then .ok (kept, start :: rest)
        else scanWord .generic before rest : ScanResult) = .ok (t, r)) :
      (if start = ' ' then .ok (kept, start :: (rest ++ '\n' :: more))
        else scanWord .generic before (rest ++ '\n' :: more) : ScanResult) = .ok (t, r ++ '\n' :: more) := by
    split at h
    · cases h
      rw [if_pos ‹_›]
      rfl
    · rw [if_neg ‹_›]
      exact scanWord_line before _ _ h
  unfold scanMarked at h ⊢
  rw [← List.cons_append, firstSign?_line longSigns_line]
  cases hsign : firstSign? longSigns (c :: cs) with
  | none =>
    rw [hsign] at h
    cases cs with
    | nil =>
      cases h
      rcases hc with rfl | rfl
      · exact absurd (.inr (.inl rfl)) (hmark rfl)
      · exact absurd (.inl rfl) (hmark rfl)
    | cons d rest => exact hword h
  | some result =>
    obtain ⟨kept, rest⟩ := result
    rw [hsign] at h
    by_cases hkept : kept = .sign "@@"
    · subst hkept
      cases rest with
      | nil =>
        cases h
        exact absurd (.inr (.inr rfl)) (hmark rfl)
      | cons d rest => exact hword h
    · simp only [Option.map_some]
      split at h
      · rename_i heq
        exact absurd (Prod.mk.inj (Option.some.inj heq)).1 hkept
      · rename_i heq
        cases heq
        cases h
        split
        · rename_i heq
          exact absurd (Prod.mk.inj (Option.some.inj heq)).1 hkept
        · rename_i heq
          cases heq
          rfl
        · rename_i heq
          cases heq
      · rename_i heq
        cases heq

/-- The exponent of a number is not longer for a line behind it. -/
theorem scanExponent_line (cs : List Char) :
    scanExponent (cs ++ '\n' :: more) = ((scanExponent cs).1, (scanExponent cs).2 ++ '\n' :: more) := by
  have hdigit : Char.isDigit '\n' = false := by decide
  cases cs with
  | nil => simp [scanExponent]
  | cons e rest =>
    simp only [scanExponent, List.cons_append]
    split
    · cases rest with
      | nil => simp [hdigit]
      | cons s rest =>
        simp only [List.cons_append]
        split
        · simp only [takeWhile_line hdigit rest more]
          split <;> rfl
        · simp only [← List.cons_append, takeWhile_line hdigit (s :: rest) more]
          split <;> rfl
    · rfl

/-- A number behind its point, or behind its whole part if it has no point. -/
def scanFraction (whole point cs : List Char) : ScanResult :=
  if whole.isEmpty && (cs.takeWhile Char.isDigit).isEmpty then .ok (.sign ".", cs.dropWhile Char.isDigit)
  else
    let (exponent, rest) := scanExponent (cs.dropWhile Char.isDigit)
    let text := String.ofList (whole ++ point ++ cs.takeWhile Char.isDigit ++ exponent)
    match rest with
    | 'L' :: rest => .ok (.number text true, rest)
    | _ => .ok (.number text false, rest)

theorem scanNumber_eq (cs : List Char) :
    scanNumber cs =
      if cs.takeWhile Char.isDigit = ['0'] ∧ (cs.dropWhile Char.isDigit).head? = some 'x' then
        .ok (.string .hex (String.ofList (((cs.dropWhile Char.isDigit).drop 1).takeWhile isHexDigit)),
          ((cs.dropWhile Char.isDigit).drop 1).dropWhile isHexDigit)
      else if (cs.dropWhile Char.isDigit).head? = some '.' then
        scanFraction (cs.takeWhile Char.isDigit) ['.'] ((cs.dropWhile Char.isDigit).drop 1)
      else scanFraction (cs.takeWhile Char.isDigit) [] (cs.dropWhile Char.isDigit) := by
  unfold scanNumber
  dsimp only
  generalize cs.takeWhile Char.isDigit = whole
  generalize cs.dropWhile Char.isDigit = after
  split
  · rw [if_pos ⟨rfl, rfl⟩]
    rfl
  · rename_i hne
    have hhex : ¬ (whole = ['0'] ∧ after.head? = some 'x') := fun ⟨hwhole, hx⟩ =>
      let ⟨rest, hrest⟩ := List.head?_eq_some_iff.1 hx
      hne rest hwhole hrest
    rw [if_neg hhex]
    by_cases hpoint : after.head? = some '.'
    · obtain ⟨rest, rfl⟩ := List.head?_eq_some_iff.1 hpoint
      rfl
    · rw [if_neg hpoint]
      split
      · exact absurd rfl hpoint
      · rfl

theorem scanFraction_line (whole point : List Char) :
    Scans ('\n' :: more) (scanFraction whole point cs) (scanFraction whole point (cs ++ '\n' :: more)) := by
  have hdigit : Char.isDigit '\n' = false := by decide
  intro t r h
  simp only [scanFraction, takeWhile_line hdigit cs more, scanExponent_line] at h ⊢
  generalize scanExponent (cs.dropWhile Char.isDigit) = read at h ⊢
  obtain ⟨exponent, rest⟩ := read
  split at h
  · rw [if_pos ‹_›]
    cases h
    rfl
  · rw [if_neg ‹_›]
    dsimp only at h ⊢
    rcases rest with _ | ⟨d, rest⟩
    · cases h
      rfl
    · by_cases hd : d = 'L'
      · subst hd
        cases h
        rfl
      · split at h
        · exact absurd (List.head_eq_of_cons_eq ‹_›) hd
        · cases h
          split
          · exact absurd (List.head_eq_of_cons_eq ‹_›) hd
          · rfl

theorem scanNumber_line : Scans ('\n' :: more) (scanNumber cs) (scanNumber (cs ++ '\n' :: more)) := by
  have hdigit : Char.isDigit '\n' = false := by decide
  have hhex : isHexDigit '\n' = false := by decide
  rw [scanNumber_eq, scanNumber_eq, (takeWhile_line hdigit cs more).1, (takeWhile_line hdigit cs more).2]
  generalize cs.takeWhile Char.isDigit = whole
  generalize cs.dropWhile Char.isDigit = after
  rcases after with _ | ⟨d, after⟩
  · have hnil : Scans ('\n' :: more) (scanFraction whole [] []) (scanFraction whole [] ('\n' :: more)) :=
      scanFraction_line whole []
    simpa using hnil
  · simp only [List.cons_append, List.head?_cons, List.drop_succ_cons, List.drop_zero, takeWhile_line hhex after more]
    split
    · rintro _ _ ⟨⟩
      rfl
    · split
      · exact scanFraction_line _ _
      · exact scanFraction_line _ _

theorem scanDollar_line : Scans ('\n' :: more) (scanDollar cs) (scanDollar (cs ++ '\n' :: more)) := by
  have hname (cs : List Char) :=
    takeWhile_line (p := fun c => Text.isLetterOrDigit c || c == '_') (by decide) cs more
  rcases cs with _ | ⟨d, rest⟩
  · rintro _ _ ⟨⟩
    have hnil := hname []
    simp only [List.nil_append] at hnil
    simp only [scanDollar, List.nil_append, hnil]
    rfl
  by_cases hd : d = '$'
  · subst hd
    exact scans_of_goesOn (fun text => .string (.dollar "") (String.ofList text)) (readDollarString_line false rest)
  unfold scanDollar
  split
  · exact absurd (List.head_eq_of_cons_eq ‹_›) hd
  split
  · exact absurd (List.head_eq_of_cons_eq ‹_›) hd
  simp only [hname]
  generalize (d :: rest).takeWhile _ = name
  generalize (d :: rest).dropWhile _ = after
  rcases after with _ | ⟨e, after⟩
  · rintro _ _ ⟨⟩
    rfl
  by_cases he : e = '$'
  · subst he
    exact scans_of_goesOn (fun text => .string (.dollar (String.ofList name)) (String.ofList text))
      (readTagged_line name .text after)
  · split
    · exact absurd (List.head_eq_of_cons_eq ‹_›) he
    · split
      · exact absurd (List.head_eq_of_cons_eq ‹_›) he
      · rintro _ _ ⟨⟩
        rfl

/-- A letter marks a literal or not, whatever stands on the line behind. -/
theorem scanMarkedString?_line : Option.Rel (Scans ('\n' :: more)) (scanMarkedString? dialect c cs)
    (scanMarkedString? dialect c (cs ++ '\n' :: more)) := by
  unfold scanMarkedString?
  dsimp only
  generalize c.toLower = lower
  split
  · exact .some (scanString_line _ (by decide) _ _)
  · exact .some (scanString_line _ (by decide) _ _)
  · exact .some (scanEscaped_line _ _)
  · simp only [List.cons_append]
    split
    · rename_i h
      exact .some (scanString_line _ (by rcases h.2 with rfl | rfl <;> decide) _ _)
    · exact .none
  · simp only [List.cons_append]
    split
    · rename_i h
      exact .some (scanRaw_line (by rcases h.2 with rfl | rfl <;> decide) _)
    · exact .none
  · simp only [List.cons_append]
    split
    · exact .some scanUnicode_line
    · exact .none
  · rename_i hn hx he hb hr hu
    rcases cs with _ | ⟨d, rest⟩
    · rw [List.nil_append]
      split
      case h_4 | h_5 =>
        rename_i heq
        cases heq
        rw [if_neg (by simp)]
        exact .none
      all_goals first | exact .none | rename_i heq; cases heq
    · rw [List.cons_append]
      split
      case h_7 => exact .none
      case h_6 =>
        rename_i heq
        cases rest with
        | nil => cases heq
        | cons e rest =>
          cases heq
          exact (hu _ rfl rfl).elim
      all_goals
        rename_i heq
        cases heq
      · exact (hn _ rfl rfl).elim
      · exact (hx _ rfl rfl).elim
      · exact (he _ rfl rfl).elim
      · exact (hb _ _ rfl rfl).elim
      · exact (hr _ _ rfl rfl).elim

/-- **A token in front of another line.** A mark at the end of the text is left out: it would take the newline along. So
do a comment and a carriage return, but they are no tokens of the text. -/
theorem scanToken_line {t : Token} {r : List Char} (hmark : dialect = .generic → r = [] → ¬ t.IsMark)
    (h : scanToken dialect c cs = .ok (t, r)) :
    scanToken dialect c (cs ++ '\n' :: more) = .ok (t, r ++ '\n' :: more) ∨
      t = .blank ∧ r = [] ∧ scanToken dialect c (cs ++ '\n' :: more) = .ok (.blank, more) := by
  unfold scanToken at h ⊢
  have hliteral : Option.Rel (Scans ('\n' :: more)) (scanMarkedString? dialect c cs)
      (scanMarkedString? dialect c (cs ++ '\n' :: more)) := scanMarkedString?_line
  generalize scanMarkedString? dialect c cs = x at h hliteral
  generalize scanMarkedString? dialect c (cs ++ '\n' :: more) = y at hliteral ⊢
  cases hliteral with
  | some hscans => exact .inl (hscans _ _ h)
  | none =>
    dsimp only at h ⊢
    split at h
    · cases h
      exact .inl rfl
    · exact .inl (scanString_line .single (by decide) _ _ _ _ h)
    · exact .inl (scanQuotedWord_line (by decide) _ _ _ h)
    · exact .inl (scanQuotedWord_line (by decide) _ _ _ h)
    · exact .inl (scanNumber_line _ _ h)
    · rename_i rest
      simp only [List.cons_append, List.dropWhile_append]
      cases hafter : rest.dropWhile (· != '\n') with
      | nil =>
        rw [hafter] at h
        cases h
        exact .inr ⟨rfl, rfl, rfl⟩
      | cons d after =>
        rw [hafter] at h
        cases h
        exact .inl rfl
    · exact .inl (skipComment_line 1 ' ' _ _ _ h)
    · exact .inl (scanDollar_line _ _ h)
    · cases h
      have hnumber : Text.isNumber '\n' = false := by decide
      simp only [takeWhile_line hnumber cs more, true_or]
    · rename_i hsingle hdouble hback hpoint hdollar hquestion hreturn hminus hslash
      split
      · rename_i heq
        rcases cs with _ | ⟨d, cs⟩
        · cases heq
          cases dialect <;> cases h <;> exact .inr ⟨rfl, rfl, rfl⟩
        · cases heq
          exact (hreturn cs rfl rfl).elim
      · exact (hsingle rfl).elim
      · exact (hdouble rfl).elim
      · exact (hback rfl).elim
      · exact (hpoint rfl).elim
      · rename_i heq
        rcases cs with _ | ⟨d, cs⟩ <;> cases heq
        exact (hminus cs rfl rfl).elim
      · rename_i heq
        rcases cs with _ | ⟨d, cs⟩ <;> cases heq
        exact (hslash cs rfl rfl).elim
      · exact (hdollar rfl).elim
      · exact (hquestion rfl).elim
      · left
        split at h
        · rw [if_pos ‹_›]
          exact scanNumber_line _ _ h
        rw [if_neg ‹_›]
        split at h
        · rename_i hgeneric
          rw [if_pos hgeneric]
          exact scanMarked_line hgeneric.2 (hmark hgeneric.1) h
        rw [if_neg ‹_›]
        split at h
        · rename_i hdouble
          obtain ⟨rest, rfl⟩ := List.head?_eq_some_iff.1 hdouble.2.2
          cases h
          rw [if_pos (by simp [hdouble])]
          rfl
        · rename_i hdouble
          rw [if_neg (by cases cs <;> simp_all)]
          split at h
          · rw [if_pos ‹_›]
            exact scanWord_line _ _ _ h
          rw [if_neg ‹_›]
          split at h
          · cases h
            rw [if_pos ‹_›]
          · rw [if_neg ‹_›]
            exact scanSign_line _ _ h

end

/-! ## Texts -/

section

variable {dialect : Dialect} {start : Text.Location} {cs more : List Char} {ts us : List Lexeme}

/-- The characters that stand behind a location are read as tokens. -/
inductive Lexes (dialect : Dialect) : (start : Text.Location) → List Char → List Lexeme → Prop
  | nil {start : Text.Location} : Lexes dialect start [] []
  | token {start : Text.Location} {c : Char} {cs text rest : List Char} {t : Token} {ts : List Lexeme}
      (hscan : scanToken dialect c cs = .ok (t, rest)) (hcs : c :: cs = text ++ rest)
      (h : Lexes dialect (start.after text) rest ts) :
    Lexes dialect start (c :: cs) ([⟨t.promote, ⟨start, start.after text⟩⟩].filter (·.token != .blank) ++ ts)

theorem Lexes.eq_nil (h : Lexes dialect start [] ts) : ts = [] := by
  cases h
  rfl

theorem lexes_of_scanAll {fuel : Nat} {pieces : List Piece} (hfuel : cs.length ≤ fuel)
    (h : scanAll dialect fuel cs = .ok pieces) :
    Lexes dialect start cs ((place start pieces).filter (·.token != .blank)) := by
  induction fuel generalizing start cs pieces with
  | zero =>
    obtain rfl := List.length_eq_zero_iff.1 (Nat.le_zero.1 hfuel)
    cases h
    exact .nil
  | succ fuel ih =>
    cases cs with
    | nil =>
      cases h
      exact .nil
    | cons c cs =>
      obtain ⟨t, text, rest, pieces, hscan, hpieces, rfl, hcs⟩ := scanAll_eq_ok h
      have hrest : rest.length ≤ fuel :=
        Nat.le_trans (scanToken_leaves.ok hscan).length_le (Nat.le_of_succ_le_succ hfuel)
      have hlexes : Lexes dialect start (c :: cs) _ := .token hscan hcs (ih hrest hpieces)
      rwa [← List.filter_append] at hlexes

theorem Lexes.exists_scanAll {fuel : Nat} (h : Lexes dialect start cs ts) (hfuel : cs.length ≤ fuel) :
    ∃ pieces, scanAll dialect fuel cs = .ok pieces ∧ (place start pieces).filter (·.token != .blank) = ts := by
  induction h generalizing fuel with
  | nil => exact ⟨[], by cases fuel <;> rfl, rfl⟩
  | @token start c cs text rest t ts hscan hcs _ ih =>
    obtain ⟨fuel, rfl, hfuel⟩ := exists_fuel hfuel
    have hrest := (scanToken_leaves.ok hscan).length_le
    obtain ⟨pieces, hpieces, rfl⟩ := ih (Nat.le_trans hrest (Nat.le_of_succ_le_succ hfuel))
    have htext : (c :: cs).take (cs.length + 1 - rest.length) = text := by
      rw [← List.length_cons, hcs, List.length_append, Nat.add_sub_cancel, List.take_left]
    refine ⟨⟨t, text⟩ :: pieces, ?_, ?_⟩
    · rw [scanAll, hscan]
      simp only [bind, Except.bind, hpieces, htext, pure, Except.pure]
    · rw [place, ← List.singleton_append, List.filter_append]

/-- The tokens of a text. -/
theorem lexemes_eq_ok_iff {text : String} : lexemes dialect text = .ok ts ↔ Lexes dialect .first text.toList ts := by
  constructor
  · intro h
    unfold lexemes at h
    dsimp only at h
    split at h
    · cases h
      exact lexes_of_scanAll (Nat.le_refl _) ‹_›
    · cases h
  · intro h
    obtain ⟨pieces, hpieces, rfl⟩ := h.exists_scanAll (Nat.le_refl _)
    unfold lexemes
    dsimp only
    rw [scan, hpieces]

/-- The tokens of a line and of what stands below it. -/
theorem Lexes.line (h : Lexes dialect start cs ts)
    (hmark : dialect = .generic → ∀ l ∈ ts.getLast?, ¬ l.token.IsMark)
    (hmore : Lexes dialect (start.after (cs ++ ['\n'])) more us) :
    Lexes dialect start (cs ++ '\n' :: more) (ts ++ us) := by
  induction h with
  | nil =>
    have hscan : scanToken dialect '\n' more = .ok (.blank, more) := by cases dialect <;> rfl
    have hcs : '\n' :: more = ['\n'] ++ more := rfl
    exact .token hscan hcs hmore
  | @token start c cs text rest t ts hscan hcs h ih =>
    have hlast : dialect = .generic → rest = [] → ¬ t.IsMark := by
      rintro hgeneric rfl ht
      obtain rfl := h.eq_nil
      refine hmark hgeneric ⟨t, ⟨start, start.after text⟩⟩ ?_ ht
      rcases ht with rfl | rfl | rfl <;> rfl
    have hline : scanToken dialect c (cs ++ '\n' :: more) = .ok (t, rest ++ '\n' :: more) ∨
        t = .blank ∧ rest = [] ∧ scanToken dialect c (cs ++ '\n' :: more) = .ok (.blank, more) :=
      scanToken_line hlast hscan
    rcases hline with hline | ⟨rfl, rfl, hline⟩
    · have hcs' : c :: (cs ++ '\n' :: more) = text ++ (rest ++ '\n' :: more) := by
        rw [← List.cons_append, hcs, List.append_assoc]
      rw [List.append_assoc]
      refine .token hline hcs' (ih (fun hgeneric l hl => hmark hgeneric l ?_) ?_)
      · rw [List.getLast?_append, Option.mem_def.1 hl]
        exact rfl
      · rw [← Text.Location.after_append, ← List.append_assoc, ← hcs]
        exact hmore
    · obtain rfl := h.eq_nil
      have hcs' : c :: (cs ++ '\n' :: more) = (c :: cs ++ ['\n']) ++ more := by simp
      exact .token hline hcs' hmore

end

end Sql

/-! ## Below other lines -/

namespace Text

/-- The location some lines below. -/
def Location.down (lines : Nat) (at_ : Location) : Location := ⟨at_.line + lines, at_.column⟩

/-- The number of the lines of a text. -/
def lines (text : String) : Nat := text.toList.count '\n' + 1

theorem after_down (lines : Nat) (at_ : Location) (cs : List Char) :
    (at_.down lines).after cs = (at_.after cs).down lines := by
  induction cs generalizing at_ with
  | nil => rfl
  | cons c cs ih =>
    have hnext : (at_.down lines).next c = (at_.next c).down lines := by
      unfold Location.next
      split
      · simp [Location.down]
        omega
      · rfl
    rw [Location.after_cons, Location.after_cons, hnext, ih]

theorem line_after (at_ : Location) (cs : List Char) : (at_.after cs).line = at_.line + cs.count '\n' := by
  induction cs generalizing at_ with
  | nil => rfl
  | cons c cs ih =>
    rw [Location.after_cons, ih, List.count_cons, Location.next]
    by_cases hc : c = '\n' <;> simp [hc]
    omega

/-- Behind a text and a newline starts the line below the text. -/
theorem after_lines (text : String) :
    Location.first.after (text.toList ++ ['\n']) = Location.first.down (lines text) := by
  have hline := line_after Location.first text.toList
  rw [Location.after_append, Location.after_cons, Location.after_nil, Location.next, if_pos rfl, hline]
  simp [Location.down, Location.first, lines]
  omega

end Text

namespace Sql

/-- A token some lines below. -/
def Lexeme.down (lines : Nat) (l : Lexeme) : Lexeme := ⟨l.token, ⟨l.span.start.down lines, l.span.stop.down lines⟩⟩

section

variable {dialect : Dialect} {start : Text.Location} {cs : List Char} {ts us : List Lexeme}

theorem Lexes.down (lines : Nat) (h : Lexes dialect start cs ts) :
    Lexes dialect (start.down lines) cs (ts.map (Lexeme.down lines)) := by
  induction h with
  | nil => exact .nil
  | @token start c cs text rest t ts hscan hcs h ih =>
    rw [← Text.after_down] at ih
    have hline := Lexes.token hscan hcs ih
    rw [Text.after_down] at hline
    have hmap (l : Lexeme) : ([l].filter (·.token != .blank)).map (Lexeme.down lines) =
        [l.down lines].filter (·.token != .blank) := by
      cases hblank : l.token != .blank <;> simp [hblank, Lexeme.down]
    rw [List.map_append, hmap]
    exact hline

/-- The tokens of two texts on lines of their own. -/
theorem lexemes_line {a b : String} (ha : lexemes dialect a = .ok ts) (hb : lexemes dialect b = .ok us)
    (hmark : dialect = .generic → ∀ l ∈ ts.getLast?, ¬ l.token.IsMark) :
    lexemes dialect (a ++ "\n" ++ b) = .ok (ts ++ us.map (Lexeme.down (Text.lines a))) := by
  rw [lexemes_eq_ok_iff] at ha hb ⊢
  have htext : (a ++ "\n" ++ b).toList = a.toList ++ '\n' :: b.toList := by simp
  rw [htext]
  refine ha.line hmark ?_
  rw [Text.after_lines]
  exact hb.down _

/-- The semicolon as a text of its own. -/
def semicolon : Lexeme := ⟨.sign ";", ⟨⟨1, 1⟩, ⟨1, 2⟩⟩⟩

theorem lexemes_semicolon : lexemes dialect ";" = .ok [semicolon] := by
  cases dialect <;> rfl

/-- The tokens of two texts with a semicolon on a line between them. -/
theorem lexemes_sequence {a b : String} (ha : lexemes dialect a = .ok ts) (hb : lexemes dialect b = .ok us)
    (hmark : dialect = .generic → ∀ l ∈ ts.getLast?, ¬ l.token.IsMark) :
    lexemes dialect (a ++ "\n;\n" ++ b) =
      .ok (ts ++ semicolon.down (Text.lines a) :: us.map (Lexeme.down (Text.lines a + 1))) := by
  have hsemicolon : ¬ semicolon.token.IsMark := by unfold Token.IsMark; decide
  have hbehind := lexemes_line lexemes_semicolon hb fun _ l hl => by cases hl; exact hsemicolon
  have htext : a ++ "\n;\n" ++ b = a ++ "\n" ++ (";" ++ "\n" ++ b) := by
    apply String.toList_injective
    simp
  have htwice (n : Nat) (l : Lexeme) : (l.down 1).down n = l.down (n + 1) := by
    simp only [Lexeme.down, Text.Location.down, Nat.add_assoc, Nat.add_comm 1]
  rw [htext, lexemes_line ha hbehind hmark, List.map_append, List.map_map, show Text.lines ";" = 1 from rfl]
  simp only [Function.comp_def, htwice]
  rfl

end

end Sql

end SqlTemplate
