import SqlTemplate.Sql.Lexer

/-!
# Where the words of a text stand

The pieces of a text put together are the text, so that a token stands where the pieces before it end. A location counts
lines and columns, and going back from it gives the number of the characters before it. A macro is spelled by a piece of
its own: its name never lies within a text literal, a name in quotes or a comment.

* `offset?_after`: going back from the location behind some characters.
* `within_after`: that location lies in the text.
* `spelled_scanAll`: the pieces of a text are all of it.
* `scanToken_cut`: the shapes of tokens.
* `within_of_mem_lexemes`: the tokens of a text stand in it.
* `macro_standsAt`: where the word of a macro stands.
-/

namespace SqlTemplate

/-! ## Locations -/

namespace Text

open Location

/-- Lines above do not matter for what comes behind. -/
theorem after_line (line column : Nat) (cs : List Char) :
    after ⟨line + 1, column⟩ cs = ⟨(after ⟨line, column⟩ cs).line + 1, (after ⟨line, column⟩ cs).column⟩ := by
  induction cs generalizing line column with
  | nil => rfl
  | cons c cs ih =>
    rw [after_cons, after_cons]
    by_cases hc : c = '\n' <;> simp [next, hc, ih]

/-- Characters in front matter for the columns of the same line only. -/
theorem after_column (line column : Nat) (cs : List Char) :
    after ⟨line, column + 1⟩ cs =
      if '\n' ∈ cs then after ⟨line, column⟩ cs
      else ⟨(after ⟨line, column⟩ cs).line, (after ⟨line, column⟩ cs).column + 1⟩ := by
  induction cs generalizing column with
  | nil => rfl
  | cons c cs ih =>
    rw [after_cons, after_cons]
    by_cases hc : c = '\n'
    · simp [next, hc]
    · simp [next, hc, ih, Ne.symm hc]

/-- Lines and columns are counted from one, and a line is left at a newline only. -/
theorem exists_after (line column : Nat) (cs : List Char) :
    ∃ l k, after ⟨line + 1, column + 1⟩ cs = ⟨l + 1, k + 1⟩ ∧ line ≤ l ∧ (l = line ↔ '\n' ∉ cs) := by
  induction cs generalizing line column with
  | nil => exact ⟨line, column, rfl, Nat.le_refl _, by simp⟩
  | cons c cs ih =>
    by_cases hc : c = '\n'
    · obtain ⟨l, k, hafter, hle, -⟩ := ih (line + 1) 0
      exact ⟨l, k, by simpa [next, hc] using hafter, by omega, by simp [hc]; omega⟩
    · obtain ⟨l, k, hafter, hle, hline⟩ := ih line (column + 1)
      exact ⟨l, k, by simpa [next, hc] using hafter, hle, by simp [hline, Ne.symm hc]⟩

theorem first_after_newline (cs : List Char) :
    first.after ('\n' :: cs) = ⟨(first.after cs).line + 1, (first.after cs).column⟩ := by
  rw [after_cons, show first.next '\n' = ⟨1 + 1, 1⟩ from rfl, after_line]
  rfl

theorem first_after_cons {c : Char} (hc : c ≠ '\n') (cs : List Char) :
    first.after (c :: cs) =
      if '\n' ∈ cs then first.after cs else ⟨(first.after cs).line, (first.after cs).column + 1⟩ := by
  rw [after_cons, show first.next c = ⟨1, 1 + 1⟩ by simp [next, hc, first], after_column]
  rfl

/-- Going back from the location behind some characters gives their number. -/
theorem charOffset?_after (cs rest : List Char) :
    charOffset? (cs ++ rest) (first.after cs).line (first.after cs).column = some cs.length := by
  induction cs with
  | nil => cases rest <;> rfl
  | cons c cs ih =>
    obtain ⟨line, column, hafter, -, hline⟩ := exists_after 0 0 cs
    change first.after cs = _ at hafter
    rw [hafter] at ih
    by_cases hc : c = '\n'
    · rw [hc, first_after_newline, hafter]
      simp [charOffset?, ih]
    · rw [first_after_cons hc, hafter]
      by_cases hmem : '\n' ∈ cs
      · obtain ⟨line, rfl⟩ : ∃ l, line = l + 1 := Nat.exists_eq_succ_of_ne_zero (fun h => hline.1 h hmem)
        rw [if_pos hmem]
        simp [charOffset?, hc, ih]
      · obtain rfl := hline.2 hmem
        rw [if_neg hmem]
        simp [charOffset?, hc, ih]

/-- Going back from the location behind the start of a text gives the number of its characters. -/
theorem offset?_after {text : String} {cs rest : List Char} (h : text.toList = cs ++ rest) :
    offset? text (first.after cs) = some cs.length := by
  rw [offset?, h, charOffset?_after]

/-- A location lies in a text: on one of the lines, at a character of it or behind the last one. -/
def Location.Within (at_ : Location) (cs : List Char) : Prop :=
  1 ≤ at_.line ∧ 1 ≤ at_.column ∧ ∃ line, (cs.splitOn '\n')[at_.line - 1]? = some line ∧ at_.column ≤ line.length + 1

/-- The location behind the start of a text lies in the text. -/
theorem within_after (cs rest : List Char) : (first.after cs).Within (cs ++ rest) := by
  induction cs with
  | nil =>
    obtain ⟨line, lines, hlines⟩ := List.exists_cons_of_ne_nil (List.splitOn_ne_nil '\n' rest)
    exact ⟨Nat.le_refl _, Nat.le_refl _, line, by simp [hlines, first], by simp [first]⟩
  | cons c cs ih =>
    obtain ⟨-, -, text, htext, hlength⟩ := ih
    obtain ⟨line, column, hafter, -, hline⟩ := exists_after 0 0 cs
    change first.after cs = _ at hafter
    rw [hafter] at htext hlength
    rw [List.cons_append]
    by_cases hc : c = '\n'
    · rw [hc, first_after_newline, hafter]
      exact ⟨by simp, by simp, text, by simpa [List.splitOn_cons_eq_if_modifyHead] using htext, hlength⟩
    · rw [first_after_cons hc, hafter]
      have hsplit : (c :: (cs ++ rest)).splitOn '\n' = ((cs ++ rest).splitOn '\n').modifyHead (c :: ·) := by
        simp [List.splitOn_cons_eq_if_modifyHead, hc]
      by_cases hmem : '\n' ∈ cs
      · obtain ⟨line, rfl⟩ : ∃ l, line = l + 1 := Nat.exists_eq_succ_of_ne_zero (fun h => hline.1 h hmem)
        rw [if_pos hmem]
        exact ⟨by simp, by simp, text, by simpa [hsplit, List.getElem?_modifyHead] using htext, hlength⟩
      · obtain rfl := hline.2 hmem
        rw [if_neg hmem]
        refine ⟨by simp, by simp, c :: text, ?_, by simpa using hlength⟩
        rw [hsplit, show (0 + 1 : Nat) - 1 = 0 from rfl, List.getElem?_modifyHead_zero]
        exact congrArg (Option.map (c :: ·)) htext

end Text

namespace Sql

/-! ## What a scanner leaves -/

theorem suffix_cons_cons (c d : Char) (cs : List Char) : cs <:+ c :: d :: cs := List.drop_suffix 2 (c :: d :: cs)

/-- What is left behind something that was read is an end of what was given. -/
def Leaves {ε α : Type} (cs : List Char) : Except ε (α × List Char) → Prop
  | .ok (_, rest) => rest <:+ cs
  | .error _ => True

/-- What is left behind something that was read, if it could be read. -/
def LeavesIf {α : Type} (cs : List Char) : Option (α × List Char) → Prop
  | some (_, rest) => rest <:+ cs
  | none => True

section

variable {ε α β : Type} {cs cs' : List Char}

theorem LeavesIf.map {f : α × List Char → β × List Char} {r : Option (α × List Char)} (h : LeavesIf cs r)
    (hcs : cs <:+ cs') (hf : ∀ x, (f x).2 = x.2) : LeavesIf cs' (r.map f) := by
  cases r with
  | none => trivial
  | some x => exact (hf x ▸ List.IsSuffix.trans h hcs : (f x).2 <:+ cs')

theorem Leaves.bind {f : α × List Char → Except ε (β × List Char)} {r : Except ε (α × List Char)} (h : Leaves cs r)
    (hf : ∀ a rest, rest <:+ cs → Leaves cs (f (a, rest))) : Leaves cs (r >>= f) := by
  cases r with
  | error => trivial
  | ok x => exact hf x.1 x.2 h

theorem LeavesIf.ok {r : Option (α × List Char)} {a : α} {rest : List Char} (h : LeavesIf cs r)
    (hr : r = some (a, rest)) : rest <:+ cs := by
  rw [hr] at h
  exact h

theorem Leaves.ok {r : Except ε (α × List Char)} {a : α} {rest : List Char} (h : Leaves cs r)
    (hr : r = .ok (a, rest)) : rest <:+ cs := by
  rw [hr] at h
  exact h

theorem Leaves.mono {r : Except ε (α × List Char)} (h : Leaves cs r) (hcs : cs <:+ cs') : Leaves cs' r := by
  cases r with
  | error => trivial
  | ok x => exact List.IsSuffix.trans h hcs

theorem LeavesIf.mono {r : Option (α × List Char)} (h : LeavesIf cs r) (hcs : cs <:+ cs') : LeavesIf cs' r := by
  cases r with
  | none => trivial
  | some x => exact List.IsSuffix.trans h hcs

end

theorem readQuoted_leaves (quote : Char) (escapes : Bool) (cs : List Char) :
    LeavesIf cs (readQuoted quote escapes cs) := by
  fun_induction readQuoted quote escapes cs with
  | case1 => trivial
  | case2 => exact List.nil_suffix
  | case3 => trivial
  | case4 rest ih => exact ih.map (suffix_cons_cons _ _ _) fun _ => rfl
  | case5 => exact List.suffix_cons _ _
  | case6 c d rest _ _ ih => exact ih.map (suffix_cons_cons _ _ _) fun _ => rfl
  | case7 c d rest _ _ ih => exact ih.map (List.suffix_cons _ _) fun _ => rfl

theorem readTripled_leaves (quote : Char) (run : Nat) (cs : List Char) : LeavesIf cs (readTripled quote run cs) := by
  fun_induction readTripled quote run cs with
  | case1 => trivial
  | case2 => exact List.suffix_cons _ _
  | case3 run cs _ ih => exact ih.map (List.suffix_cons _ _) fun _ => rfl
  | case4 run c cs _ ih => exact ih.map (List.suffix_cons _ _) fun _ => rfl

theorem codePoint?_leaves (count : Nat) (cs : List Char) : LeavesIf cs (codePoint? count cs) := by
  dsimp only [codePoint?]
  split
  · rcases hexNumber? (cs.take count) with _ | n
    · trivial
    · rcases hc : scalar? n with _ | c
      · simp [hc, LeavesIf]
      · simp [hc, LeavesIf, List.drop_suffix]
  · trivial

theorem octet_leaves (o : Option Char) (count : Nat) (cs : List Char) : LeavesIf cs (o.map (·, cs.drop count)) := by
  cases o with
  | none => trivial
  | some => exact List.drop_suffix count cs

theorem escapeValue?_leaves (c : Char) (cs : List Char) : LeavesIf cs (escapeValue? c cs) := by
  unfold escapeValue?
  split
  case h_6 => exact codePoint?_leaves 4 cs
  case h_7 => exact codePoint?_leaves 8 cs
  case h_8 =>
    dsimp only [takeDigits]
    split
    · exact List.drop_suffix _ cs
    · exact octet_leaves _ _ cs
  case h_9 =>
    split
    · exact octet_leaves _ _ cs
    · exact List.suffix_refl cs
  all_goals exact List.suffix_refl cs

theorem readEscaped_leaves (fuel : Nat) (cs : List Char) : LeavesIf cs (readEscaped fuel cs) := by
  fun_induction readEscaped fuel cs with
  | case1 => trivial
  | case2 => trivial
  | case3 fuel rest ih => exact ih.map (suffix_cons_cons _ _ _) fun _ => rfl
  | case4 => exact List.suffix_cons _ _
  | case5 => trivial
  | case6 => trivial
  | case7 => trivial
  | case8 fuel c rest value after hvalue _ ih =>
    have hafter := (escapeValue?_leaves c rest).ok hvalue
    exact ih.map (hafter.trans (suffix_cons_cons _ c rest)) fun _ => rfl
  | case9 fuel c rest _ _ _ _ ih => exact ih.map (List.suffix_cons _ _) fun _ => rfl

theorem readHexDigits_leaves (count value : Nat) (cs : List Char) : Leaves cs (readHexDigits count value cs) := by
  fun_induction readHexDigits count value cs with
  | case1 => exact List.suffix_refl _
  | case2 => trivial
  | case3 count value c cs _ ih => exact ih.mono (List.suffix_cons c cs)
  | case4 => trivial

theorem readCodePoint_leaves (count : Nat) (cs : List Char) : Leaves cs (readCodePoint count cs) := by
  refine .bind (readHexDigits_leaves count 0 cs) fun n rest hrest => ?_
  dsimp only
  split
  · exact hrest
  · trivial

theorem readUnicode_leaves (fuel : Nat) (cs : List Char) : Leaves cs (readUnicode fuel cs) := by
  fun_induction readUnicode fuel cs with
  | case1 => trivial
  | case2 => trivial
  | case3 fuel rest ih => exact .bind (ih.mono (suffix_cons_cons _ _ rest)) fun _ _ h => h
  | case4 => exact List.suffix_cons _ _
  | case5 fuel rest ih => exact .bind (ih.mono (suffix_cons_cons _ _ rest)) fun _ _ h => h
  | case6 fuel rest ih =>
    refine .bind ((readCodePoint_leaves 6 rest).mono (suffix_cons_cons _ _ rest)) fun c rest' h => ?_
    exact .bind ((ih rest').mono h) fun _ _ h => h
  | case7 fuel rest _ _ ih =>
    refine .bind ((readCodePoint_leaves 4 rest).mono (List.suffix_cons _ rest)) fun c rest' h => ?_
    exact .bind ((ih rest').mono h) fun _ _ h => h
  | case8 fuel c rest _ _ _ _ _ ih => exact .bind (ih.mono (List.suffix_cons c rest)) fun _ _ h => h

theorem skipComment_leaves (depth : Nat) (previous : Char) (cs : List Char) :
    Leaves cs (skipComment depth previous cs) := by
  fun_induction skipComment depth previous cs with
  | case1 => trivial
  | case2 depth previous c cs _ ih => exact ih.mono (List.suffix_cons _ _)
  | case3 => exact List.suffix_cons _ _
  | case4 depth previous c cs _ _ _ ih => exact ih.mono (List.suffix_cons _ _)
  | case5 depth previous c cs _ _ ih => exact ih.mono (List.suffix_cons _ _)

theorem readDollarString_leaves (pending : Bool) (cs : List Char) : LeavesIf cs (readDollarString pending cs) := by
  fun_induction readDollarString pending cs with
  | case1 => trivial
  | case2 => exact List.suffix_cons _ _
  | case3 c cs _ ih => exact ih.map (List.suffix_cons _ _) fun _ => rfl
  | case4 cs pending _ ih => exact ih.mono (List.suffix_cons _ _)
  | case5 pending c cs _ _ ih => exact ih.map (List.suffix_cons _ _) fun _ => rfl

theorem readTagged_leaves (tag : List Char) (search : TagSearch) (cs : List Char) :
    LeavesIf cs (readTagged tag search cs) := by
  fun_induction readTagged tag search cs with
  | case1 => trivial
  | case2 cs ih => exact ih.mono (List.suffix_cons _ _)
  | case3 c cs _ ih => exact ih.map (List.suffix_cons _ _) fun _ => rfl
  | case4 seen expected c cs ih => exact ih.mono (List.suffix_cons _ _)
  | case5 seen e expected c cs _ ih => exact ih.map (List.suffix_cons _ _) fun _ => rfl
  | case6 => exact List.suffix_cons _ _
  | case7 seen c cs _ ih => exact ih.map (List.suffix_cons _ _) fun _ => rfl

/-! ## Tokens leave an end of the text -/

section

variable {dialect : Dialect} {c quote : Char} {cs : List Char}

theorem scanWord_leaves (start : List Char) : Leaves cs (scanWord dialect start cs) := List.dropWhile_suffix _

theorem scanString_leaves (kind : StringKind) (escapes : Bool) :
    Leaves (cs.drop 1) (scanString kind quote escapes cs) := by
  have h := readQuoted_leaves quote escapes (cs.drop 1)
  unfold scanString
  split
  · exact h.ok ‹_›
  · trivial

theorem scanQuotedWord_leaves : Leaves (cs.drop 1) (scanQuotedWord quote cs) := by
  have h := readQuoted_leaves quote false (cs.drop 1)
  unfold scanQuotedWord
  split
  · exact h.ok ‹_›
  · trivial

theorem scanRaw_leaves : Leaves (cs.drop 1) (scanRaw quote cs) := by
  have hquoted := readQuoted_leaves quote false (cs.drop 1)
  have htripled := readTripled_leaves quote 0 (cs.drop 3)
  have hdrop (n : Nat) : cs.drop (1 + n) <:+ cs.drop 1 := by
    rw [← List.drop_drop]
    exact List.drop_suffix n _
  unfold scanRaw
  split
  · split
    · exact hquoted.ok ‹_›
    · trivial
  · exact hdrop 1
  · split
    · exact (htripled.ok ‹_›).trans (hdrop 2)
    · trivial

theorem scanEscaped_leaves : Leaves (cs.drop 2) (scanEscaped cs) := by
  have h := readEscaped_leaves cs.length (cs.drop 2)
  unfold scanEscaped
  split
  · exact h.ok ‹_›
  · trivial

theorem scanUnicode_leaves : Leaves cs (scanUnicode cs) := by
  have h := readUnicode_leaves (cs.length + 1) cs
  unfold scanUnicode
  split
  · exact h.ok ‹_›
  · trivial

theorem scanMarkedString?_leaves {r : ScanResult} (h : scanMarkedString? dialect c cs = some r) : Leaves cs r := by
  unfold scanMarkedString? at h
  dsimp only at h
  split at h
  · cases h
    exact (scanString_leaves .national true).mono (List.drop_suffix 1 _)
  · cases h
    exact (scanString_leaves .hex true).mono (List.drop_suffix 1 _)
  · cases h
    exact scanEscaped_leaves.mono (List.drop_suffix 1 _)
  · split at h
    · cases h
      exact (scanString_leaves _ _).mono (List.drop_suffix 1 _)
    · cases h
  · split at h
    · cases h
      exact scanRaw_leaves.mono (List.drop_suffix 1 _)
    · cases h
  · split at h
    · cases h
      exact scanUnicode_leaves.mono (suffix_cons_cons _ _ _)
    · cases h
  · cases h

theorem scanExponent_suffix (cs : List Char) : (scanExponent cs).2 <:+ cs := by
  unfold scanExponent
  split
  · rename_i e rest
    split
    · -- the digits may stand behind a sign
      have hdigits : ∀ sign digits : List Char, digits <:+ rest →
          (if (digits.takeWhile Char.isDigit).isEmpty then ([], e :: rest)
            else (e :: sign ++ digits.takeWhile Char.isDigit, digits.dropWhile Char.isDigit)).2 <:+ e :: rest := by
        intro sign digits h
        split
        · exact List.suffix_refl _
        · exact (List.dropWhile_suffix _).trans (h.trans (List.suffix_cons _ _))
      cases rest with
      | nil => exact hdigits [] [] (List.suffix_refl _)
      | cons s more =>
        cases hs : s == '+' || s == '-' with
        | true => simpa only [hs, if_true] using hdigits [s] more (List.suffix_cons _ _)
        | false => simpa only [hs, Bool.false_eq_true, if_false] using hdigits [] (s :: more) (List.suffix_refl _)
    · exact List.suffix_refl _
  · exact List.suffix_refl _

/-- The exponent and the mark of a number are behind its fraction. -/
theorem number_leaves {point : Bool} {sign long plain : Token} {afterFraction : List Char} (h : afterFraction <:+ cs) :
    Leaves cs (if point then .ok (sign, afterFraction)
      else match (scanExponent afterFraction).2 with
        | 'L' :: more => .ok (long, more)
        | _ => .ok (plain, (scanExponent afterFraction).2) : ScanResult) := by
  have hexponent := (scanExponent_suffix afterFraction).trans h
  split
  · exact h
  · split
    · rename_i hrest
      rw [hrest] at hexponent
      exact (List.suffix_cons _ _).trans hexponent
    · exact hexponent

theorem scanNumber_leaves (h : c.isDigit ∨ c = '.') : Leaves cs (scanNumber (c :: cs)) := by
  -- a digit is taken with the whole part, a point behind it
  have hwhole : (c :: cs).dropWhile Char.isDigit <:+ cs ∨ (c :: cs).dropWhile Char.isDigit = '.' :: cs := by
    rcases h with h | rfl
    · rw [List.dropWhile_cons_of_pos h]
      exact .inl (List.dropWhile_suffix _)
    · exact .inr rfl
  unfold scanNumber
  dsimp only
  split
  · rename_i heq
    rcases hwhole with hwhole | hdrop
    · rw [heq] at hwhole
      exact (List.dropWhile_suffix _).trans ((List.suffix_cons _ _).trans hwhole)
    · rw [hdrop] at heq
      cases heq
  · refine number_leaves ((List.dropWhile_suffix _).trans ?_)
    rcases hwhole with hwhole | hdrop
    · split
      · rename_i heq
        rw [heq] at hwhole
        exact (List.suffix_cons _ _).trans hwhole
      · exact hwhole
    · rw [hdrop]
      exact List.suffix_refl _

theorem scanDollar_leaves : Leaves cs (scanDollar cs) := by
  unfold scanDollar
  split
  · rename_i rest
    have h := readDollarString_leaves false rest
    split
    · exact (h.ok ‹_›).trans (List.suffix_cons _ _)
    · trivial
  · dsimp only
    split
    · rename_i rest heq
      have h := readTagged_leaves (cs.takeWhile fun c => Text.isLetterOrDigit c || c == '_') .text rest
      have hrest : rest <:+ cs := (List.suffix_cons _ rest).trans (heq ▸ List.dropWhile_suffix _)
      split
      · exact (h.ok ‹_›).trans hrest
      · trivial
    · exact List.dropWhile_suffix _

theorem dropStart?_suffix {start rest : List Char} (h : dropStart? start cs = some rest) : rest <:+ cs := by
  fun_induction dropStart? start cs with
  | case1 => cases h; exact List.suffix_refl _
  | case2 => cases h
  | case3 _ c cs ih => exact (ih h).trans (List.suffix_cons c cs)
  | case4 => cases h

/-- A sign of the list takes at least one character. -/
theorem firstSign?_suffix {signs : List (String × String)} (hsigns : ∀ s ∈ signs, s.1.toList ≠ []) {token : Token}
    {rest : List Char} (h : firstSign? signs (c :: cs) = some (token, rest)) : rest <:+ cs := by
  induction signs with
  | nil => cases h
  | cons sign signs ih =>
    obtain ⟨written, kept⟩ := sign
    obtain ⟨hwritten, hsigns⟩ := List.forall_mem_cons.1 hsigns
    rw [firstSign?] at h
    split at h
    · rename_i heq
      cases h
      obtain ⟨w, ws, hw⟩ := List.exists_cons_of_ne_nil hwritten
      rw [hw, dropStart?] at heq
      split at heq
      · exact dropStart?_suffix heq
      · cases heq
    · exact ih hsigns h

theorem longSigns_ne_nil : ∀ s ∈ longSigns, s.1.toList ≠ [] := by decide

theorem scanSign_leaves : Leaves cs (scanSign c cs) := by
  unfold scanSign
  split
  · rename_i r heq
    obtain ⟨token, rest⟩ := r
    exact firstSign?_suffix longSigns_ne_nil heq
  · exact List.suffix_refl _

theorem scanMarked_leaves : Leaves cs (scanMarked c cs) := by
  unfold scanMarked
  split
  · rename_i heq
    have hrest := firstSign?_suffix longSigns_ne_nil heq
    split
    · exact hrest
    · exact (scanWord_leaves _).mono ((List.suffix_cons _ _).trans hrest)
  · rename_i r _ heq
    obtain ⟨token, rest⟩ := r
    exact firstSign?_suffix longSigns_ne_nil heq
  · split
    · split
      · exact List.suffix_refl _
      · exact (scanWord_leaves _).mono (List.suffix_cons _ _)
    · exact List.suffix_refl _

/-- A token takes at least one character and leaves an end of the text. -/
theorem scanToken_leaves : Leaves cs (scanToken dialect c cs) := by
  unfold scanToken
  split
  · exact scanMarkedString?_leaves ‹_›
  · split
    · exact List.suffix_cons _ _
    · exact scanString_leaves _ _
    · exact scanQuotedWord_leaves
    · exact scanQuotedWord_leaves
    · exact scanNumber_leaves (.inr rfl)
    · exact (List.drop_suffix 1 _).trans ((List.dropWhile_suffix _).trans (List.suffix_cons _ _))
    · exact (skipComment_leaves _ _ _).mono (List.suffix_cons _ _)
    · exact scanDollar_leaves
    · exact List.dropWhile_suffix _
    · split
      · exact scanNumber_leaves (.inl ‹_›)
      · split
        · exact scanMarked_leaves
        · split
          · exact List.drop_suffix 1 _
          · split
            · exact scanWord_leaves _
            · split
              · exact List.suffix_refl _
              · exact scanSign_leaves

end

/-! ## The pieces of a text -/

/-- The characters of pieces. -/
def spelled (pieces : List Piece) : List Char := pieces.flatMap Piece.text

theorem spelled_cons (piece : Piece) (pieces : List Piece) : spelled (piece :: pieces) = piece.text ++ spelled pieces :=
  List.flatMap_cons

theorem spelled_append (before behind : List Piece) : spelled (before ++ behind) = spelled before ++ spelled behind :=
  List.flatMap_append

/-- One piece is cut off the text, then the others. -/
theorem scanAll_eq_ok {dialect : Dialect} {fuel : Nat} {c : Char} {cs : List Char} {pieces : List Piece}
    (h : scanAll dialect (fuel + 1) (c :: cs) = .ok pieces) :
    ∃ token text rest more, scanToken dialect c cs = .ok (token, rest) ∧ scanAll dialect fuel rest = .ok more ∧
      pieces = ⟨token, text⟩ :: more ∧ c :: cs = text ++ rest := by
  rw [scanAll] at h
  cases hscan : scanToken dialect c cs with
  | error => rw [hscan] at h; cases h
  | ok r =>
    obtain ⟨token, rest⟩ := r
    rw [hscan] at h
    cases hmore : scanAll dialect fuel rest with
    | error => simp only [bind, Except.bind, hmore] at h; cases h
    | ok more =>
      simp only [bind, Except.bind, hmore] at h
      cases h
      obtain ⟨taken, rfl⟩ := scanToken_leaves.ok hscan
      refine ⟨token, _, rest, more, rfl, hmore, rfl, ?_⟩
      have hlength : (taken ++ rest).length + 1 - rest.length = (c :: taken).length := by
        simp
        omega
      rw [hlength, ← List.cons_append, List.take_left]

/-- The pieces of a text put together are the text. -/
theorem spelled_scanAll {dialect : Dialect} {fuel : Nat} {cs : List Char} {pieces : List Piece}
    (hfuel : cs.length ≤ fuel) (h : scanAll dialect fuel cs = .ok pieces) : spelled pieces = cs := by
  induction fuel generalizing cs pieces with
  | zero =>
    obtain rfl := List.length_eq_zero_iff.1 (Nat.le_zero.1 hfuel)
    cases h
    rfl
  | succ fuel ih =>
    cases cs with
    | nil => cases h; rfl
    | cons c cs =>
      obtain ⟨token, text, rest, more, hscan, hmore, rfl, hcs⟩ := scanAll_eq_ok h
      have hlength : rest.length ≤ fuel := by
        have := (scanToken_leaves.ok hscan).length_le
        simp at hfuel
        omega
      rw [hcs, spelled_cons, ih hlength hmore]

/-- Every piece was scanned where it stands. -/
theorem exists_scanToken {dialect : Dialect} {fuel : Nat} {cs : List Char} {pieces : List Piece}
    (h : scanAll dialect fuel cs = .ok pieces) {piece : Piece} (hpiece : piece ∈ pieces) :
    ∃ c behind rest, scanToken dialect c behind = .ok (piece.token, rest) ∧ c :: behind = piece.text ++ rest := by
  induction fuel generalizing cs pieces with
  | zero => cases cs <;> cases h <;> cases hpiece
  | succ fuel ih =>
    cases cs with
    | nil => cases h; cases hpiece
    | cons c cs =>
      obtain ⟨token, text, rest, more, hscan, hmore, rfl, hcs⟩ := scanAll_eq_ok h
      rcases List.mem_cons.1 hpiece with rfl | hpiece
      · exact ⟨c, cs, rest, hscan, hcs⟩
      · exact ih hmore hpiece

/-! ## The shapes of tokens -/

/-- The quotes around texts and words. -/
def IsQuote (c : Char) : Prop := c = '\'' ∨ c = '"' ∨ c = '`'

/-- Where any of several quotes can mark a literal, it is a quote. -/
def StringKind.Quoted : StringKind → Prop
  | .byte quote => IsQuote quote
  | .raw quote _ => IsQuote quote
  | _ => True

/-- The shapes of the tokens that are cut off a text whose first character is `c`. Blanks stand between quotes only, and
nothing but a dollar sign starts a word or a placeholder with one. -/
inductive Token.CutAt (c : Char) : Token → Prop
  | word {start : Char} {cs : List Char} (hstart : start = '$' → c = '$') (hsolid : ' ' ∉ start :: cs) :
      CutAt c (.word (String.ofList (start :: cs)) none)
  | quoted {text : String} {quote : Char} (hquote : IsQuote quote) : CutAt c (.word text (some quote))
  | number {text : List Char} {long : Bool} (hsolid : ' ' ∉ text) : CutAt c (.number (String.ofList text) long)
  | string {kind : StringKind} {text : String} (hkind : kind.Quoted) : CutAt c (.string kind text)
  | placeholder {start : Char} {cs : List Char} (hstart : start = '$' → c = '$') (hsolid : ' ' ∉ start :: cs) :
      CutAt c (.placeholder (String.ofList (start :: cs)))
  | sign {text : String} (hsolid : ' ' ∉ text.toList) : CutAt c (.sign text)
  | blank : CutAt c .blank

/-- What was scanned has the shape of a token. -/
def Cut (c : Char) : ScanResult → Prop
  | .ok (token, _) => token.CutAt c
  | .error _ => True

theorem solid_takeWhile {p : Char → Bool} (hp : p ' ' = false) (cs : List Char) : ' ' ∉ cs.takeWhile p := by
  intro h
  have hblank := List.all_eq_true.1 List.all_takeWhile _ h
  rw [hp] at hblank
  cases hblank

theorem isWordPart_blank (dialect : Dialect) : dialect.isWordPart ' ' = false := by
  cases dialect <;> decide

section

variable {dialect : Dialect} {c quote : Char} {cs : List Char}

theorem scanWord_cut {start : Char} {more : List Char} (hstart : start = '$' → c = '$')
    (hsolid : ' ' ∉ start :: more) : Cut c (scanWord dialect (start :: more) cs) := by
  have hword : ' ' ∉ start :: more ++ cs.takeWhile dialect.isWordPart := by
    rw [List.mem_append, not_or]
    exact ⟨hsolid, solid_takeWhile (isWordPart_blank dialect) cs⟩
  exact .word hstart hword

theorem scanString_cut {kind : StringKind} (hkind : kind.Quoted) (escapes : Bool) :
    Cut c (scanString kind quote escapes cs) := by
  unfold scanString
  split
  · exact .string hkind
  · trivial

theorem scanQuotedWord_cut (hquote : IsQuote quote) : Cut c (scanQuotedWord quote cs) := by
  unfold scanQuotedWord
  split
  · exact .quoted hquote
  · trivial

theorem scanRaw_cut (hquote : IsQuote quote) : Cut c (scanRaw quote cs) := by
  unfold scanRaw
  split
  · split
    · exact .string hquote
    · trivial
  · exact .string hquote
  · split
    · exact .string hquote
    · trivial

theorem scanEscaped_cut : Cut c (scanEscaped cs) := by
  unfold scanEscaped
  split
  · exact .string trivial
  · trivial

theorem scanUnicode_cut : Cut c (scanUnicode cs) := by
  unfold scanUnicode
  split
  · exact .string trivial
  · trivial

theorem scanMarkedString?_cut {r : ScanResult} (h : scanMarkedString? dialect c cs = some r) : Cut c r := by
  have hquote {p : Prop} {q : Char} (h : p ∧ (q = '\'' ∨ q = '"')) : IsQuote q := h.2.imp id .inl
  unfold scanMarkedString? at h
  dsimp only at h
  split at h
  · cases h
    exact scanString_cut (by trivial) _
  · cases h
    exact scanString_cut (by trivial) _
  · cases h
    exact scanEscaped_cut
  · split at h <;> cases h
    exact scanString_cut (by exact hquote ‹_›) _
  · split at h <;> cases h
    exact scanRaw_cut (hquote ‹_›)
  · split at h <;> cases h
    exact scanUnicode_cut
  · cases h

theorem digits_solid (cs : List Char) : ' ' ∉ cs.takeWhile Char.isDigit := solid_takeWhile (by decide) cs

theorem scanExponent_solid (cs : List Char) : ' ' ∉ (scanExponent cs).1 := by
  unfold scanExponent
  split
  · rename_i e rest
    split
    · rename_i he
      have he : ' ' ≠ e := by
        rintro rfl
        cases he
      -- the digits may stand behind a sign
      have hdigits : ∀ sign digits : List Char, ' ' ∉ sign →
          ' ' ∉ (if (digits.takeWhile Char.isDigit).isEmpty then ([], e :: rest)
            else (e :: sign ++ digits.takeWhile Char.isDigit, digits.dropWhile Char.isDigit)).1 := by
        intro sign digits hsign
        split
        · exact List.not_mem_nil
        · simp [he, hsign, digits_solid]
      cases rest with
      | nil => exact hdigits [] [] List.not_mem_nil
      | cons s more =>
        cases hs : s == '+' || s == '-' with
        | true =>
          have hsign : ' ' ∉ [s] := by
            rw [List.mem_singleton]
            rintro rfl
            cases hs
          simpa only [hs, if_true] using hdigits [s] more hsign
        | false =>
          simpa only [hs, Bool.false_eq_true, if_false] using hdigits [] (s :: more) List.not_mem_nil
    · exact List.not_mem_nil
  · exact List.not_mem_nil

/-- A number without digits is a point. -/
theorem number_cut {point : Bool} {text left rest : List Char} (hsolid : ' ' ∉ text) :
    Cut c (if point then .ok (.sign ".", left)
      else match rest with
        | 'L' :: more => .ok (.number (String.ofList text) true, more)
        | _ => .ok (.number (String.ofList text) false, rest) : ScanResult) := by
  split
  · exact Token.CutAt.sign (by decide)
  · split
    · exact .number hsolid
    · exact .number hsolid

theorem scanNumber_cut : Cut c (scanNumber cs) := by
  unfold scanNumber
  dsimp only
  split
  · exact .string trivial
  · refine number_cut ?_
    simp only [List.mem_append, digits_solid, scanExponent_solid, or_false, false_or]
    split
    · simp
    · simp

theorem skipComment_cut (depth : Nat) (previous : Char) : Cut c (skipComment depth previous cs) := by
  fun_induction skipComment depth previous cs with
  | case1 => trivial
  | case2 _ _ _ _ _ ih => exact ih
  | case3 => exact .blank
  | case4 _ _ _ _ _ _ _ ih => exact ih
  | case5 _ _ _ _ _ _ ih => exact ih

theorem scanDollar_cut : Cut '$' (scanDollar cs) := by
  unfold scanDollar
  split
  · split
    · exact .string trivial
    · trivial
  · dsimp only
    split
    · split
      · exact .string trivial
      · trivial
    · exact .placeholder id (by simpa using solid_takeWhile (by decide) cs)

theorem firstSign?_cut {signs : List (String × String)} (hsigns : ∀ s ∈ signs, ' ' ∉ s.2.toList) {token : Token}
    {rest : List Char} (h : firstSign? signs cs = some (token, rest)) : token.CutAt c := by
  induction signs with
  | nil => cases h
  | cons sign signs ih =>
    obtain ⟨hsign, hsigns⟩ := List.forall_mem_cons.1 hsigns
    rw [firstSign?] at h
    split at h
    · cases h
      exact .sign hsign
    · exact ih hsigns h

theorem longSigns_solid : ∀ s ∈ longSigns, ' ' ∉ s.2.toList := by decide

theorem sign_cut (hc : c ≠ ' ') : (Token.sign c.toString).CutAt c := .sign (by simpa using hc.symm)

theorem scanSign_cut (hc : c ≠ ' ') : Cut c (scanSign c cs) := by
  unfold scanSign
  split
  · rename_i r heq
    obtain ⟨token, rest⟩ := r
    exact firstSign?_cut longSigns_solid heq
  · exact sign_cut hc

theorem scanMarked_cut (hc : c ≠ ' ') : Cut c (scanMarked c cs) := by
  unfold scanMarked
  split
  · split
    · exact .sign (by decide)
    · rename_i hd
      exact scanWord_cut (fun h => absurd h (by decide)) (by simpa using Ne.symm hd)
  · rename_i r _ heq
    obtain ⟨token, rest⟩ := r
    exact firstSign?_cut longSigns_solid heq
  · split
    · split
      · exact sign_cut hc
      · rename_i hd
        exact scanWord_cut id (by simpa using ⟨hc.symm, Ne.symm hd⟩)
    · exact sign_cut hc

/-- A token has the shape of a token. -/
theorem scanToken_cut : Cut c (scanToken dialect c cs) := by
  unfold scanToken
  split
  · exact scanMarkedString?_cut ‹_›
  · split
    · exact .blank
    · exact scanString_cut (by trivial) _
    · exact scanQuotedWord_cut (.inr (.inl rfl))
    · exact scanQuotedWord_cut (.inr (.inr rfl))
    · exact scanNumber_cut
    · exact .blank
    · exact skipComment_cut _ _
    · exact scanDollar_cut
    · exact .placeholder id (by simpa using solid_takeWhile (by decide) cs)
    · split
      · exact scanNumber_cut
      · split
        · rename_i hmark
          have hc : c ≠ ' ' := by
            rintro rfl
            exact absurd hmark.2 (by decide)
          exact scanMarked_cut hc
        · split
          · exact .sign (by decide)
          · split
            · rename_i hstart
              have hc : c ≠ ' ' := by
                rintro rfl
                cases dialect <;> revert hstart <;> decide
              exact scanWord_cut id (by simpa using hc.symm)
            · split
              · exact .blank
              · rename_i hblank
                exact scanSign_cut (by rintro rfl; exact hblank (by decide))

end

/-! ## The pieces of macros -/

/-- The token is not the word of a macro. -/
def Token.NoMacro (token : Token) : Prop := ∀ name, isMacroName name → token.promote ≠ .word name none

theorem head?_of_isMacroName {name : String} (h : isMacroName name) : name.toList.head? = some '$' := by
  unfold isMacroName at h
  cases hname : name.toList with
  | nil => rw [hname] at h; cases h
  | cons c cs =>
    rw [hname] at h
    by_cases hc : '$' = c
    · exact congrArg some hc.symm
    · simp [macroStart, dropStart?, hc] at h

section

variable {dialect : Dialect} {c : Char} {cs : List Char}

/-- Nothing but a dollar sign starts the word of a macro. -/
theorem Token.CutAt.noMacro {token : Token} (h : token.CutAt c) (hc : c ≠ '$') : token.NoMacro := by
  have hplain {start : Char} {cs : List Char} (hstart : start = '$' → c = '$') {name : String}
      (hname : isMacroName name) : String.ofList (start :: cs) ≠ name := by
    rintro rfl
    have hhead := head?_of_isMacroName hname
    rw [String.toList_ofList] at hhead
    exact hc (hstart (Option.some.inj hhead))
  intro name hname hpromote
  cases h with
  | word hstart =>
    cases hpromote
    exact hplain hstart hname rfl
  | placeholder hstart =>
    rw [Token.promote] at hpromote
    split at hpromote
    · cases hpromote
      exact hplain hstart hname rfl
    · cases hpromote
  | quoted => cases hpromote
  | number => cases hpromote
  | string => cases hpromote
  | sign => cases hpromote
  | blank => cases hpromote

/-- The word of a macro is a placeholder that is written as its name. -/
theorem scanToken_macro {token : Token} {rest : List Char} {name : String}
    (h : scanToken dialect c cs = .ok (token, rest)) (hname : isMacroName name)
    (htoken : token.promote = .word name none) :
    token = .placeholder name ∧ c :: cs = name.toList ++ rest := by
  by_cases hc : c = '$'
  · subst hc
    have hdollar : scanDollar cs = .ok (token, rest) := by
      have hm : scanMarkedString? dialect '$' cs = none := rfl
      unfold scanToken at h
      rwa [hm] at h
    unfold scanDollar at hdollar
    split at hdollar
    · split at hdollar <;> cases hdollar
      cases htoken
    · dsimp only at hdollar
      split at hdollar
      · split at hdollar <;> cases hdollar
        cases htoken
      · cases hdollar
        rw [Token.promote] at htoken
        split at htoken
        · cases htoken
          simp [List.takeWhile_append_dropWhile]
        · cases htoken
  · have hcut : Cut c (scanToken dialect c cs) := scanToken_cut
    rw [h] at hcut
    exact absurd htoken (hcut.noMacro hc name hname)

/-- The piece of a macro is written as its name. -/
theorem scanAll_macro {fuel : Nat} {pieces : List Piece} (h : scanAll dialect fuel cs = .ok pieces) {piece : Piece}
    (hpiece : piece ∈ pieces) {name : String} (hname : isMacroName name)
    (htoken : piece.token.promote = .word name none) : piece = ⟨.placeholder name, name.toList⟩ := by
  obtain ⟨c, behind, rest, hscan, htext⟩ := exists_scanToken h hpiece
  obtain ⟨hplaceholder, hspelled⟩ := scanToken_macro hscan hname htoken
  rw [htext] at hspelled
  rw [← hplaceholder, ← List.append_cancel_right hspelled]

end

/-! ## Where macros stand -/

/-- A macro stands in a text behind a number of characters: it is a piece of its own, with its name as text. -/
def StandsAt (dialect : Dialect) (text name : String) (offset : Nat) : Prop :=
  ∃ before behind, scan dialect text.toList = .ok (before ++ ⟨.placeholder name, name.toList⟩ :: behind) ∧
    text.toList = spelled before ++ (name.toList ++ spelled behind) ∧ offset = (spelled before).length

/-- A token stands where the pieces before it end, and up to the end of its piece. -/
theorem exists_of_mem_place {start : Text.Location} {pieces : List Piece} {l : Lexeme} (h : l ∈ place start pieces) :
    ∃ before piece behind, pieces = before ++ piece :: behind ∧ l.token = piece.token.promote ∧
      l.span.start = start.after (spelled before) ∧ l.span.stop = start.after (spelled before ++ piece.text) := by
  induction pieces generalizing start with
  | nil => cases h
  | cons piece pieces ih =>
    rcases List.mem_cons.1 h with rfl | h
    · exact ⟨[], piece, pieces, rfl, rfl, rfl, rfl⟩
    · obtain ⟨before, found, behind, rfl, htoken, hstart, hstop⟩ := ih h
      refine ⟨piece :: before, found, behind, rfl, htoken, ?_, ?_⟩
      · rw [hstart, spelled_cons, Text.Location.after_append]
      · rw [hstop, spelled_cons, List.append_assoc]
        exact (Text.Location.after_append _ _ _).symm

/-- A token of a text is a piece of it. -/
theorem exists_piece {dialect : Dialect} {text : String} {tokens : List Lexeme}
    (h : lexemes dialect text = .ok tokens) {l : Lexeme} (hl : l ∈ tokens) :
    ∃ before piece behind, scan dialect text.toList = .ok (before ++ piece :: behind) ∧
      text.toList = spelled before ++ (piece.text ++ spelled behind) ∧ l.token = piece.token.promote ∧
      l.token ≠ .blank ∧ l.span.start = Text.Location.first.after (spelled before) ∧
      l.span.stop = Text.Location.first.after (spelled before ++ piece.text) := by
  unfold lexemes at h
  dsimp only at h
  split at h
  · rename_i pieces hscan
    cases h
    obtain ⟨hplaced, hblank⟩ := List.mem_filter.1 hl
    obtain ⟨before, piece, behind, rfl, htoken, hstart, hstop⟩ := exists_of_mem_place hplaced
    have hspelled := spelled_scanAll (Nat.le_refl _) hscan
    rw [spelled_append, spelled_cons] at hspelled
    exact ⟨before, piece, behind, hscan, hspelled.symm, htoken, by simpa using hblank, hstart, hstop⟩
  · cases h

/-- A token of a text stands in the text. -/
theorem within_of_mem_lexemes {dialect : Dialect} {text : String} {tokens : List Lexeme}
    (h : lexemes dialect text = .ok tokens) {l : Lexeme} (hl : l ∈ tokens) :
    l.span.start.Within text.toList ∧ l.span.stop.Within text.toList := by
  obtain ⟨before, piece, behind, -, htext, -, -, hstart, hstop⟩ := exists_piece h hl
  rw [hstart, hstop, htext]
  refine ⟨Text.within_after _ _, ?_⟩
  rw [← List.append_assoc]
  exact Text.within_after _ _

/-- **The word of a macro keeps its place**: going back from it gives the characters before the name of the macro. -/
theorem macro_standsAt {dialect : Dialect} {text : String} {tokens : List Lexeme}
    (h : lexemes dialect text = .ok tokens) {l : Lexeme} (hl : l ∈ tokens) {name : String} (hname : isMacroName name)
    (htoken : l.token = .word name none) :
    ∃ offset, Text.offset? text l.span.start = some offset ∧ StandsAt dialect text name offset := by
  obtain ⟨before, piece, behind, hscan, htext, hpromote, -, hstart, -⟩ := exists_piece h hl
  obtain rfl := scanAll_macro hscan (List.mem_append_right _ List.mem_cons_self) hname (hpromote.symm.trans htoken)
  refine ⟨(spelled before).length, ?_, before, behind, hscan, htext, rfl⟩
  rw [hstart]
  exact Text.offset?_after htext

end Sql

end SqlTemplate
