import SqlTemplate.Proofs.Positions

/-!
# Going back from locations

There are two ways to go back from a location to the number of characters in front of it: character by character, and
line by line, where the lines above are added up with their newlines. They agree, and they undo the counting of lines
and columns: a location has an offset just if counting so many characters arrives there, and no place in the text is
left without one.

* `charOffset?_eq_lineOffset?`: character by character and line by line.
* `lineOffset?_eq_none_iff`: which lines and columns have no offset.
* `first_after_of_charOffset?`: counting arrives at the location that was gone back from.
* `offset?_inverts_counting`: which locations have which offset.
-/

namespace SqlTemplate.Text

open Location

/-! ## Line by line -/

/-- The offset of a line and a column, both from 0, in some lines of which the first one starts at an offset. -/
def lineOffset? (start : Nat) : List (List Char) → (line column : Nat) → Option Nat
  | [], _, _ => none
  | text :: _, 0, column => if column ≤ text.length then some (start + column) else none
  | text :: lines, line + 1, column => lineOffset? (start + text.length + 1) lines line column

/-- The offset of a location, line by line. There is no line 0 and no column 0. -/
def offsetByLines? (text : String) (at_ : Location) : Option Nat :=
  if at_.line = 0 ∨ at_.column = 0 then none
  else lineOffset? 0 (text.toList.splitOn '\n') (at_.line - 1) (at_.column - 1)

theorem lineOffset?_succ (start : Nat) (lines : List (List Char)) (line column : Nat) :
    lineOffset? (start + 1) lines line column = (lineOffset? start lines line column).map (· + 1) := by
  induction lines generalizing start line with
  | nil => simp only [lineOffset?, Option.map_none]
  | cons text lines ih =>
    cases line with
    | zero =>
      by_cases hcolumn : column ≤ text.length
      · simp only [lineOffset?, if_pos hcolumn, Option.map_some, Nat.add_right_comm start 1]
      · simp only [lineOffset?, if_neg hcolumn, Option.map_none]
    | succ line =>
      rw [lineOffset?, lineOffset?, ← ih, Nat.add_right_comm start 1]

/-- **Going back character by character and line by line agree.** -/
theorem charOffset?_eq_lineOffset? (cs : List Char) (line column : Nat) :
    charOffset? cs (line + 1) (column + 1) = lineOffset? 0 (cs.splitOn '\n') line column := by
  induction cs generalizing line column with
  | nil => cases line <;> cases column <;> simp [charOffset?, lineOffset?]
  | cons c cs ih =>
    by_cases hc : c = '\n'
    · have hsplit : (c :: cs).splitOn '\n' = [] :: cs.splitOn '\n' := by
        simp [List.splitOn_cons_eq_if_modifyHead, hc]
      rw [hsplit]
      cases line with
      | zero => cases column <;> simp [charOffset?, lineOffset?, hc]
      | succ line =>
        rw [lineOffset?, List.length_nil, Nat.add_zero, lineOffset?_succ, ← ih]
        simp [charOffset?, hc]
    · obtain ⟨text, lines, hlines⟩ := List.exists_cons_of_ne_nil (List.splitOn_ne_nil '\n' cs)
      have hsplit : (c :: cs).splitOn '\n' = (c :: text) :: lines := by
        simp [List.splitOn_cons_eq_if_modifyHead, hc, hlines]
      rw [hlines] at ih
      rw [hsplit]
      cases line with
      | zero =>
        -- The first column needs no character; each further one takes one of the line.
        cases column with
        | zero => simp [charOffset?, lineOffset?]
        | succ column =>
          have hstep : charOffset? (c :: cs) 1 (column + 2) = (charOffset? cs 1 (column + 1)).map (· + 1) := by
            simp [charOffset?, hc]
          rw [hstep, ih, lineOffset?, lineOffset?]
          by_cases hcolumn : column ≤ text.length <;> simp [hcolumn]
      | succ line =>
        have hstep : charOffset? (c :: cs) (line + 2) (column + 1) =
            (charOffset? cs (line + 2) (column + 1)).map (· + 1) := by
          simp [charOffset?, hc]
        rw [hstep, ih, lineOffset?, lineOffset?, ← lineOffset?_succ]
        rfl

theorem charOffset?_line_zero (cs : List Char) (column : Nat) : charOffset? cs 0 column = none := by
  induction cs generalizing column with
  | nil => cases column <;> simp [charOffset?]
  | cons c cs ih => cases column <;> simp [charOffset?, ih]

theorem charOffset?_column_zero (cs : List Char) (line : Nat) : charOffset? cs line 0 = none := by
  cases cs <;> rfl

theorem offset?_eq_offsetByLines? (text : String) (at_ : Location) : offset? text at_ = offsetByLines? text at_ := by
  obtain ⟨line, column⟩ := at_
  rw [offset?, offsetByLines?]
  cases line with
  | zero => rw [charOffset?_line_zero, if_pos (.inl rfl)]
  | succ line =>
    cases column with
    | zero => rw [charOffset?_column_zero, if_pos (.inr rfl)]
    | succ column => simpa using charOffset?_eq_lineOffset? text.toList line column

/-- A line and a column have no offset if they are past the last line or past the end of their line. -/
theorem lineOffset?_eq_none_iff (start : Nat) (lines : List (List Char)) (line column : Nat) :
    lineOffset? start lines line column = none ↔
      lines.length ≤ line ∨ ∃ text, lines[line]? = some text ∧ text.length < column := by
  induction lines generalizing start line with
  | nil => simp [lineOffset?]
  | cons text lines ih =>
    cases line with
    | zero => simp [lineOffset?]
    | succ line => simp [lineOffset?, ih]

/-- The places that a text does not have: on line 0 or in column 0, past the last line, and past the end of a line. -/
theorem offset?_eq_none_iff (text : String) (at_ : Location) :
    offset? text at_ = none ↔ at_.line = 0 ∨ at_.column = 0 ∨ (text.toList.splitOn '\n').length < at_.line ∨
      ∃ line, (text.toList.splitOn '\n')[at_.line - 1]? = some line ∧ line.length + 1 < at_.column := by
  rw [offset?_eq_offsetByLines?, offsetByLines?]
  by_cases hzero : at_.line = 0 ∨ at_.column = 0
  · rw [if_pos hzero]
    exact iff_of_true rfl (hzero.imp_right .inl)
  · obtain ⟨hline, hcolumn⟩ := not_or.1 hzero
    have hpast (n : Nat) : n ≤ at_.line - 1 ↔ n < at_.line := by omega
    have hbehind (n : Nat) : n < at_.column - 1 ↔ n + 1 < at_.column := by omega
    rw [if_neg hzero, lineOffset?_eq_none_iff]
    simp only [hline, hcolumn, false_or, hpast, hbehind]

/-! ## Counting again -/

theorem first_after_line_eq_one (cs : List Char) : (first.after cs).line = 1 ↔ '\n' ∉ cs := by
  obtain ⟨line, column, hafter, -, hline⟩ := exists_after 0 0 cs
  change first.after cs = _ at hafter
  rw [hafter, ← hline]
  exact Nat.add_eq_right

/-- **Counting arrives at the location that was gone back from.** -/
theorem first_after_of_charOffset? {cs : List Char} {line column i : Nat} (h : charOffset? cs line column = some i) :
    i ≤ cs.length ∧ first.after (cs.take i) = ⟨line, column⟩ := by
  fun_induction charOffset? cs line column generalizing i with
  | case1 => cases h
  | case2 =>
    cases h
    exact ⟨Nat.zero_le _, rfl⟩
  | case3 => cases h
  | case4 => cases h
  | case5 cs line column _ hline ih =>
    obtain ⟨i, hi, rfl⟩ := Option.map_eq_some_iff.1 h
    obtain ⟨hle, hafter⟩ := ih hi
    refine ⟨Nat.succ_le_succ hle, ?_⟩
    rw [List.take_succ_cons, first_after_newline, hafter, Nat.sub_add_cancel (by omega)]
  | case6 c cs column hc _ ih =>
    obtain ⟨i, hi, rfl⟩ := Option.map_eq_some_iff.1 h
    obtain ⟨hle, hafter⟩ := ih hi
    have hmem : '\n' ∉ cs.take i := (first_after_line_eq_one _).1 (by rw [hafter])
    refine ⟨Nat.succ_le_succ hle, ?_⟩
    rw [List.take_succ_cons, first_after_cons hc, if_neg hmem, hafter]
  | case7 c cs line column _ hc hline ih =>
    obtain ⟨i, hi, rfl⟩ := Option.map_eq_some_iff.1 h
    obtain ⟨hle, hafter⟩ := ih hi
    have hmem : '\n' ∈ cs.take i := Decidable.byContradiction fun hmem => by
      have hfirst := (first_after_line_eq_one _).2 hmem
      rw [hafter] at hfirst
      exact hline hfirst
    refine ⟨Nat.succ_le_succ hle, ?_⟩
    rw [List.take_succ_cons, first_after_cons hc, if_pos hmem, hafter]

/-- **Going back undoes counting.** A location of a text has an offset just if counting the lines and columns of so many
characters arrives at it. It has none just if it is on line 0 or in column 0, past the last line or past the end of its
line. Adding up the lines in front of it gives the same offset. -/
theorem offset?_inverts_counting (text : String) (at_ : Location) :
    (∀ i, offset? text at_ = some i ↔ i ≤ text.length ∧ first.after (text.toList.take i) = at_) ∧
    (offset? text at_ = none ↔ at_.line = 0 ∨ at_.column = 0 ∨ (text.toList.splitOn '\n').length < at_.line ∨
      ∃ line, (text.toList.splitOn '\n')[at_.line - 1]? = some line ∧ line.length + 1 < at_.column) ∧
    offset? text at_ = offsetByLines? text at_ := by
  refine ⟨fun i => ⟨fun h => ?_, ?_⟩, offset?_eq_none_iff text at_, offset?_eq_offsetByLines? text at_⟩
  · rw [← String.length_toList]
    exact first_after_of_charOffset? h
  · rintro ⟨hi, rfl⟩
    have htake := offset?_after (List.take_append_drop i text.toList).symm
    rwa [List.length_take, String.length_toList, Nat.min_eq_left hi] at htake

/-- A carriage return is a column like others, and there is a line behind the last newline. -/
example : offset? "é\r\n" ⟨1, 3⟩ = some 2 ∧ offset? "é\r\n" ⟨2, 1⟩ = some 3 ∧ offset? "é\r\n" ⟨3, 1⟩ = none := by
  decide

end SqlTemplate.Text
