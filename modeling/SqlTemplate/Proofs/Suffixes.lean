import SqlTemplate.Proofs.ParseErrors

/-!
# Taking places off reports

A place behind a message is taken off again, whatever the message quotes. A report may be a message and a place in more
than one way, as the blanks between them may count to the message or not. Of all these ways the one with the shortest
message is taken, and a report that is none of them stays as it is.

* `ReadsAs`: a report is a message with a place behind it.
* `splitPosition_shortest`: the message that is left is the shortest one.
* `splitPosition_undoes_suffix`: places are taken off where they were put, and nothing else is.
-/

namespace SqlTemplate

namespace Sql

/-! ## Reports with a place -/

/-- A report is a message with a place behind it: blanks, if any, the words of a place with the digits of its line and
its column, whatever numbers they spell, and blanks. -/
def ReadsAs (report message line column : List Char) : Prop :=
  ∃ gap blanks : List Char,
    report = message ++ (gap ++ ("at Line: ".toList ++ (line ++ (", Column: ".toList ++ (column ++ blanks))))) ∧
    line ≠ [] ∧ column ≠ [] ∧ (∀ d ∈ line, Text.isDecimalDigit d = true) ∧
    (∀ d ∈ column, Text.isDecimalDigit d = true) ∧ (∀ b ∈ gap, Text.isBlank b = true) ∧
    ∀ b ∈ blanks, Text.isBlank b = true

/-- To end in a place is to be a message with a place behind it, in one way or another. -/
theorem endsInPosition_iff {report : List Char} :
    EndsInPosition report ↔ ∃ message line column, ReadsAs report message line column := by
  constructor
  · rintro ⟨message, line, column, blanks, hreport, hline, hcolumn, hlineDigits, hcolumnDigits, hblanks⟩
    exact ⟨message, line, column, [], blanks, hreport, hline, hcolumn, hlineDigits, hcolumnDigits, nofun, hblanks⟩
  · rintro ⟨message, line, column, gap, blanks, hreport, hline, hcolumn, hlineDigits, hcolumnDigits, -, hblanks⟩
    exact ⟨message ++ gap, line, column, blanks, by rw [hreport, List.append_assoc], hline, hcolumn, hlineDigits,
      hcolumnDigits, hblanks⟩

section

variable {report message line column : List Char}

/-- The blanks at the end of the message may as well stand in front of the place. -/
theorem ReadsAs.trimmed (h : ReadsAs report message line column) :
    ReadsAs report (Text.trimEndChars message) line column := by
  obtain ⟨gap, blanks, hreport, hline, hcolumn, hlineDigits, hcolumnDigits, hgap, hblanks⟩ := h
  obtain ⟨dropped, hdropped, hmessage⟩ := Text.exists_trimEndChars message
  refine ⟨dropped ++ gap, blanks, ?_, hline, hcolumn, hlineDigits, hcolumnDigits, fun b hb => ?_, hblanks⟩
  · rw [hreport, List.append_assoc, ← List.append_assoc _ dropped, ← hmessage]
  · exact (List.mem_append.1 hb).elim (hdropped b) (hgap b)

theorem ReadsAs.isPrefix (h : ReadsAs report message line column) : message <+: report := by
  obtain ⟨gap, blanks, hreport, -⟩ := h
  exact ⟨_, hreport.symm⟩

theorem ReadsAs.ne (h : ReadsAs report message line column) : message ≠ report := by
  obtain ⟨gap, blanks, hreport, -⟩ := h
  rintro rfl
  have hlength := congrArg List.length hreport
  simp at hlength

end

section

variable {report : String} {message line column : List Char}

/-- **The message that is left** ends where the blanks in front of the place start. -/
theorem ReadsAs.message_eq (h : ReadsAs report.toList message line column) :
    (splitPosition report).1.toList = Text.trimEndChars message := by
  obtain ⟨gap, blanks, hreport, hline, hcolumn, hlineDigits, hcolumnDigits, hgap, hblanks⟩ := h
  -- The blanks in front of the place are read as the end of the message and dropped with it.
  have hsplit := @splitPosition_placed (message ++ gap) line column blanks hline hcolumn hlineDigits hcolumnDigits
    hblanks
  rw [List.append_assoc, ← hreport, String.ofList_toList] at hsplit
  rw [hsplit, String.toList_ofList, Text.trimEndChars_append_blanks message hgap]

/-- **The shortest message is left** of all that the report may have. -/
theorem splitPosition_shortest (h : ReadsAs report.toList message line column) :
    ReadsAs report.toList (splitPosition report).1.toList line column ∧ (splitPosition report).1.toList <+: message := by
  obtain ⟨gap, -, hmessage⟩ := Text.exists_trimEndChars message
  rw [h.message_eq]
  exact ⟨h.trimmed, gap, hmessage.symm⟩

theorem splitPosition_isPrefix (report : String) : (splitPosition report).1.toList <+: report.toList := by
  by_cases hends : EndsInPosition report.toList
  · obtain ⟨message, line, column, h⟩ := endsInPosition_iff.1 hends
    exact (splitPosition_shortest h).2.trans h.isPrefix
  · exact ⟨[], by rw [splitPosition_unplaced hends, List.append_nil]⟩

/-- A report that ends in a place loses it. -/
theorem splitPosition_eq_iff (report : String) :
    (splitPosition report).1 = report ↔ ¬ EndsInPosition report.toList := by
  constructor
  · intro heq hends
    obtain ⟨message, line, column, h⟩ := endsInPosition_iff.1 hends
    exact (splitPosition_shortest h).1.ne (congrArg String.toList heq)
  · intro hends
    rw [splitPosition_unplaced hends]

end

end Sql

open Sql

/-- **A place that was put behind a message is taken off again,** whatever the message holds, newlines and places at its
end included, unless it ends in a blank. What is left of a report is the start of it, and it is all of it just if the
report does not end in a place. Of all ways to read the report as a message and a place, the one with the shortest
message is taken. -/
theorem splitPosition_undoes_suffix :
    (∀ message line column, (∀ c ∈ message.toList.getLast?, Text.isBlank c = false) → 1 ≤ line → line < 2 ^ 64 →
      column < 2 ^ 64 →
      splitPosition (message ++ (" at Line: " ++ toString line ++ ", Column: " ++ toString column)) =
        (message, some ⟨line, column⟩)) ∧
    ∀ report, (splitPosition report).1.toList <+: report.toList ∧
      ((splitPosition report).1 = report ↔ ¬ EndsInPosition report.toList) ∧
      ∀ message line column, ReadsAs report.toList message line column →
        ReadsAs report.toList (splitPosition report).1.toList line column ∧
          (splitPosition report).1.toList <+: message := by
  refine ⟨fun message line column hsolid hline hlineMax hcolumnMax => ?_, fun report => ?_⟩
  · have hmax : 2 ^ 64 = maxPosition + 1 := by decide
    have hplace : 0 < line ∧ line ≤ maxPosition ∧ column ≤ maxPosition := ⟨hline, by omega, by omega⟩
    have hsplit := splitPosition_positionSuffix message ⟨line, column⟩
    rwa [Parser.positionSuffix, Text.trimEnd, Text.trimEndChars_eq_self hsolid, String.ofList_toList,
      if_pos hplace] at hsplit
  · exact ⟨splitPosition_isPrefix report, splitPosition_eq_iff report, fun _ _ _ => splitPosition_shortest⟩

/-- A place that the message quotes stays in it, and the blanks in front of the last place do not. -/
theorem quoted_place_kept :
    splitPosition ("Expected: x,\nfound: y at Line: 1, Column: 2" ++
      (" at Line: " ++ toString 3 ++ ", Column: " ++ toString 40)) =
        ("Expected: x,\nfound: y at Line: 1, Column: 2", some ⟨3, 40⟩) ∧
    ReadsAs "found: y \n at Line: 3, Column: 40".toList "found: y ".toList ['3'] ['4', '0'] ∧
    (splitPosition "found: y \n at Line: 3, Column: 40").1.toList <+: "found: y ".toList := by
  have hlast : "Expected: x,\nfound: y at Line: 1, Column: 2".toList.getLast? = some '2' := by decide
  have hreads : ReadsAs "found: y \n at Line: 3, Column: 40".toList "found: y ".toList ['3'] ['4', '0'] :=
    ⟨['\n', ' '], [], by decide, by decide, by decide, List.all_eq_true.1 (by decide), List.all_eq_true.1 (by decide),
      List.all_eq_true.1 (by decide), nofun⟩
  obtain ⟨hundone, hleft⟩ := splitPosition_undoes_suffix
  refine ⟨hundone _ 3 40 (fun c hc => ?_) (by decide) (by decide) (by decide), hreads, ((hleft _).2.2 _ _ _ hreads).2⟩
  cases hlast.symm.trans hc
  decide

end SqlTemplate
