/-!
# Blank characters

The characters of the Unicode class White_Space, and trimming by that class.
-/

namespace SqlTemplate.Text

/-- A character of the Unicode class White_Space. -/
def isBlank (c : Char) : Bool :=
  let n := c.toNat
  (9 ≤ n && n ≤ 13) || n == 0x20 || n == 0x85 || n == 0xA0 || n == 0x1680 ||
    (0x2000 ≤ n && n ≤ 0x200A) || n == 0x2028 || n == 0x2029 || n == 0x202F || n == 0x205F ||
    n == 0x3000

/-- The numbers of the blank characters. -/
def blankCodes : List Nat :=
  List.range' 9 5 ++ [0x20, 0x85, 0xA0, 0x1680] ++ List.range' 0x2000 11 ++ [0x2028, 0x2029, 0x202F, 0x205F, 0x3000]

theorem mem_blankCodes {c : Char} (h : isBlank c = true) : c.toNat ∈ blankCodes := by
  simp only [isBlank, Bool.or_eq_true, Bool.and_eq_true, decide_eq_true_eq, beq_iff_eq] at h
  simp only [blankCodes, List.mem_append, List.mem_range'_1, List.mem_cons, List.not_mem_nil, or_false]
  omega

/-- What is decided for the numbers of the blanks holds of every blank. -/
theorem of_isBlank {p : Char → Prop} (h : ∀ n ∈ blankCodes, p (Char.ofNat n)) {c : Char} (hc : isBlank c = true) :
    p c := by
  rw [← Char.ofNat_toNat c]
  exact h _ (mem_blankCodes hc)

/-- Drops the blanks at the end. -/
def trimEndChars (cs : List Char) : List Char :=
  (cs.reverse.dropWhile isBlank).reverse

/-- Blanks behind a text are dropped. -/
theorem trimEndChars_append_blanks (cs : List Char) {gap : List Char} (hgap : ∀ b ∈ gap, isBlank b = true) :
    trimEndChars (cs ++ gap) = trimEndChars cs := by
  unfold trimEndChars
  rw [List.reverse_append, List.dropWhile_append_of_pos fun b hb => hgap b (List.mem_reverse.1 hb)]

/-- A text is what is left without the blanks at its end, and these. -/
theorem exists_trimEndChars (cs : List Char) :
    ∃ gap, (∀ b ∈ gap, isBlank b = true) ∧ cs = trimEndChars cs ++ gap := by
  refine ⟨(cs.reverse.takeWhile isBlank).reverse, fun b hb => ?_, ?_⟩
  · exact List.all_eq_true.1 List.all_takeWhile b (List.mem_reverse.1 hb)
  · rw [trimEndChars, ← List.reverse_append, List.takeWhile_append_dropWhile, List.reverse_reverse]

/-- A text that does not end in a blank stays as it is. -/
theorem trimEndChars_eq_self {cs : List Char} (h : ∀ c ∈ cs.getLast?, isBlank c = false) :
    trimEndChars cs = cs := by
  rw [← List.head?_reverse] at h
  unfold trimEndChars
  cases hreverse : cs.reverse with
  | nil => exact (List.reverse_eq_nil_iff.1 hreverse).symm
  | cons c before =>
    have hc : isBlank c = false := h c (by rw [hreverse]; rfl)
    rw [List.dropWhile_cons_of_neg (by rw [hc]; decide), ← hreverse, List.reverse_reverse]

/-- Drops the blanks at both ends. -/
def trimChars (cs : List Char) : List Char :=
  trimEndChars (cs.dropWhile isBlank)

/-- Drops the blanks at the start of a text. -/
def trimStart (s : String) : String :=
  String.ofList (s.toList.dropWhile isBlank)

/-- Drops the blanks at the end of a text. -/
def trimEnd (s : String) : String :=
  String.ofList (trimEndChars s.toList)

/-- Drops the blanks at both ends of a text. -/
def trim (s : String) : String :=
  String.ofList (trimChars s.toList)

/-- A text of blanks only. -/
def isBlankText (s : String) : Bool :=
  s.toList.all isBlank

theorem isBlank_of_isWhitespace {c : Char} (h : c.isWhitespace) : isBlank c := by
  simp only [Char.isWhitespace, Bool.or_eq_true, decide_eq_true_eq] at h
  rcases h with ((rfl | rfl) | rfl) | rfl <;> decide

end SqlTemplate.Text
