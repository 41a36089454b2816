import SqlTemplate.Proofs.Expansion
import SqlTemplate.Proofs.FilterStructure

/-!
# Macros without arguments

The bounds of a time range are written with digits and a few signs, the width of an interval with digits. The texts of
the macros that take no arguments are read as constants and as calls of functions, none of which is a macro.

* `callOf_start`, `callOf_interval`: nothing that is read from these texts is a call.
-/

namespace SqlTemplate

open Sql Macro Time SqlTemplate.Sql.Parser

variable {dialect : Dialect}

/-! ## The texts of times -/

/-- The characters of dates and times. -/
def isClockChar (c : Char) : Bool := c.isDigit || ['+', '-', ':', '.', ' '].contains c

/-- The text holds nothing but characters of dates and times. -/
def IsClockText (text : String) : Prop := text.toList.all isClockChar = true

theorem IsClockText.append {s t : String} (hs : IsClockText s) (ht : IsClockText t) : IsClockText (s ++ t) := by
  rw [IsClockText, String.toList_append, List.all_append, hs, ht]
  rfl

theorem isClockText_padded (width n : Nat) : IsClockText (padded width n) := by
  refine List.all_eq_true.2 fun c hc => ?_
  simp only [padded, String.toList_ofList, List.mem_append, List.mem_replicate] at hc
  rcases hc with ⟨-, rfl⟩ | hc
  · decide
  · simp [isClockChar, Nat.isDigit_of_mem_toDigits (by decide) (by decide) hc]

theorem isClockText_sign {s : String} (h : s ∈ ["+", "-", ":", ".", " "]) : IsClockText s := by
  simp only [List.mem_cons, List.not_mem_nil, or_false] at h
  rcases h with rfl | rfl | rfl | rfl | rfl <;> rfl

theorem isClockText_date (d : Date) : IsClockText d.display := by
  have hyear : IsClockText (yearText d.year) := by
    unfold yearText
    split
    · exact isClockText_padded ..
    · refine .append ?_ (isClockText_padded ..)
      split <;> exact isClockText_sign (by decide)
  exact (((hyear.append (isClockText_sign (by decide))).append (isClockText_padded ..)).append
    (isClockText_sign (by decide))).append (isClockText_padded ..)

theorem isClockText_seconds (t : Instant) : IsClockText t.secondsText := by
  refine ((isClockText_date _).append (isClockText_sign (by decide))).append ?_
  exact (((isClockText_padded ..).append (isClockText_sign (by decide))).append (isClockText_padded ..)).append
    (isClockText_sign (by decide)) |>.append (isClockText_padded ..)

theorem isClockText_time (precision : Precision) (t : Instant) : IsClockText (timeText precision t) := by
  cases precision with
  | seconds => exact isClockText_seconds t
  | millis => exact ((isClockText_seconds t).append (isClockText_sign (by decide))).append (isClockText_padded ..)

/-- A time between quotes is the literal of its text. -/
theorem quoted_eq_stringLiteral (dialect : Dialect) {text : String} (h : IsClockText text) :
    "'" ++ text ++ "'" = stringLiteral dialect text := by
  have hbody : ∀ cs : List Char, (∀ c ∈ cs, isClockChar c = true) → cs.flatMap (literalChar dialect) = cs := by
    intro cs
    induction cs with
    | nil => intro _; rfl
    | cons c cs ih =>
      intro hcs
      have hc := hcs c List.mem_cons_self
      have hquote : c ≠ '\'' := by rintro rfl; revert hc; decide
      have hslash : c ≠ '\\' := by rintro rfl; revert hc; decide
      rw [List.flatMap_cons, ih fun d hd => hcs d (List.mem_cons_of_mem _ hd)]
      simp [literalChar, hquote, hslash]
  apply String.toList_inj.1
  rw [stringLiteral, hbody _ (List.all_eq_true.1 h)]
  simp

/-! ## What the texts are read as -/

/-- What is read from a text is read from tokens that it spells. -/
theorem not_hasCall_of_spells {text : String} {tokens : List Token} (hs : Spells dialect text.toList tokens)
    (hread : ∀ ls : List Lexeme, ls.map Lexeme.token = tokens →
      ∃ e, (grammar dialect maxDepth).expr 0 ls = .ok (e, []) ∧ ¬ HasCall e)
    {x : Expr} (hx : parseExpr dialect text = .ok x) : ¬ HasCall x := by
  obtain ⟨ls, hls, htokens⟩ := hs.lexemes
  obtain ⟨e, he, hcall⟩ := hread ls htokens
  rw [parseExpr_eq_ok hls, he] at hx
  cases hx
  exact hcall

/-- A bound of the time range is read as a constant, or as a function of constants. -/
theorem not_hasCall_timeValue (dialect : Dialect) (precision : Precision) (t : Instant) {x : Expr}
    (hx : parseExpr dialect (timeValue dialect precision t) = .ok x) : ¬ HasCall x := by
  have hquoted := quoted_eq_stringLiteral dialect (isClockText_time precision t)
  cases dialect with
  | clickHouse =>
    cases precision with
    | seconds =>
      have hliteral := spells_text .clickHouse t.secondsText (by simp) (spells_closing (.nil .clickHouse))
      have hs := Spells.word (w := "toDateTime") rfl rfl (spells_opening hliteral)
      rw [← show _ = stringLiteral _ t.secondsText from hquoted] at hs
      refine not_hasCall_of_spells (by simpa [timeText] using hs) (fun ls hls => ?_) hx
      simp only [List.map_eq_cons_iff, List.map_eq_nil_iff] at hls
      obtain ⟨⟨_, a⟩, _, rfl, rfl, ⟨_, b⟩, _, rfl, rfl, ⟨_, c⟩, _, rfl, rfl, ⟨_, d⟩, _, rfl, rfl, rfl⟩ := hls
      have hname : isMacroName "toDateTime" = false := by decide
      refine ⟨_, rfl, not_hasCall_function ?_ [_] (by simp [not_hasCall_literal])⟩
      exact hname
    | millis =>
      have hnumber := Spells.number (n := "3") (by simp) (by simp) rfl (spells_closing (.nil .clickHouse))
      have hliteral := spells_text .clickHouse t.millisText (by simp) (spells_comma hnumber)
      have hs := Spells.word (w := "toDateTime64") rfl rfl (spells_opening hliteral)
      rw [← show _ = stringLiteral _ t.millisText from hquoted] at hs
      refine not_hasCall_of_spells (by simpa [timeText] using hs) (fun ls hls => ?_) hx
      simp only [List.map_eq_cons_iff, List.map_eq_nil_iff] at hls
      obtain ⟨⟨_, a⟩, _, rfl, rfl, ⟨_, b⟩, _, rfl, rfl, ⟨_, c⟩, _, rfl, rfl, ⟨_, d⟩, _, rfl, rfl, ⟨_, f⟩, _, rfl, rfl,
        ⟨_, g⟩, _, rfl, rfl, rfl⟩ := hls
      have hname : isMacroName "toDateTime64" = false := by decide
      refine ⟨_, rfl, not_hasCall_function ?_ [_, _] (by simp [not_hasCall_literal])⟩
      exact hname
  | generic =>
    have hliteral := (spells_text .generic (timeText precision t) (by simp) (.nil .generic)).blank
    have hs := Spells.word (w := "TIMESTAMP") rfl rfl hliteral
    rw [← hquoted] at hs
    refine not_hasCall_of_spells (by simpa using hs) (fun ls hls => ?_) hx
    simp only [List.map_eq_cons_iff, List.map_eq_nil_iff] at hls
    obtain ⟨⟨_, a⟩, _, rfl, rfl, ⟨_, b⟩, _, rfl, rfl, rfl⟩ := hls
    exact ⟨_, rfl, not_hasCall_of_leaf rfl rfl⟩

/-- A number is read as a constant. -/
theorem not_hasCall_number (dialect : Dialect) (n : Nat) {x : Expr} (hx : parseExpr dialect (toString n) = .ok x) :
    ¬ HasCall x := by
  have htoList : (toString n).toList = Nat.toDigits 10 n := Nat.toList_repr
  have hdigits : ∀ c ∈ (toString n).toList, c.isDigit = true := by
    rw [htoList]
    exact fun c hc => Nat.isDigit_of_mem_toDigits (by decide) (by decide) hc
  have hs := Spells.number hdigits (by rw [htoList]; exact Nat.toDigits_ne_nil) rfl (.nil dialect)
  rw [List.append_nil] at hs
  refine not_hasCall_of_spells hs (fun ls hls => ?_) hx
  simp only [List.map_eq_cons_iff, List.map_eq_nil_iff] at hls
  obtain ⟨⟨_, a⟩, _, rfl, rfl, rfl⟩ := hls
  exact ⟨_, rfl, not_hasCall_literal _⟩

end SqlTemplate
