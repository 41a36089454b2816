import SqlTemplate.Proofs.Quoted
import SqlTemplate.Sql.Document

/-!
# What a text spells

A text spells tokens if scanning it gives them, blanks and comments dropped. A text is taken apart from the left: each
lemma puts one more token in front of a text that spells some tokens already, provided that the text does not go on with
a character that would belong to the token.

* `Spells.lexemes`: a text that spells tokens is read as these tokens, each with its place.
* `Spells.word`, `Spells.quotedWord`, `Spells.string`, `Spells.sign`, `Spells.blank`: the tokens in front.
-/

namespace SqlTemplate.Sql

/-- Scanning the text gives these tokens, where a placeholder named as a macro counts as a word, and blanks are left
out. -/
def Spells (dialect : Dialect) (cs : List Char) (tokens : List Token) : Prop :=
  ∃ pieces : List Piece, (∀ fuel, cs.length ≤ fuel → scanAll dialect fuel cs = .ok pieces) ∧
    (pieces.map fun p => p.token.promote).filter (· != .blank) = tokens

/-- The tokens of pieces do not depend on where these are placed. -/
theorem map_token_place (start : Text.Location) (pieces : List Piece) :
    ((place start pieces).filter (·.token != .blank)).map Lexeme.token =
      (pieces.map fun p => p.token.promote).filter (· != .blank) := by
  have hplace : (place start pieces).map Lexeme.token = pieces.map fun p => p.token.promote := by
    induction pieces generalizing start with
    | nil => rfl
    | cons p pieces ih => simp [place, ih]
  rw [← hplace, List.filter_map]
  rfl

namespace Spells

variable {dialect : Dialect} {c : Char} {cs r : List Char} {t : Token} {ts : List Token}

theorem nil (dialect : Dialect) : Spells dialect [] [] :=
  ⟨[], fun fuel _ => by cases fuel <;> rfl, rfl⟩

/-- One more token in front, which may be a blank. -/
theorem step (hs : scanToken dialect c cs = .ok (t, r)) (hl : r.length ≤ cs.length)
    (h : Spells dialect r ts) :
    Spells dialect (c :: cs) (if t.promote = .blank then ts else t.promote :: ts) := by
  obtain ⟨pieces, hp, rfl⟩ := h
  refine ⟨⟨t, (c :: cs).take (cs.length + 1 - r.length)⟩ :: pieces, fun fuel hf => ?_, ?_⟩
  · cases fuel with
    | zero => simp at hf
    | succ fuel =>
      have hr : scanAll dialect fuel r = .ok pieces := hp fuel (by simp at hf; omega)
      simp [scanAll, hs, hr, bind, Except.bind, pure, Except.pure]
  · by_cases hb : t.promote = .blank <;> simp [hb]

theorem token (hs : scanToken dialect c cs = .ok (t, r)) (hl : r.length ≤ cs.length)
    (ht : t.promote ≠ .blank) (h : Spells dialect r ts) : Spells dialect (c :: cs) (t.promote :: ts) := by
  simpa [ht] using step hs hl h

/-- A blank in front adds nothing. -/
theorem blank (h : Spells dialect cs ts) : Spells dialect (' ' :: cs) ts := by
  have hs : scanToken dialect ' ' cs = .ok (.blank, cs) := by cases dialect <;> rfl
  simpa [Token.promote] using step hs (Nat.le_refl _) h

/-- A text that spells tokens is read as these tokens. -/
theorem lexemes {text : String} (h : Spells dialect text.toList ts) :
    ∃ ls, Sql.lexemes dialect text = .ok ls ∧ ls.map Lexeme.token = ts := by
  obtain ⟨pieces, hp, rfl⟩ := h
  refine ⟨(place .first pieces).filter (·.token != .blank), ?_, map_token_place .first pieces⟩
  simp [Sql.lexemes, scan, hp _ (Nat.le_refl _)]

end Spells

/-! ## Words -/

/-- The characters that end a word: a blank, a point, a comma and brackets. -/
def endsWord (cs : List Char) : Bool :=
  match cs with
  | [] => true
  | c :: _ => [' ', '.', ',', '(', ')', '[', ']', ':'].contains c

theorem endsWord_cases {cs : List Char} (h : endsWord cs = true) :
    cs = [] ∨ ∃ c rest, cs = c :: rest ∧ c ∈ [' ', '.', ',', '(', ')', '[', ']', ':'] := by
  cases cs with
  | nil => exact .inl rfl
  | cons c rest => exact .inr ⟨c, rest, rfl, by simpa [endsWord] using h⟩

/-- A character that starts a plain word. -/
def isPlainStart (c : Char) : Bool := c.isAlpha || c == '_'

/-- A character that goes on a plain word. -/
def isPlainPart (c : Char) : Bool := c.isAlphanum || c == '_'

theorem isPlainWord_cons {c : Char} {cs : List Char} :
    Macro.isPlainWord (c :: cs) = true ↔ isPlainStart c = true ∧ ∀ d ∈ cs, isPlainPart d = true := by
  simp [Macro.isPlainWord, isPlainStart, isPlainPart]

theorem isPlainPart_of_isPlainStart {c : Char} (h : isPlainStart c = true) : isPlainPart c = true := by
  simp only [isPlainStart, isPlainPart, Char.isAlphanum, Bool.or_eq_true] at h ⊢
  exact h.imp_left .inl

/-- The small letters of ASCII by their numbers. -/
theorem isLower_iff {c : Char} : c.isLower = true ↔ 97 ≤ c.toNat ∧ c.toNat ≤ 122 := by
  have hiff : c.isLower = true ↔ (decide ('a'.val ≤ c.val) && decide (c.val ≤ 'z'.val)) = true := Iff.rfl
  rw [hiff, Bool.and_eq_true, decide_eq_true_eq, decide_eq_true_eq, UInt32.le_iff_toNat_le, UInt32.le_iff_toNat_le]
  rfl

/-- The letters of ASCII by their numbers. -/
theorem isAlpha_iff {c : Char} :
    c.isAlpha = true ↔ (65 ≤ c.toNat ∧ c.toNat ≤ 90) ∨ 97 ≤ c.toNat ∧ c.toNat ≤ 122 := by
  have hiff : c.isAlpha = true ↔ (decide ('A'.val ≤ c.val ∧ c.val ≤ 'Z'.val) || c.isLower) = true := Iff.rfl
  rw [hiff, Bool.or_eq_true, isLower_iff, decide_eq_true_eq, UInt32.le_iff_toNat_le, UInt32.le_iff_toNat_le]
  rfl

theorem Text.isLetter_of_isAlpha {c : Char} (h : c.isAlpha = true) : Text.isLetter c = true := by
  have hn : c.toNat < 0x80 := by
    have hcode := isAlpha_iff.1 h
    omega
  simp [Text.isLetter, hn, h]

theorem isWordStart_of_plain (dialect : Dialect) {c : Char} (h : isPlainStart c = true) :
    dialect.isWordStart c = true := by
  cases dialect
  · simpa [Dialect.isWordStart, isPlainStart] using h
  · simp only [isPlainStart, Bool.or_eq_true, Dialect.isWordStart] at h ⊢
    rcases h with h | h
    · simp [Text.isLetter_of_isAlpha h]
    · simp [h]

theorem isWordPart_of_plain (dialect : Dialect) {c : Char} (h : isPlainPart c = true) :
    dialect.isWordPart c = true := by
  cases dialect
  · simpa [Dialect.isWordPart, isPlainPart] using h
  · simp only [isPlainPart, Char.isAlphanum, Bool.or_eq_true, Dialect.isWordPart] at h ⊢
    rcases h with (h | h) | h
    · simp [Text.isLetter_of_isAlpha h]
    · simp [h]
    · simp [h]

/-- A character of a plain word is no quote, no sign and no blank. -/
theorem ne_of_isPlainPart {c d : Char} (h : isPlainPart c = true) (hd : isPlainPart d = false) : c ≠ d := by
  rintro rfl
  simp [h] at hd

theorem isDigit_of_isPlainStart {c : Char} (h : isPlainStart c = true) : c.isDigit = false := by
  simp only [isPlainStart, Bool.or_eq_true, beq_iff_eq, isAlpha_iff] at h
  rcases h with h | rfl
  · simp only [Char.isDigit, Bool.and_eq_false_iff, decide_eq_false_iff_not, UInt32.le_iff_toNat_le, ge_iff_le]
    have hcode : c.toNat = c.val.toNat := rfl
    have hnine : '9'.val.toNat = 57 := rfl
    omega
  · decide

/-- A letter marks no text literal unless a quote follows it. -/
theorem scanMarkedString?_eq_none (dialect : Dialect) (c : Char) {cs : List Char}
    (h : ∀ d ∈ cs.head?, d ≠ '\'' ∧ d ≠ '"' ∧ d ≠ '&') : scanMarkedString? dialect c cs = none := by
  unfold scanMarkedString?
  split <;> simp_all

theorem takeWhile_word {p : Char → Bool} {w cs : List Char} (hw : ∀ c ∈ w, p c = true)
    (hcs : ∀ c ∈ cs.head?, p c = false) : (w ++ cs).takeWhile p = w ∧ (w ++ cs).dropWhile p = cs := by
  induction w with
  | nil => cases cs <;> simp_all
  | cons c w ih => simp_all

theorem isWordPart_of_endsWord (dialect : Dialect) {cs : List Char} (h : endsWord cs = true) :
    ∀ c ∈ cs.head?, dialect.isWordPart c = false := by
  obtain rfl | ⟨c, rest, rfl, hc⟩ := endsWord_cases h
  · simp
  · simp only [List.head?_cons, Option.mem_some_iff, forall_eq']
    simp only [List.mem_cons, List.not_mem_nil, or_false] at hc
    rcases hc with rfl | rfl | rfl | rfl | rfl | rfl | rfl | rfl <;> cases dialect <;> decide

/-- The text does not go on with a character of a word or with the rest of a marked literal. -/
def LeavesWord (dialect : Dialect) (cs : List Char) : Prop :=
  ∀ d ∈ cs.head?, dialect.isWordPart d = false ∧ d ≠ '\'' ∧ d ≠ '"' ∧ d ≠ '&'

theorem leavesWord_of_endsWord (dialect : Dialect) {cs : List Char} (h : endsWord cs = true) :
    LeavesWord dialect cs := by
  intro d hd
  refine ⟨isWordPart_of_endsWord dialect h d hd, ?_⟩
  obtain rfl | ⟨c, rest, rfl, hc⟩ := endsWord_cases h
  · cases hd
  · obtain rfl : c = d := Option.some.inj hd
    simp only [List.mem_cons, List.not_mem_nil, or_false] at hc
    rcases hc with rfl | rfl | rfl | rfl | rfl | rfl | rfl | rfl <;> decide

/-- Scanning a plain word. -/
theorem scanToken_word (dialect : Dialect) {c : Char} {w cs : List Char} (hw : Macro.isPlainWord (c :: w) = true)
    (hcs : LeavesWord dialect cs) :
    scanToken dialect c (w ++ cs) = .ok (.word (String.ofList (c :: w)) none, cs) := by
  obtain ⟨hc, hw⟩ := isPlainWord_cons.1 hw
  have hp := isPlainPart_of_isPlainStart hc
  have hm : scanMarkedString? dialect c (w ++ cs) = none := by
    apply scanMarkedString?_eq_none
    cases w with
    | cons d w =>
      simp only [List.cons_append, List.head?_cons, Option.mem_some_iff, forall_eq']
      have hd := hw d List.mem_cons_self
      exact ⟨ne_of_isPlainPart hd (by decide), ne_of_isPlainPart hd (by decide), ne_of_isPlainPart hd (by decide)⟩
    | nil => exact fun d hd => (hcs d hd).2
  have hword : scanWord dialect [c] (w ++ cs) = .ok (.word (String.ofList (c :: w)) none, cs) := by
    obtain ⟨h₁, h₂⟩ := takeWhile_word (fun d hd => isWordPart_of_plain dialect (hw d hd)) fun d hd => (hcs d hd).1
    simp [scanWord, h₁, h₂]
  have hne : ∀ d, isPlainPart d = false → c ≠ d := fun d hd => ne_of_isPlainPart hp hd
  have hmark : ¬ (dialect = .generic ∧ (c = '#' ∨ c = '@')) :=
    fun h => h.2.elim (hne '#' (by decide)) (hne '@' (by decide))
  have hslash : ¬ (dialect = .generic ∧ c = '/' ∧ (w ++ cs).head? = some '/') :=
    fun h => hne '/' (by decide) h.2.1
  unfold scanToken
  rw [hm]
  simp only
  split
  · exact absurd rfl (hne '\r' (by decide))
  · exact absurd rfl (hne '\'' (by decide))
  · exact absurd rfl (hne '"' (by decide))
  · exact absurd rfl (hne '\x60' (by decide))
  · exact absurd rfl (hne '.' (by decide))
  · exact absurd rfl (hne '-' (by decide))
  · exact absurd rfl (hne '/' (by decide))
  · exact absurd rfl (hne '$' (by decide))
  · exact absurd rfl (hne '?' (by decide))
  · rw [if_neg (by simp [isDigit_of_isPlainStart hc]), if_neg hmark, if_neg hslash,
      if_pos (isWordStart_of_plain dialect hc), hword]

/-! ## Numbers -/

/-- The characters that end an operand: a blank, a comma and a closing parenthesis. -/
def endsOperand (cs : List Char) : Bool :=
  match cs with
  | [] => true
  | c :: _ => [' ', ',', ')'].contains c

theorem endsWord_of_endsOperand {cs : List Char} (h : endsOperand cs = true) : endsWord cs = true := by
  cases cs with
  | nil => rfl
  | cons c rest =>
    simp only [endsOperand, List.contains_eq_mem, List.mem_cons, List.not_mem_nil, or_false, decide_eq_true_eq] at h
    rcases h with rfl | rfl | rfl <;> rfl

theorem isDigit_cases {c : Char} (h : c.isDigit = true) :
    c ∈ ['0', '1', '2', '3', '4', '5', '6', '7', '8', '9'] := by
  simp only [Char.isDigit, Bool.and_eq_true, decide_eq_true_eq, UInt32.le_iff_toNat_le, ge_iff_le] at h
  have hlow : '0'.val.toNat = 48 := rfl
  have hhigh : '9'.val.toNat = 57 := rfl
  have hval : c.val.toNat ∈ [48, 49, 50, 51, 52, 53, 54, 55, 56, 57] := by
    simp only [List.mem_cons, List.not_mem_nil, or_false]
    omega
  simp only [List.mem_cons, List.not_mem_nil, or_false] at hval ⊢
  simp only [← Char.toNat_inj]
  exact hval

/-- Digits are a number up to what ends them. -/
theorem scanNumber_digits {ds cs : List Char} (hd : ∀ c ∈ ds, c.isDigit = true) (hne : ds ≠ [])
    (hcs : endsOperand cs = true) : scanNumber (ds ++ cs) = .ok (.number (String.ofList ds) false, cs) := by
  have hend : cs = [] ∨ ∃ c rest, cs = c :: rest ∧ c ∈ [' ', ',', ')'] := by
    cases cs with
    | nil => exact .inl rfl
    | cons c rest => exact .inr ⟨c, rest, rfl, by simpa [endsOperand] using hcs⟩
  have hhead : ∀ c ∈ cs.head?, c.isDigit = false := by
    rcases hend with rfl | ⟨c, rest, rfl, hc⟩
    · simp
    · simp only [List.mem_cons, List.not_mem_nil, or_false] at hc
      rcases hc with rfl | rfl | rfl <;> simp
  obtain ⟨htake, hdrop⟩ := takeWhile_word hd hhead
  obtain ⟨htake', hdrop'⟩ := takeWhile_word (w := []) (p := Char.isDigit) (by simp) hhead
  simp only [List.nil_append] at htake' hdrop'
  have hempty : ds.isEmpty = false := by simpa using hne
  unfold scanNumber
  rw [htake, hdrop]
  rcases hend with rfl | ⟨c, rest, rfl, hc⟩
  · simp [hempty, scanExponent]
  · simp only [List.mem_cons, List.not_mem_nil, or_false] at hc
    rcases hc with rfl | rfl | rfl <;> simp [hempty, scanExponent, htake', hdrop']

theorem scanToken_number (dialect : Dialect) {c : Char} {ds cs : List Char} (hd : ∀ d ∈ c :: ds, d.isDigit = true)
    (hcs : endsOperand cs = true) :
    scanToken dialect c (ds ++ cs) = .ok (.number (String.ofList (c :: ds)) false, cs) := by
  have hnumber := scanNumber_digits hd (by simp) hcs
  have hscan : scanToken dialect c (ds ++ cs) = scanNumber (c :: (ds ++ cs)) := by
    have hc := isDigit_cases (hd c List.mem_cons_self)
    simp only [List.mem_cons, List.not_mem_nil, or_false] at hc
    rcases hc with rfl | rfl | rfl | rfl | rfl | rfl | rfl | rfl | rfl | rfl <;> rfl
  exact hscan.trans hnumber

/-! ## Texts between quotes -/

/-- A name between quotes ends at the quote behind its text. -/
theorem scanToken_quotedWord (dialect : Dialect) {q : Char} (hq : q = '"' ∨ q = '\x60') {held cs : List Char}
    (hr : readQuoted q false (held ++ [q]) = some (held, [])) (hcs : cs.head? ≠ some q) :
    scanToken dialect q (held ++ q :: cs) = .ok (.word (String.ofList held) (some q), cs) := by
  have hr' : readQuoted q false (held ++ q :: cs) = some (held, cs) := by
    simpa using readQuoted_extend hr hcs
  have hscan : scanToken dialect q (held ++ q :: cs) = scanQuotedWord q (q :: (held ++ q :: cs)) := by
    rcases hq with rfl | rfl <;> rfl
  rw [hscan, scanQuotedWord, List.drop_one, List.tail_cons, hr']

/-- A text literal ends at the quote behind its text. -/
theorem scanToken_literal (dialect : Dialect) {held cs : List Char}
    (hr : readQuoted '\'' dialect.hasBackslashEscapes (held ++ ['\'']) = some (held, []))
    (hcs : cs.head? ≠ some '\'') :
    scanToken dialect '\'' (held ++ '\'' :: cs) = .ok (.string .single (String.ofList held), cs) := by
  have hr' : readQuoted '\'' dialect.hasBackslashEscapes (held ++ '\'' :: cs) = some (held, cs) := by
    simpa using readQuoted_extend hr hcs
  have hscan : scanToken dialect '\'' (held ++ '\'' :: cs) =
      scanString .single '\'' dialect.hasBackslashEscapes ('\'' :: (held ++ '\'' :: cs)) := rfl
  rw [hscan, scanString, List.drop_one, List.tail_cons, hr']

/-! ## Signs -/

/-- A character that starts nothing but signs and comments. -/
def startsSign (dialect : Dialect) (c : Char) : Bool :=
  !(['\r', '\'', '"', '\x60', '.', '$', '?', '#', '@'].contains c) &&
    !(['n', 'x', 'e', 'b', 'r', 'u'].contains c.toLower) && !c.isDigit && !dialect.isWordStart c && !Text.isBlank c

/-- The two characters do not open a comment, and are not the sign for whole quotients. -/
def apart (c : Char) (next : Option Char) : Bool :=
  !(c == '-' && next == some '-') && !(c == '/' && (next == some '*' || next == some '/'))

theorem scanToken_sign {dialect : Dialect} {c : Char} {cs : List Char} (hc : startsSign dialect c = true)
    (hnext : apart c cs.head? = true) : scanToken dialect c cs = scanSign c cs := by
  simp only [startsSign, Bool.and_eq_true, Bool.not_eq_true', List.contains_eq_mem, decide_eq_false_iff_not] at hc
  obtain ⟨⟨⟨⟨hspecial, hmark⟩, hdigit⟩, hword⟩, hblank⟩ := hc
  have hnone : scanMarkedString? dialect c cs = none := by
    have hletter : ∀ d ∈ ['n', 'x', 'e', 'b', 'r', 'u'], c.toLower ≠ d := fun d hd h => hmark (h ▸ hd)
    unfold scanMarkedString?
    dsimp only
    split
    case h_7 => rfl
    all_goals exact absurd ‹c.toLower = _› (hletter _ (by decide))
  have hmarked : ¬ (dialect = .generic ∧ (c = '#' ∨ c = '@')) := by
    rintro ⟨-, rfl | rfl⟩ <;> exact hspecial (by decide)
  have hquotient : ¬ (dialect = .generic ∧ c = '/' ∧ cs.head? = some '/') := by
    rintro ⟨-, rfl, hhead⟩
    rw [hhead] at hnext
    cases hnext
  unfold scanToken
  rw [hnone]
  simp only
  split
  case h_6 => cases hnext
  case h_7 => cases hnext
  case h_10 =>
    rw [if_neg (by simp [hdigit]), if_neg hmarked, if_neg hquotient, if_neg (by simp [hword]),
      if_neg (by simp [hblank])]
  all_goals exact absurd (by decide) hspecial

/-- A blank that a text goes on with does not matter to what has no blank in it. -/
theorem dropStart?_append_blank {start : List Char} (hstart : ' ' ∉ start) (w cs : List Char) :
    dropStart? start (w ++ ' ' :: cs) = (dropStart? start w).map (· ++ ' ' :: cs) := by
  induction start generalizing w with
  | nil => rfl
  | cons p ps ih =>
    obtain ⟨hp, hps⟩ := not_or.1 (mt List.mem_cons.2 hstart)
    cases w with
    | nil => exact if_neg (Ne.symm hp)
    | cons c w =>
      rw [List.cons_append, dropStart?, dropStart?]
      split
      · exact ih hps w
      · rfl

theorem firstSign?_append_blank {signs : List (String × String)} (hsigns : ∀ s ∈ signs, ' ' ∉ s.1.toList)
    (w cs : List Char) :
    firstSign? signs (w ++ ' ' :: cs) = (firstSign? signs w).map fun r => (r.1, r.2 ++ ' ' :: cs) := by
  induction signs with
  | nil => rfl
  | cons s signs ih =>
    obtain ⟨hs, hsigns⟩ := List.forall_mem_cons.1 hsigns
    rw [firstSign?, firstSign?, dropStart?_append_blank hs]
    cases dropStart? s.1.toList w with
    | none => exact ih hsigns
    | some rest => rfl

theorem longSigns_written : ∀ s ∈ longSigns, ' ' ∉ s.1.toList := by decide +kernel

/-- The sign that some characters are, if they are one. -/
def signOf (c : Char) (w : List Char) : Token × List Char :=
  (firstSign? longSigns (c :: w)).getD (.sign c.toString, w)

theorem scanSign_append_blank {c : Char} {w : List Char} {t : Token} (h : signOf c w = (t, [])) (cs : List Char) :
    scanSign c (w ++ ' ' :: cs) = .ok (t, ' ' :: cs) := by
  unfold signOf at h
  unfold scanSign
  rw [← List.cons_append, firstSign?_append_blank longSigns_written]
  cases hsign : firstSign? longSigns (c :: w) with
  | none =>
    rw [hsign] at h
    cases h
    rfl
  | some r =>
    rw [hsign] at h
    obtain rfl : r = (t, []) := h
    rfl

namespace Spells

variable {dialect : Dialect} {cs : List Char} {ts : List Token}

/-- A plain word in front. -/
theorem word {w : String} (hw : Macro.isPlainWord w.toList = true) (hcs : endsWord cs = true)
    (h : Spells dialect cs ts) : Spells dialect (w.toList ++ cs) (.word w none :: ts) := by
  cases hs : w.toList with
  | nil => simp [hs, Macro.isPlainWord] at hw
  | cons c w' =>
    rw [hs] at hw
    have hw' : String.ofList (c :: w') = w := by rw [← hs, String.ofList_toList]
    have hscan := scanToken_word dialect hw (leavesWord_of_endsWord dialect hcs)
    have := token (t := .word w none) (hw' ▸ hscan) (by simp) (by simp [Token.promote]) h
    simpa [Token.promote] using this

/-- A number in front. -/
theorem number {n : String} (hd : ∀ c ∈ n.toList, c.isDigit = true) (hne : n.toList ≠ []) (hcs : endsOperand cs = true)
    (h : Spells dialect cs ts) : Spells dialect (n.toList ++ cs) (.number n false :: ts) := by
  cases hs : n.toList with
  | nil => exact absurd hs hne
  | cons c ds =>
    rw [hs] at hd
    have hn : String.ofList (c :: ds) = n := by rw [← hs, String.ofList_toList]
    have := token (t := .number n false) (hn ▸ scanToken_number dialect hd hcs) (by simp) (by simp [Token.promote]) h
    simpa [Token.promote] using this

/-- A text between quotes in front, as a name. -/
theorem quotedWord {q : Char} (hq : q = '"' ∨ q = '\x60') {held : List Char}
    (hr : readQuoted q false (held ++ [q]) = some (held, [])) (hcs : cs.head? ≠ some q) (h : Spells dialect cs ts) :
    Spells dialect (q :: held ++ q :: cs) (.word (String.ofList held) (some q) :: ts) := by
  have hs := scanToken_quotedWord dialect hq hr hcs
  simpa [Token.promote] using token hs (by simp; omega) (by simp [Token.promote]) h

/-- A text literal in front. -/
theorem string {held : List Char}
    (hr : readQuoted '\'' dialect.hasBackslashEscapes (held ++ ['\'']) = some (held, []))
    (hcs : cs.head? ≠ some '\'') (h : Spells dialect cs ts) :
    Spells dialect ('\'' :: held ++ '\'' :: cs) (.string .single (String.ofList held) :: ts) := by
  have hs := scanToken_literal dialect hr hcs
  simpa [Token.promote] using token hs (by simp; omega) (by simp [Token.promote]) h

/-- A sign in front of a blank. -/
theorem sign {c : Char} {w : List Char} {kept : String} (hc : startsSign dialect c = true)
    (hnext : apart c (w ++ [' ']).head? = true) (hsign : signOf c w = (.sign kept, [])) (h : Spells dialect cs ts) :
    Spells dialect (c :: w ++ ' ' :: cs) (.sign kept :: ts) := by
  have hhead : (w ++ ' ' :: cs).head? = (w ++ [' ']).head? := by cases w <;> rfl
  have hscan : scanToken dialect c (w ++ ' ' :: cs) = .ok (.sign kept, ' ' :: cs) :=
    (scanToken_sign hc (hhead ▸ hnext)).trans (scanSign_append_blank hsign cs)
  exact .token (t := .sign kept) hscan (by simp) (by simp [Token.promote]) h.blank

end Spells

end SqlTemplate.Sql
