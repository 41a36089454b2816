import SqlTemplate.Proofs.Positions
import SqlTemplate.Sql.Document

/-!
# Messages and places

A report may end in a place, which is taken off it. The message of a fault does not end in one by itself: what it quotes
of a text is a token, and a token has no blank in it unless it stands between quotes.

* `EndsInPosition`: a text ends in a place.
* `Token.Scanned`: what is known of a token that was cut off a text.
* `Unplaced`: a message that does not end in a place if the tokens that it quotes were cut off a text.
-/

namespace SqlTemplate.Sql

variable {lead text cs : List Char} {c : Char}

/-! ## Texts that end in a place -/

/-- A text ends in a place, up to blanks. -/
def EndsInPosition (cs : List Char) : Prop :=
  ∃ message line column blanks : List Char,
    cs = message ++ ("at Line: ".toList ++ (line ++ (", Column: ".toList ++ (column ++ blanks)))) ∧
    line ≠ [] ∧ column ≠ [] ∧ (∀ d ∈ line, Text.isDecimalDigit d = true) ∧
    (∀ d ∈ column, Text.isDecimalDigit d = true) ∧ ∀ b ∈ blanks, Text.isBlank b = true

/-- A character that cannot end a place. -/
def Closing (c : Char) : Prop := Text.isDecimalDigit c = false ∧ Text.isBlank c = false

instance (c : Char) : Decidable (Closing c) := inferInstanceAs (Decidable (_ ∧ _))

/-- The last character of a text cannot end a place. -/
def EndsPlain (cs : List Char) : Prop := ∃ front c, cs = front ++ [c] ∧ Closing c

/-- Behind this text, digits are no column: the last word in it is not the one in front of columns. -/
def Leads (cs : List Char) : Prop := ∃ front a b, cs = front ++ [a, b, ' '] ∧ (a ≠ 'n' ∨ b ≠ ':') ∧ Closing b

/-- A text has no blank in it, or cannot end a place. -/
def Shown (cs : List Char) : Prop := ' ' ∉ cs ∨ EndsPlain cs

theorem EndsPlain.of_getLast (h : ∃ c, cs.getLast? = some c ∧ Closing c) : EndsPlain cs := by
  obtain ⟨c, hc, hclosing⟩ := h
  obtain ⟨front, hfront⟩ := List.getLast?_eq_some_iff.1 hc
  exact ⟨front, c, hfront, hclosing⟩

theorem EndsPlain.append (lead : List Char) (h : EndsPlain cs) : EndsPlain (lead ++ cs) := by
  obtain ⟨front, c, rfl, hc⟩ := h
  exact ⟨lead ++ front, c, by simp, hc⟩

theorem Leads.append (front : List Char) (h : Leads lead) : Leads (front ++ lead) := by
  obtain ⟨front', a, b, rfl, hcolon, hb⟩ := h
  exact ⟨front ++ front', a, b, by simp, hcolon, hb⟩

/-- In front of the blanks and digits that end a place stand a blank, a colon and an `n`. -/
theorem EndsInPosition.reverse (h : EndsInPosition cs) :
    ∃ tail front, cs.reverse = tail ++ ' ' :: ':' :: 'n' :: front ∧ ∀ c ∈ tail, ¬ Closing c := by
  obtain ⟨message, line, column, blanks, rfl, -, -, -, hcolumn, hblanks⟩ := h
  refine ⟨blanks.reverse ++ column.reverse, "muloC ,".toList ++ (line.reverse ++ ("at Line: ".toList.reverse ++
    message.reverse)), by simp, fun c hc hclosing => ?_⟩
  obtain hc | hc := List.mem_append.1 hc
  · have hblank := hblanks c (List.mem_reverse.1 hc)
    rw [hclosing.2] at hblank
    cases hblank
  · have hdigit := hcolumn c (List.mem_reverse.1 hc)
    rw [hclosing.1] at hdigit
    cases hdigit

theorem Closing.ne_blank (h : Closing c) : c ≠ ' ' := by
  rintro rfl
  revert h
  decide

/-- A text without blanks is no place behind a character that cannot end one. -/
theorem EndsPlain.not_endsInPosition (h : EndsPlain lead) (htext : ' ' ∉ text) : ¬ EndsInPosition (lead ++ text) := by
  intro hends
  obtain ⟨front, c, rfl, hc⟩ := h
  obtain ⟨tail, before, hreverse, htail⟩ := hends.reverse
  have hsplit : text.reverse ++ c :: front.reverse = tail ++ ' ' :: ':' :: 'n' :: before := by simpa using hreverse
  obtain ⟨inner, rfl, hinner⟩ | ⟨inner, hinner, hbehind⟩ := List.append_eq_append_iff.1 hsplit
  · cases inner with
    | nil => exact hc.ne_blank (List.cons.inj hinner).1
    | cons d inner => exact htail d (by simp) ((List.cons.inj hinner).1 ▸ hc)
  · cases inner with
    | nil => exact hc.ne_blank (List.cons.inj hbehind).1.symm
    | cons d inner =>
      obtain rfl := (List.cons.inj hbehind).1
      exact htext (List.mem_reverse.1 (hinner ▸ by simp))

/-- A text without blanks is no place behind a text that leads to no column. -/
theorem Leads.not_endsInPosition (h : Leads lead) (htext : ' ' ∉ text) : ¬ EndsInPosition (lead ++ text) := by
  intro hends
  obtain ⟨front, a, b, rfl, hcolon, hb⟩ := h
  obtain ⟨tail, before, hreverse, htail⟩ := hends.reverse
  have hsplit : text.reverse ++ ' ' :: b :: a :: front.reverse = tail ++ ' ' :: ':' :: 'n' :: before := by
    simpa using hreverse
  have hapart : ∀ {before behind}, ' ' :: b :: a :: before ≠ ' ' :: ':' :: 'n' :: behind := by
    rintro before behind h
    simp only [List.cons.injEq, true_and] at h
    exact hcolon.elim (· h.2.1) (· h.1)
  obtain ⟨inner, rfl, hinner⟩ | ⟨inner, hinner, hbehind⟩ := List.append_eq_append_iff.1 hsplit
  · match inner, hinner with
    | [], hinner => exact hapart hinner
    | [_], hinner => exact hb.ne_blank (List.cons.inj (List.cons.inj hinner).2).1
    | _ :: d :: inner, hinner => exact htail d (by simp) ((List.cons.inj (List.cons.inj hinner).2).1 ▸ hb)
  · cases inner with
    | nil => exact hapart hbehind.symm
    | cons d inner =>
      obtain rfl := (List.cons.inj hbehind).1
      exact htext (List.mem_reverse.1 (hinner ▸ by simp))

theorem EndsPlain.closed (h : EndsPlain cs) : ¬ EndsInPosition cs := by
  simpa using h.not_endsInPosition (List.not_mem_nil)

theorem EndsPlain.shown (h : EndsPlain lead) (htext : Shown text) : ¬ EndsInPosition (lead ++ text) :=
  htext.elim h.not_endsInPosition fun htext => (htext.append lead).closed

theorem Leads.shown (h : Leads lead) (htext : Shown text) : ¬ EndsInPosition (lead ++ text) :=
  htext.elim h.not_endsInPosition fun htext => (htext.append lead).closed

/-! ## Tokens -/

/-- What is known of a token that was cut off a text. -/
def Token.Scanned : Token → Prop
  | .word text none => ' ' ∉ text.toList
  | .word _ (some quote) => IsQuote quote
  | .number text _ => ' ' ∉ text.toList
  | .string kind _ => kind.Quoted
  | .placeholder text => ' ' ∉ text.toList
  | .sign text => ' ' ∉ text.toList
  | .blank => False

theorem IsQuote.closing (h : IsQuote c) : Closing c := by
  obtain rfl | rfl | rfl := h <;> decide

theorem endsPlain_quote (front : String) (h : IsQuote c) : EndsPlain (front ++ c.toString).toList :=
  ⟨front.toList, c, by simp, h.closing⟩

/-- A token is shown as a text without blanks or ends in a quote. -/
theorem Token.Scanned.shown {token : Token} (h : token.Scanned) : Shown token.display.toList := by
  match token, h with
  | .word _ none, h => exact .inl h
  | .word _ (some _), h => exact .inr (endsPlain_quote (_ ++ _) h)
  | .number text true, h => exact .inr ⟨text.toList, 'L', by simp [display], by decide⟩
  | .number text false, h =>
    have hshown : ' ' ∉ text.toList := h
    exact .inl (by simpa [display] using hshown)
  | .string (.byte _) _, h => exact .inr (endsPlain_quote _ h)
  | .string (.raw quote tripled) text, h =>
    have hsplit : (String.ofList (List.replicate (if tripled then 3 else 1) quote)).toList =
        List.replicate (if tripled then 2 else 0) quote ++ [quote] := by
      cases tripled <;> simp [List.replicate]
    refine .inr ?_
    simp only [display, String.toList_append, hsplit]
    exact ⟨_, quote, (List.append_assoc ..).symm, h.closing⟩
  | .string .single text, _ => exact .inr ⟨("'" ++ text).toList, '\'', by simp [display], by decide⟩
  | .string .double text, _ => exact .inr ⟨("\"" ++ text).toList, '"', by simp [display], by decide⟩
  | .string .national text, _ => exact .inr ⟨("N'" ++ text).toList, '\'', by simp [display], by decide⟩
  | .string .hex text, _ => exact .inr ⟨("X'" ++ text).toList, '\'', by simp [display], by decide⟩
  | .string .escaped text, _ => exact .inr ⟨("E'" ++ text).toList, '\'', by simp [display], by decide⟩
  | .string .unicode text, _ => exact .inr ⟨("U&'" ++ text).toList, '\'', by simp [display], by decide⟩
  | .string (.dollar tag) text, _ =>
    exact .inr ⟨("$" ++ tag ++ "$" ++ text ++ "$" ++ tag).toList, '$', by simp [display], by decide⟩
  | .placeholder _, h => exact .inl h
  | .sign _, h => exact .inl h

/-- A token that was cut off a text is a blank or shows what it is. -/
theorem Token.CutAt.scanned {token : Token} (h : token.CutAt c) (hblank : token ≠ .blank) : token.promote.Scanned := by
  cases h with
  | word _ hsolid => simpa [promote, Scanned] using hsolid
  | quoted hquote => exact hquote
  | number hsolid => simpa [promote, Scanned] using hsolid
  | string hkind => exact hkind
  | placeholder _ hsolid =>
    rw [promote]
    split
    · simpa [Scanned] using hsolid
    · simpa [Scanned] using hsolid
  | sign hsolid => exact hsolid
  | blank => exact absurd rfl hblank

/-- The tokens of a text were cut off it. -/
theorem scanned_of_lexemes {dialect : Dialect} {text : String} {tokens : List Lexeme}
    (h : lexemes dialect text = .ok tokens) : ∀ l ∈ tokens, l.token.Scanned := by
  intro l hl
  obtain ⟨before, piece, behind, hscan, -, htoken, hblank, -, -⟩ := exists_piece h hl
  obtain ⟨c, cs, rest, hpiece, -⟩ := exists_scanToken hscan (List.mem_append_right _ List.mem_cons_self)
  have hcut : Cut c (scanToken dialect c cs) := scanToken_cut
  rw [hpiece] at hcut
  rw [htoken] at hblank ⊢
  refine hcut.scanned fun heq => hblank ?_
  rw [heq]
  rfl

theorem foundText_shown {found : Option Lexeme} (h : ∀ l ∈ found, l.token.Scanned) :
    Shown (Parser.foundText found).toList := by
  cases found with
  | none => exact .inl (by decide)
  | some l => exact (h l rfl).shown

/-- The name of a sign in a report has no blank in it, either. -/
theorem Token.Scanned.debugText_shown {token : Token} (h : token.Scanned) : Shown token.debugText.toList := by
  match token, h with
  | .word text none, _ =>
    have hsplit : (Token.word text none).debugText.toList =
        ("Word(Word \x7b value: \"" ++ text ++ "\", quote_style: None, keyword: " ++ Text.upper text).toList ++
          (" \x7d".toList ++ [')']) := by
      rw [← List.append_assoc]
      exact String.toList_append.trans (by simp)
    rw [hsplit]
    exact .inr (.append _ ⟨_, ')', rfl, by decide⟩)
  | .sign text, h =>
    have hshown : ' ' ∉ text.toList := h
    show Shown (signName text).toList
    unfold signName
    split
    all_goals first | exact .inl hshown | exact .inl (by decide)
  | .word _ (some _), h => exact h.shown
  | .number _ _, h => exact h.shown
  | .string _ _, h => exact h.shown
  | .placeholder _, h => exact h.shown

/-! ## Messages -/

/-- A message that does not end in a place if the tokens that it quotes were cut off a text. -/
class Unplaced (source : List Lexeme) (message : String) : Prop where
  out : (∀ l ∈ source, l.token.Scanned) → ¬ EndsInPosition message.toList

section

variable {source : List Lexeme} {message : String}

theorem Unplaced.of_endsPlain (h : EndsPlain message.toList) : Unplaced source message := ⟨fun _ => h.closed⟩

/-- A message is known by its last character. -/
theorem Unplaced.of_last (h : ∃ c, message.toList.getLast? = some c ∧ Closing c) : Unplaced source message :=
  .of_endsPlain (.of_getLast h)

/-- The messages that quote nothing. -/
instance : Unplaced source "Cannot specify both ALL and DISTINCT" := .of_last ⟨'T', by simp, by decide⟩
instance : Unplaced source "INTERVAL requires a unit after the literal value" := .of_last ⟨'e', by simp, by decide⟩
instance : Unplaced source "Expected 'FROM' or ','" := .of_last ⟨'\'', by simp, by decide⟩
instance : Unplaced source "Scale field can only be of number type" := .of_last ⟨'e', by simp, by decide⟩
instance : Unplaced source "Typed syntax does not allow AS" := .of_last ⟨'S', by simp, by decide⟩
instance : Unplaced source "unmatched > in STRUCT literal" := .of_last ⟨'l', by simp, by decide⟩
instance : Unplaced source "unmatched > in STRUCT definition" := .of_last ⟨'n', by simp, by decide⟩
instance : Unplaced source "invalid CLUSTERED sequence" := .of_last ⟨'e', by simp, by decide⟩
instance : Unplaced source "Expected FOR XML [RAW | AUTO | EXPLICIT | PATH ]" := .of_last ⟨']', by simp, by decide⟩
instance : Unplaced source "Expected FOR JSON [AUTO | PATH ]" := .of_last ⟨']', by simp, by decide⟩
instance : Unplaced source "Explain must be root of the plan" := .of_last ⟨'n', by simp, by decide⟩
instance : Unplaced source "Unsupported statement REPLACE" := .of_last ⟨'E', by simp, by decide⟩
instance : Unplaced source "EXTENDED/FULL are not supported with this type of SHOW query" := .of_last ⟨'y', by simp, by decide⟩
instance : Unplaced source "Cannot specify both CASCADE and RESTRICT in DROP" := .of_last ⟨'P', by simp, by decide⟩
instance : Unplaced source "Cannot specify CASCADE, RESTRICT, or PURGE in DROP ROLE" := .of_last ⟨'E', by simp, by decide⟩
instance : Unplaced source "Cannot specify both CASCADE and RESTRICT in REVOKE" := .of_last ⟨'E', by simp, by decide⟩

/-- The fault of a text that is no literal of its type has no message. -/
instance : Unplaced source "" := ⟨fun _ h => by
  obtain ⟨message, line, column, blanks, h, -⟩ := h
  have hlength := congrArg List.length h
  simp at hlength⟩

/-- A message may end with what was found. -/
theorem Unplaced.of_found {lead : String} {found : Option Lexeme}
    (hlead : ∀ {text}, Shown text → ¬ EndsInPosition (lead.toList ++ text)) (hfound : ∀ l ∈ found, l ∈ source) :
    Unplaced source (lead ++ Parser.foundText found) := ⟨fun h => by
  rw [String.toList_append]
  exact hlead (foundText_shown fun l hl => h l (hfound l hl))⟩

end

end SqlTemplate.Sql
