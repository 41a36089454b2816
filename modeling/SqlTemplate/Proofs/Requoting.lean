import SqlTemplate.Proofs.Positions
import SqlTemplate.Proofs.Scanning

/-!
# Writing what was scanned

A scanner that leaves doubled quotes and escapes as they are finds the text between the quotes of a literal or a name.
Printing puts that text between quotes again, and must double no quote that is doubled already or escaped.

* `Token.Reprints`: printing a token in its quotes gives the characters that it was written with.
* `scanToken_reprints`: this holds of every token that is scanned.
* `quoting_inverted`: literals and quoted keys are read back, and what was read is printed as it was written.
-/

namespace SqlTemplate

open Macro

namespace Sql

/-- The characters of a token with text between quotes are the text as it is printed between its quotes, with a letter
in front where the quotes are marked by one. Nothing is said about other literals: those whose escapes are resolved when
they are read, and those between dollar signs or three quotes, in which no quote is doubled. -/
def Token.Reprints : Token → List Char → Prop
  | .word text (some quote), written => written = (Ident.toSql ⟨text, some quote, none⟩).toList
  | .string .single text, written => written = (Literal.toSql (.string .single text)).toList
  | .string .national text, written => ∃ mark, written = mark :: (writeQuoted '\'' text).toList
  | .string .hex text, written =>
    written = '0' :: 'x' :: text.toList ∨ ∃ mark, written = mark :: (writeQuoted '\'' text).toList
  | .string (.byte quote) text, written => ∃ mark, written = mark :: (writeQuoted quote text).toList
  | .string (.raw quote false) text, written => ∃ mark, written = mark :: (writeQuoted quote text).toList
  | _, _ => True

/-- What was scanned from a text is printed as it was written there. -/
def Reprinted (cs : List Char) : ScanResult → Prop
  | .ok (token, rest) => ∀ written, cs = written ++ rest → token.Reprints written
  | .error _ => True

section

variable {dialect : Dialect} {c quote : Char} {cs text rest : List Char} {escapes : Bool}

/-- What was found between quotes is written between quotes as it was read. -/
theorem written_of_readQuoted (mark : List Char) {written : List Char}
    (h : readQuoted quote escapes cs = some (text, rest)) (hwritten : mark ++ quote :: cs = written ++ rest) :
    written = mark ++ (writeQuoted quote (String.ofList text)).toList := by
  have hbody : (writeQuoted quote (String.ofList text)).toList = quote :: text ++ [quote] := by
    rw [writeQuoted, String.toList_ofList, String.toList_ofList, quotedBody_of_readQuoted h]
  have hall : written ++ rest = mark ++ (quote :: text ++ [quote]) ++ rest := by
    rw [← hwritten, eq_append_of_readQuoted h]
    simp
  rw [hbody]
  exact List.append_cancel_right hall

/-- A literal is printed as it was written, with its mark in front of its quotes. -/
theorem scanString_reprinted (mark : List Char) {kind : StringKind}
    (hkind : ∀ text, (Token.string kind text).Reprints (mark ++ (writeQuoted quote text).toList)) :
    Reprinted (mark ++ quote :: cs) (scanString kind quote escapes (quote :: cs)) := by
  rw [scanString, List.drop_one, List.tail_cons]
  split
  · rename_i text rest hread
    intro written hwritten
    rw [written_of_readQuoted mark hread hwritten]
    exact hkind _
  · trivial

theorem scanQuotedWord_reprinted : Reprinted (quote :: cs) (scanQuotedWord quote (quote :: cs)) := by
  rw [scanQuotedWord, List.drop_one, List.tail_cons]
  split
  · rename_i text rest hread
    exact fun written hwritten => written_of_readQuoted [] hread hwritten
  · trivial

/-- A literal without escapes that has one quote on each side is printed as it was written. -/
theorem scanRaw_reprinted : Reprinted (c :: quote :: cs) (scanRaw quote (quote :: cs)) := by
  rw [scanRaw, List.drop_one, List.tail_cons]
  split
  · split
    · rename_i text rest hread
      exact fun written hwritten => ⟨c, written_of_readQuoted [c] hread hwritten⟩
    · trivial
  · rename_i htwo
    intro written hwritten
    cases cs with
    | nil => simp at htwo
    | cons d cs =>
      obtain rfl : d = quote := Decidable.byContradiction fun hd => by simp [hd] at htwo
      have hempty : (writeQuoted d "").toList = [d, d] := by simp [writeQuoted, quotedBody]
      have hall : [c, d, d] ++ cs = written ++ cs := hwritten
      refine ⟨c, ?_⟩
      rw [hempty]
      exact (List.append_cancel_right hall).symm
  · split
    · exact fun _ _ => trivial
    · trivial

theorem scanMarkedString?_reprinted {r : ScanResult} (h : scanMarkedString? dialect c cs = some r) :
    Reprinted (c :: cs) r := by
  unfold scanMarkedString? at h
  dsimp only at h
  split at h
  · cases h
    exact scanString_reprinted [c] fun _ => ⟨c, rfl⟩
  · cases h
    exact scanString_reprinted [c] fun _ => .inr ⟨c, rfl⟩
  · cases h
    unfold scanEscaped
    split
    · exact fun _ _ => trivial
    · trivial
  · split at h <;> cases h
    exact scanString_reprinted [c] fun _ => ⟨c, rfl⟩
  · split at h <;> cases h
    exact scanRaw_reprinted
  · split at h <;> cases h
    unfold scanUnicode
    split
    · exact fun _ _ => trivial
    · trivial
  · cases h

/-- A number without digits is a point. -/
theorem number_reprinted {point : Bool} {number : String} {left right all : List Char} :
    Reprinted all (if point then .ok (.sign ".", left)
      else match right with
        | 'L' :: more => .ok (.number number true, more)
        | _ => .ok (.number number false, right) : ScanResult) := by
  split
  · exact fun _ _ => trivial
  · split
    · exact fun _ _ => trivial
    · exact fun _ _ => trivial

theorem scanNumber_reprinted : Reprinted cs (scanNumber cs) := by
  unfold scanNumber
  dsimp only
  split
  · rename_i rest hwhole hbehind
    intro written hwritten
    rw [← List.takeWhile_append_dropWhile (p := Char.isDigit) (l := cs), hwhole, hbehind,
      ← List.takeWhile_append_dropWhile (p := isHexDigit) (l := rest)] at hwritten
    have hall : written ++ rest.dropWhile isHexDigit =
        ('0' :: 'x' :: rest.takeWhile isHexDigit) ++ rest.dropWhile isHexDigit := by simpa using hwritten.symm
    left
    rw [String.toList_ofList]
    exact List.append_cancel_right hall
  · exact number_reprinted

theorem skipComment_reprinted (depth : Nat) (previous : Char) (all : List Char) :
    Reprinted all (skipComment depth previous cs) := by
  fun_induction skipComment depth previous cs with
  | case1 => trivial
  | case2 _ _ _ _ _ ih => exact ih
  | case3 => exact fun _ _ => trivial
  | case4 _ _ _ _ _ _ _ ih => exact ih
  | case5 _ _ _ _ _ _ ih => exact ih

theorem scanDollar_reprinted : Reprinted (c :: cs) (scanDollar cs) := by
  unfold scanDollar
  split
  · split
    · exact fun _ _ => trivial
    · trivial
  · dsimp only
    split
    · split
      · exact fun _ _ => trivial
      · trivial
    · exact fun _ _ => trivial

theorem firstSign?_reprints {signs : List (String × String)} {token : Token}
    (h : firstSign? signs cs = some (token, rest)) (written : List Char) : token.Reprints written := by
  induction signs with
  | nil => cases h
  | cons sign signs ih =>
    rw [firstSign?] at h
    split at h
    · cases h
      trivial
    · exact ih h

theorem scanSign_reprinted : Reprinted (c :: cs) (scanSign c cs) := by
  unfold scanSign
  split
  · rename_i r heq
    exact fun written _ => firstSign?_reprints heq written
  · exact fun _ _ => trivial

theorem scanMarked_reprinted : Reprinted (c :: cs) (scanMarked c cs) := by
  unfold scanMarked
  split
  · split <;> exact fun _ _ => trivial
  · rename_i r _ heq
    exact fun written _ => firstSign?_reprints heq written
  · split
    · split <;> exact fun _ _ => trivial
    · exact fun _ _ => trivial

/-- Every token is printed in its quotes as it was written. -/
theorem scanToken_reprinted : Reprinted (c :: cs) (scanToken dialect c cs) := by
  unfold scanToken
  split
  · exact scanMarkedString?_reprinted ‹_›
  · split
    · exact fun _ _ => trivial
    · exact scanString_reprinted [] fun text => by rw [List.nil_append]; rfl
    · exact scanQuotedWord_reprinted
    · exact scanQuotedWord_reprinted
    · exact scanNumber_reprinted
    · exact fun _ _ => trivial
    · exact skipComment_reprinted _ _ _
    · exact scanDollar_reprinted
    · exact fun _ _ => trivial
    · split
      · exact scanNumber_reprinted
      · split
        · exact scanMarked_reprinted
        · split
          · exact fun _ _ => trivial
          · split
            · exact fun _ _ => trivial
            · split
              · exact fun _ _ => trivial
              · exact scanSign_reprinted

end

/-! ## The tokens of a text -/

theorem Token.Reprints.promote {token : Token} {written : List Char} (h : token.Reprints written) :
    token.promote.Reprints written := by
  cases token with
  | placeholder text =>
    rw [Token.promote]
    split <;> trivial
  | _ => exact h

/-- A token stands in a text with the characters that are printed for it. -/
theorem reprints_of_mem_lexemes {dialect : Dialect} {text : String} {tokens : List Lexeme}
    (h : lexemes dialect text = .ok tokens) {l : Lexeme} (hl : l ∈ tokens) :
    ∃ before written behind, text.toList = before ++ (written ++ behind) ∧
      l.span.start = Text.Location.first.after before ∧ l.span.stop = Text.Location.first.after (before ++ written) ∧
      l.token.Reprints written := by
  obtain ⟨before, piece, behind, hscan, htext, htoken, -, hstart, hstop⟩ := exists_piece h hl
  obtain ⟨c, cs, rest, hpiece, hcs⟩ := exists_scanToken hscan (List.mem_append_right _ List.mem_cons_self)
  have hreprinted : Reprinted (c :: cs) (scanToken dialect c cs) := scanToken_reprinted
  rw [hpiece] at hreprinted
  refine ⟨spelled before, piece.text, spelled behind, htext, hstart, hstop, ?_⟩
  rw [htoken]
  exact (hreprinted piece.text hcs).promote

/-! ## Literals and keys -/

/-- The first token of a text, and what follows it. -/
def firstToken? (dialect : Dialect) : List Char → Option (Token × List Char)
  | [] => none
  | c :: cs => (scanToken dialect c cs).toOption

section

variable {dialect : Dialect} {rest : List Char}

/-- A literal of a value is one token, which holds the value as it is written between quotes. -/
theorem firstToken?_stringLiteral (value : String) (hrest : rest.head? ≠ some '\'') :
    firstToken? dialect ((stringLiteral dialect value).toList ++ rest) =
      some (.string .single (heldLiteral dialect value), rest) := by
  have hscan := scanToken_literal dialect (readQuoted_literal dialect value.toList) hrest
  rw [stringLiteral, String.toList_ofList, List.cons_append, List.cons_append, List.append_assoc, firstToken?]
  exact congrArg Except.toOption hscan

/-- A key between quotes is one token, which holds the key with its quotes doubled. -/
theorem firstToken?_quotedKey (cs : List Char) (hrest : rest.head? ≠ some (nameQuote dialect)) :
    firstToken? dialect (nameQuote dialect :: doubleQuotes (nameQuote dialect) cs ++ nameQuote dialect :: rest) =
      some (.word (String.ofList (doubleQuotes (nameQuote dialect) cs)) (some (nameQuote dialect)), rest) := by
  have hquote : nameQuote dialect = '"' ∨ nameQuote dialect = '\x60' := by
    cases dialect
    · exact .inr rfl
    · exact .inl rfl
  exact congrArg Except.toOption (scanToken_quotedWord dialect hquote (readQuoted_doubled cs) hrest)

end

end Sql

open Sql

/-- **Quoting is undone by reading and kept by printing.** In front of any text that does not start with its quote, the
literal of a value is one token, which means the value, and a key that is quoted is one token, which means the key. The
tokens of a text stand in it with the characters that are printed for them in their quotes. -/
theorem quoting_inverted (dialect : Dialect) :
    (∀ value rest, rest.head? ≠ some '\'' → ∃ held,
      firstToken? dialect ((stringLiteral dialect value).toList ++ rest) = some (.string .single held, rest) ∧
        literalValue dialect held = value) ∧
    (∀ key rest, key ≠ "" → isPlainKey key = false → rest.head? ≠ some (nameQuote dialect) → ∃ written held,
      quoteKey dialect key = .ok written ∧
        firstToken? dialect (written.toList ++ rest) = some (.word held (some (nameQuote dialect)), rest) ∧
        String.ofList (undoubled (nameQuote dialect) held.toList) = key) ∧
    (∀ text tokens, lexemes dialect text = .ok tokens → ∀ l ∈ tokens, ∃ before written behind,
      text.toList = before ++ (written ++ behind) ∧ l.span.start = Text.Location.first.after before ∧
        l.span.stop = Text.Location.first.after (before ++ written) ∧ l.token.Reprints written) := by
  refine ⟨fun value rest hrest => ?_, fun key rest hne hquoted hrest => ?_, fun text tokens h l hl => ?_⟩
  · exact ⟨_, firstToken?_stringLiteral value hrest, literalValue_held dialect value⟩
  · refine ⟨_, String.ofList (doubleQuotes (nameQuote dialect) key.toList), quoteKey_of_quoted dialect hne hquoted,
      ?_, ?_⟩
    · rw [String.toList_ofList, List.append_assoc]
      exact firstToken?_quotedKey key.toList hrest
    · rw [String.toList_ofList, undoubled_doubleQuotes, String.ofList_toList]
  · exact reprints_of_mem_lexemes h hl

theorem quoting_inverted_odd_texts :
    (∃ held, firstToken? .clickHouse ((stringLiteral .clickHouse "it's\\").toList ++ [')']) =
        some (.string .single held, [')']) ∧ literalValue .clickHouse held = "it's\\") ∧
    (∃ written held, quoteKey .generic "a\"b" = .ok written ∧
        firstToken? .generic (written.toList ++ ['=']) = some (.word held (some '"'), ['=']) ∧
        String.ofList (undoubled '"' held.toList) = "a\"b") ∧
    ∃ tokens, lexemes .clickHouse "a = 'it''s' AND b = 'x\\'y'" = .ok tokens ∧ ∀ l ∈ tokens, ∃ written,
      (written <:+: "a = 'it''s' AND b = 'x\\'y'".toList) ∧ l.token.Reprints written := by
  obtain ⟨hliteral, -, hprinted⟩ := quoting_inverted .clickHouse
  obtain ⟨-, hkey, -⟩ := quoting_inverted .generic
  refine ⟨hliteral _ _ (by decide), hkey _ _ (by decide) (by decide +kernel) (by decide), ?_⟩
  have hscan : (lexemes .clickHouse "a = 'it''s' AND b = 'x\\'y'").isOk = true := by decide +kernel
  cases htokens : lexemes .clickHouse "a = 'it''s' AND b = 'x\\'y'" with
  | error e =>
    rw [htokens] at hscan
    cases hscan
  | ok tokens =>
    refine ⟨tokens, rfl, fun l hl => ?_⟩
    obtain ⟨before, written, behind, htext, -, -, hreprints⟩ := hprinted _ _ htokens l hl
    exact ⟨written, ⟨before, behind, by rw [htext, List.append_assoc]⟩, hreprints⟩

end SqlTemplate
