import SqlTemplate.Proofs.TracingStatements

/-!
# Where errors point

An error in a text points into it: at the character at which the scanner stopped, at the first character of a token, or
behind the last token. The place travels as the end of a report, from which it is taken off again, and no message ends
in a place by itself.

* `splitPosition_placed`, `splitPosition_unplaced`: what is taken off a report.
* `LexError.unplaced`: the messages of the scanner do not end in a place.
* `parse_error_located`: the errors of a text point into it.
-/

namespace SqlTemplate.Sql

/-! ## Taking the place off a report -/

section

variable {start rest cs digits : List Char}

theorem dropStart?_append (start rest : List Char) : dropStart? start (start ++ rest) = some rest := by
  induction start with
  | nil => rfl
  | cons p ps ih => simp [dropStart?, ih]

theorem eq_append_of_dropStart? (h : dropStart? start cs = some rest) : cs = start ++ rest := by
  fun_induction dropStart? start cs with
  | case1 => cases h; rfl
  | case2 => cases h
  | case3 _ _ _ ih => rw [ih h]; rfl
  | case4 => cases h

/-- Digits at the end of a text are found there, if a character stands before them that is none. -/
theorem lastDigits?_append {c : Char} (hne : digits ≠ []) (hdigits : ∀ d ∈ digits, Text.isDecimalDigit d = true)
    (hc : Text.isDecimalDigit c = false) :
    lastDigits? (digits.reverse ++ c :: rest) = some (digits, c :: rest) := by
  have hreverse : ∀ d ∈ digits.reverse, Text.isDecimalDigit d = true := fun d hd => hdigits d (List.mem_reverse.1 hd)
  unfold lastDigits?
  rw [List.takeWhile_append_of_pos hreverse, List.dropWhile_append_of_pos hreverse]
  simp [hc, hne]

theorem eq_of_lastDigits? (h : lastDigits? cs = some (digits, rest)) :
    cs = digits.reverse ++ rest ∧ digits ≠ [] ∧ ∀ d ∈ digits, Text.isDecimalDigit d = true := by
  unfold lastDigits? at h
  dsimp only at h
  split at h
  · cases h
  · rename_i hempty
    cases h
    refine ⟨by simp, by simpa using hempty, fun d hd => ?_⟩
    exact List.all_eq_true.1 List.all_takeWhile d (List.mem_reverse.1 hd)

/-- A blank is no digit. -/
theorem isDecimalDigit_of_isBlank {c : Char} (h : Text.isBlank c = true) : Text.isDecimalDigit c = false :=
  Text.of_isBlank (p := fun c => Text.isDecimalDigit c = false) (by decide +kernel) h

theorem dropWhile_blanks {blanks : List Char} {c : Char} (hblanks : ∀ b ∈ blanks, Text.isBlank b = true)
    (hc : Text.isDecimalDigit c = true) :
    (blanks.reverse ++ c :: rest).dropWhile Text.isBlank = c :: rest := by
  have hblank : ¬ Text.isBlank c = true := fun hblank => by
    rw [isDecimalDigit_of_isBlank hblank] at hc
    cases hc
  rw [List.dropWhile_append_of_pos fun b hb => hblanks b (List.mem_reverse.1 hb), List.dropWhile_cons_of_neg hblank]

/-- **A place is taken off the report that ends in it,** with the blanks around it. -/
theorem splitPosition_placed {message line column blanks : List Char} (hline : line ≠ []) (hcolumn : column ≠ [])
    (hlineDigits : ∀ d ∈ line, Text.isDecimalDigit d = true)
    (hcolumnDigits : ∀ d ∈ column, Text.isDecimalDigit d = true) (hblanks : ∀ b ∈ blanks, Text.isBlank b = true) :
    splitPosition (String.ofList
      (message ++ ("at Line: ".toList ++ (line ++ (", Column: ".toList ++ (column ++ blanks)))))) =
      (String.ofList (Text.trimEndChars message),
        match positionNumber? line, positionNumber? column with
        | some l, some c => if 0 < l then some ⟨l, c⟩ else none
        | _, _ => none) := by
  have hreverse : (message ++ ("at Line: ".toList ++ (line ++ (", Column: ".toList ++ (column ++ blanks))))).reverse =
      blanks.reverse ++ (column.reverse ++ (", Column: ".toList.reverse ++ (line.reverse ++
        ("at Line: ".toList.reverse ++ message.reverse)))) := by
    simp only [List.reverse_append, List.append_assoc]
  have hdrop : (blanks.reverse ++ (column.reverse ++ (", Column: ".toList.reverse ++ (line.reverse ++
      ("at Line: ".toList.reverse ++ message.reverse))))).dropWhile Text.isBlank =
        column.reverse ++ (", Column: ".toList.reverse ++ (line.reverse ++
          ("at Line: ".toList.reverse ++ message.reverse))) := by
    obtain ⟨d, ds, hds⟩ := List.exists_cons_of_ne_nil (mt List.reverse_eq_nil_iff.1 hcolumn)
    rw [hds]
    exact dropWhile_blanks hblanks (hcolumnDigits d (List.mem_reverse.1 (hds ▸ List.mem_cons_self)))
  have hcolumnLast : lastDigits? (column.reverse ++ (", Column: ".toList.reverse ++ (line.reverse ++
      ("at Line: ".toList.reverse ++ message.reverse)))) = some (column, ", Column: ".toList.reverse ++
        (line.reverse ++ ("at Line: ".toList.reverse ++ message.reverse))) :=
    lastDigits?_append hcolumn hcolumnDigits (by decide)
  have hlineLast : lastDigits? (line.reverse ++ ("at Line: ".toList.reverse ++ message.reverse)) =
      some (line, "at Line: ".toList.reverse ++ message.reverse) :=
    lastDigits?_append hline hlineDigits (by decide)
  unfold splitPosition
  rw [String.toList_ofList, hreverse, hdrop, hcolumnLast]
  simp only [Option.bind_eq_bind, Option.bind_some, dropStart?_append, hlineLast]
  rfl

/-- A report that does not end in a place is all message. -/
theorem splitPosition_unplaced {report : String} (h : ¬ EndsInPosition report.toList) :
    splitPosition report = (report, none) := by
  unfold splitPosition
  dsimp only
  split
  · rfl
  · rename_i line column message hsplit
    refine absurd ?_ h
    simp only [Option.bind_eq_bind, Option.bind_eq_some_iff] at hsplit
    obtain ⟨⟨column, r₁⟩, hcolumn, r₂, hcomma, ⟨line, r₃⟩, hline, r₄, hat, -⟩ := hsplit
    obtain ⟨hdrop, hcolumnNe, hcolumnDigits⟩ := eq_of_lastDigits? hcolumn
    obtain ⟨rfl, hlineNe, hlineDigits⟩ := eq_of_lastDigits? hline
    obtain rfl := eq_append_of_dropStart? hcomma
    obtain rfl := eq_append_of_dropStart? hat
    have htext : report.toList.reverse = report.toList.reverse.takeWhile Text.isBlank ++
        (column.reverse ++ (", Column: ".toList.reverse ++ (line.reverse ++ ("at Line: ".toList.reverse ++ r₄)))) := by
      rw [← hdrop, List.takeWhile_append_dropWhile]
    refine ⟨r₄.reverse, line, column, (report.toList.reverse.takeWhile Text.isBlank).reverse, ?_, hlineNe, hcolumnNe,
      hlineDigits, hcolumnDigits, fun b hb => List.all_eq_true.1 List.all_takeWhile b (List.mem_reverse.1 hb)⟩
    refine List.reverse_inj.1 (htext.trans ?_)
    simp only [List.reverse_append, List.reverse_reverse, List.append_assoc]

end

/-! ## Places in a report -/

theorem positionNumber?_toDigits (n : Nat) :
    positionNumber? (Nat.toDigits 10 n) = if n ≤ maxPosition then some n else none := by
  have hall : (Nat.toDigits 10 n).all Char.isDigit = true :=
    List.all_eq_true.2 fun d hd => Nat.isDigit_of_mem_toDigits (by decide) (by decide) hd
  have hvalue : (Nat.toDigits 10 n).foldl (fun n d => 10 * n + (d.toNat - 48)) 0 = n :=
    Nat.ofDigitChars_eq_foldl.symm.trans Nat.ofDigitChars_ten_toDigits
  unfold positionNumber?
  rw [if_pos hall, hvalue]

theorem isDecimalDigit_of_mem_toDigits {n : Nat} {d : Char} (h : d ∈ Nat.toDigits 10 n) :
    Text.isDecimalDigit d = true := by
  have hdigit : d.isDigit = true := Nat.isDigit_of_mem_toDigits (by decide) (by decide) h
  have hlow : d.toNat < 0x80 := by
    simp only [Char.isDigit, Bool.and_eq_true, decide_eq_true_eq, UInt32.le_iff_toNat_le] at hdigit
    exact Nat.lt_of_le_of_lt hdigit.2 (by decide)
  rw [Text.isDecimalDigit, if_pos hlow, hdigit]

/-- The place in a report is read again, unless it is too large. -/
theorem splitPosition_positionSuffix (message : String) (at_ : Text.Location) :
    splitPosition (message ++ Parser.positionSuffix at_) =
      (Text.trimEnd message,
        if 0 < at_.line ∧ at_.line ≤ maxPosition ∧ at_.column ≤ maxPosition then some at_ else none) := by
  have hsplit : message ++ Parser.positionSuffix at_ = String.ofList
      ((message.toList ++ [' ']) ++ ("at Line: ".toList ++ (Nat.toDigits 10 at_.line ++
        (", Column: ".toList ++ (Nat.toDigits 10 at_.column ++ []))))) := by
    have hdigits (n : Nat) : (toString n).toList = Nat.toDigits 10 n := Nat.toList_repr
    refine String.toList_inj.1 ?_
    simp only [Parser.positionSuffix, String.toList_append, String.toList_ofList, hdigits, List.append_assoc,
      List.append_nil]
    rfl
  have htrim : Text.trimEndChars (message.toList ++ [' ']) = Text.trimEndChars message.toList :=
    Text.trimEndChars_append_blanks message.toList (List.forall_mem_singleton.2 (by decide))
  rw [hsplit, splitPosition_placed Nat.toDigits_ne_nil Nat.toDigits_ne_nil
    (fun _ => isDecimalDigit_of_mem_toDigits) (fun _ => isDecimalDigit_of_mem_toDigits)
    (fun _ h => absurd h List.not_mem_nil), htrim,
    positionNumber?_toDigits, positionNumber?_toDigits]
  refine Prod.ext rfl ?_
  by_cases hline : at_.line ≤ maxPosition
  · by_cases hcolumn : at_.column ≤ maxPosition
    · simp [hline, hcolumn]
    · simp [hline, hcolumn]
  · simp [hline]

/-- What is left of a message without its blanks does not end in a place, either. -/
theorem trimEnd_unplaced {message : String} (h : ¬ EndsInPosition message.toList) :
    ¬ EndsInPosition (Text.trimEnd message).toList := by
  rintro ⟨front, line, column, blanks, htrim, hline, hcolumn, hlineDigits, hcolumnDigits, hblanks⟩
  obtain ⟨dropped, hdropped, hmessage⟩ := Text.exists_trimEndChars message.toList
  rw [Text.trimEnd, String.toList_ofList] at htrim
  refine h ⟨front, line, column, blanks ++ dropped, ?_, hline, hcolumn, hlineDigits, hcolumnDigits, fun b hb => ?_⟩
  · rw [hmessage, htrim]
    simp only [List.append_assoc]
  · exact (List.mem_append.1 hb).elim (hblanks b) (hdropped b)

/-! ## The messages of the scanner -/

theorem toDigits_solid {base : Nat} (hbase : 1 < base) (n : Nat) : ' ' ∉ Nat.toDigits base n := by
  induction n using Nat.strongRecOn with
  | ind n ih =>
    rw [Nat.toDigits_eq_if hbase]
    split
    · simp
    · rename_i hn
      have hdiv : n / base < n := Nat.div_lt_self (by omega) hbase
      simp [ih _ hdiv]

/-- One character behind a colon is no place unless the word in front of the colon is the one in front of columns. -/
theorem not_endsInPosition_colon {a : Char} (ha : a ≠ 'n') (front : List Char) (c : Char) :
    ¬ EndsInPosition (front ++ [a, ':', ' ', c]) := by
  intro hends
  obtain ⟨tail, before, hreverse, htail⟩ := hends.reverse
  have hsplit : c :: ' ' :: ':' :: a :: front.reverse = tail ++ ' ' :: ':' :: 'n' :: before := by
    simpa using hreverse
  match tail, hsplit with
  | [], hsplit =>
    simp only [List.nil_append, List.cons.injEq] at hsplit
    exact absurd hsplit.2.1 (by decide)
  | [_], hsplit =>
    simp only [List.cons_append, List.nil_append, List.cons.injEq] at hsplit
    exact ha hsplit.2.2.2.1
  | [_, _], hsplit =>
    simp only [List.cons_append, List.nil_append, List.cons.injEq] at hsplit
    exact absurd hsplit.2.2.1 (by decide)
  | _ :: _ :: d :: _, hsplit =>
    simp only [List.cons_append, List.cons.injEq] at hsplit
    exact htail d (by simp) (hsplit.2.2.1 ▸ by decide)

/-- A message of the scanner does not end in a place. -/
theorem LexError.unplaced (e : LexError) : ¬ EndsInPosition e.message.toList := by
  cases e with
  | unterminatedString =>
    show ¬ EndsInPosition "Unterminated string literal".toList
    exact (EndsPlain.of_getLast ⟨'l', by simp, by decide⟩).closed
  | unterminatedIdentifier quote =>
    have hlast : EndsPlain "' before EOF.".toList := .of_getLast ⟨'.', by simp, by decide⟩
    have hmessage : (LexError.unterminatedIdentifier quote).message.toList =
        ("Expected close delimiter '" ++ quote.toString).toList ++ "' before EOF.".toList := String.toList_append
    rw [hmessage]
    exact (hlast.append _).closed
  | unterminatedComment =>
    show ¬ EndsInPosition "Unexpected EOF while in a multi-line comment".toList
    exact (EndsPlain.of_getLast ⟨'t', by simp, by decide⟩).closed
  | unterminatedDollarString =>
    show ¬ EndsInPosition "Unterminated dollar-quoted string".toList
    exact (EndsPlain.of_getLast ⟨'g', by simp, by decide⟩).closed
  | unterminatedTag =>
    show ¬ EndsInPosition "Unterminated dollar-quoted, expected $".toList
    exact (EndsPlain.of_getLast ⟨'$', by simp, by decide⟩).closed
  | unterminatedEscapes =>
    show ¬ EndsInPosition "Unterminated encoded string literal".toList
    exact (EndsPlain.of_getLast ⟨'l', by simp, by decide⟩).closed
  | codePoint error =>
    cases error with
    | unterminated =>
      show ¬ EndsInPosition "Unterminated unicode encoded string literal".toList
      exact (EndsPlain.of_getLast ⟨'l', by simp, by decide⟩).closed
    | missingDigit =>
      show ¬ EndsInPosition "Unexpected EOF while parsing hex digit in escaped unicode string.".toList
      exact (EndsPlain.of_getLast ⟨'.', by simp, by decide⟩).closed
    | badDigit c =>
      have hmessage : (LexError.codePoint (.badDigit c)).message.toList =
          "Invalid hex digit in escaped unicode strin".toList ++ ['g', ':', ' ', c] :=
        String.toList_append.trans (by simp)
      rw [hmessage]
      exact not_endsInPosition_colon (by decide) _ c
    | badCodePoint n =>
      have hmessage : (LexError.codePoint (.badCodePoint n)).message.toList =
          "Invalid unicode character: ".toList ++ Nat.toDigits 16 n :=
        String.toList_append.trans (congrArg _ String.toList_ofList)
      have hlead : Leads "Invalid unicode character: ".toList :=
        ⟨"Invalid unicode characte".toList, 'r', ':', by simp, by decide, by decide⟩
      rw [hmessage]
      exact hlead.not_endsInPosition (toDigits_solid (by decide) n)

/-! ## The errors of a text -/

/-- An error points at a location of a text, and its message does not end in a place. -/
structure ParseError.Located (e : ParseError) (text : String) (at_ : Text.Location) : Prop where
  location : e.location = some at_
  within : at_.Within text.toList
  display : e.display = "line " ++ toString (at_.line - 1) ++ ":" ++ toString (at_.column - 1) ++ " " ++ e.message
  message : ¬ EndsInPosition e.message.toList

section

variable {dialect : Dialect} {text message : String} {tokens : List Lexeme} {at_ : Text.Location}

theorem ParseError.located (hwithin : at_.Within text.toList) (hmessage : ¬ EndsInPosition message.toList) :
    ParseError.Located ⟨message, some at_⟩ text at_ := ⟨rfl, hwithin, rfl, hmessage⟩

/-- The scanner stops in the text. -/
theorem within_of_lexError {e : LexError} (h : lexemes dialect text = .error (e, at_)) : at_.Within text.toList := by
  unfold lexemes at h
  dsimp only at h
  split at h
  · cases h
  · rename_i rest hscan
    cases h
    have hwithin := Text.within_after (text.toList.take (text.toList.length - rest.length))
      (text.toList.drop (text.toList.length - rest.length))
    rwa [List.take_append_drop] at hwithin

/-- The end of some tokens is that of the last one. -/
theorem exists_endLocation (hne : tokens ≠ []) : ∃ l ∈ tokens, endLocation tokens = some l.span.stop :=
  ⟨tokens.getLast hne, List.getLast_mem hne, by rw [endLocation, List.getLast?_eq_some_getLast hne]; rfl⟩

/-- The location of an error is that of the place in its report, or the end of the tokens. -/
theorem Fault.failure_eq (fault : Fault) {report : String} {place : Option Text.Location}
    (hfatal : ∀ text, fault = .fatal text → False) (hreport : fault.report = report)
    (hsplit : splitPosition report = (message, place)) :
    fault.failure tokens = .error ⟨message, place.or (endLocation tokens)⟩ := by
  unfold failure
  split
  · exact absurd rfl (hfatal _)
  · rw [hreport, hsplit]

/-- A fault that stems from the tokens of a text points into the text. -/
theorem Fault.failure_located {fault : Fault} {e : ParseError} (htokens : lexemes dialect text = .ok tokens)
    (hne : tokens ≠ []) (hfault : Sourced tokens (.error fault : Except Fault (Unit × List Lexeme)))
    (h : fault.failure tokens = .error e) : ∃ at_, e.Located text at_ := by
  obtain ⟨last, hlast, hend⟩ := exists_endLocation hne
  have hlastWithin := (within_of_mem_lexemes htokens hlast).2
  cases fault with
  | fatal => cases h
  | tooDeep =>
    have hmessage : ¬ EndsInPosition "recursion limit exceeded".toList :=
      (EndsPlain.of_getLast ⟨'d', by simp, by decide⟩).closed
    rw [failure_eq .tooDeep nofun rfl (splitPosition_unplaced hmessage), hend] at h
    cases h
    exact ⟨_, ParseError.located hlastWithin hmessage⟩
  | rejected message place =>
    obtain ⟨hplace, hunplaced⟩ := hfault
    have hmessage := hunplaced.out (scanned_of_lexemes htokens)
    cases place with
    | none =>
      have hreport : (Fault.rejected message none).report = message := String.append_empty
      rw [failure_eq (.rejected message none) nofun hreport (splitPosition_unplaced hmessage), hend] at h
      cases h
      exact ⟨_, ParseError.located hlastWithin hmessage⟩
    | some at_ =>
      obtain ⟨l, hl, rfl⟩ := hplace at_ rfl
      have hsplit := splitPosition_positionSuffix message l.span.start
      rw [failure_eq (.rejected message (some l.span.start)) nofun rfl hsplit, hend] at h
      split at h
      · cases h
        exact ⟨_, ParseError.located (within_of_mem_lexemes htokens hl).1 (trimEnd_unplaced hmessage)⟩
      · cases h
        exact ⟨_, ParseError.located hlastWithin (trimEnd_unplaced hmessage)⟩

end

/-- **Errors point into the text**: where a text with a token in it is rejected, the error has a location on one of the
lines of the text, at a character of the line or behind the last one. It is shown with this location, and the message
behind it does not end in a place. -/
theorem parse_error_located (dialect : Dialect) (text : String) (e : ParseError) (hne : lexemes dialect text ≠ .ok [])
    (h : parseStatements dialect text = .error (.error e) ∨ parseExpr dialect text = .error (.error e)) :
    ∃ at_, e.Located text at_ := by
  cases htokens : lexemes dialect text with
  | error r =>
    obtain ⟨lexError, at_⟩ := r
    have hscan : tokensOf dialect text = .error (.error ⟨lexError.message, some at_⟩) := by
      rw [tokensOf, htokens]
    have he : e = ⟨lexError.message, some at_⟩ := by
      obtain h | h := h
      · rw [parseStatements, hscan] at h
        cases h
        rfl
      · rw [parseExpr, hscan] at h
        cases h
        rfl
    rw [he]
    exact ⟨at_, ParseError.located (within_of_lexError htokens) lexError.unplaced⟩
  | ok tokens =>
    have hsome : tokens ≠ [] := fun hnil => hne (hnil ▸ htokens)
    have : Parser.FaithfulGrammar tokens (grammar dialect maxDepth) := (grammars_faithful tokens dialect maxDepth).1
    obtain h | h := h
    · have hread := (inferInstance : Faithful tokens (Parser.statements (grammar dialect maxDepth).statement
        (2 * tokens.length + 1) false)).run (List.suffix_refl tokens)
      rw [Parser.parseStatements_eq htokens] at h
      split at h
      · cases h
      · rename_i fault heq
        rw [heq] at hread
        exact fault.failure_located htokens hsome hread.error (Except.error.inj h)
    · have hread := (inferInstance : Faithful tokens ((grammar dialect maxDepth).expr 0)).run (List.suffix_refl tokens)
      rw [Parser.parseExpr_eq htokens] at h
      split at h
      · cases h
      · rename_i found l rest heq
        cases h
        have hl : l ∈ tokens := (hread.ok heq).1.subset List.mem_cons_self
        have hlead : Leads "Expected: end of expression, found: ".toList :=
          ⟨"Expected: end of expression, foun".toList, 'd', ':', by simp, by decide, by decide⟩
        have hmessage : ¬ EndsInPosition ("Expected: end of expression, found: " ++ l.token.display).toList := by
          rw [String.toList_append]
          exact hlead.shown (scanned_of_lexemes htokens l hl).shown
        exact ⟨_, ParseError.located (within_of_mem_lexemes htokens hl).1 hmessage⟩
      · rename_i fault heq
        rw [heq] at hread
        exact fault.failure_located htokens hsome hread.error (Except.error.inj h)

/-- The error of a text that is rejected. -/
theorem parseStatements_eq_error {dialect : Dialect} {text : String} {e : ParseError}
    (h : (match parseStatements dialect text with
      | .error (.error found) => decide (found = e)
      | _ => false) = true) : parseStatements dialect text = .error (.error e) := by
  split at h
  · rename_i found heq
    rw [heq, of_decide_eq_true h]
  · cases h

/-- At the end of the text, an error points behind the last token. -/
theorem missing_table_located :
    lexemes .generic "SELECT 'é\n',\n  x FROM -- table" ≠ .ok [] ∧
    parseStatements .generic "SELECT 'é\n',\n  x FROM -- table" =
      .error (.error ⟨"Expected: identifier, found: EOF", some ⟨3, 9⟩⟩) ∧
    ∃ at_, ParseError.Located ⟨"Expected: identifier, found: EOF", some ⟨3, 9⟩⟩
      "SELECT 'é\n',\n  x FROM -- table" at_ := by
  have hsome : (lexemes .generic "SELECT 'é\n',\n  x FROM -- table").toOption ≠ some [] := by decide +kernel
  have hne : lexemes .generic "SELECT 'é\n',\n  x FROM -- table" ≠ .ok [] :=
    fun h => hsome (congrArg Except.toOption h)
  have herror : parseStatements .generic "SELECT 'é\n',\n  x FROM -- table" =
      .error (.error ⟨"Expected: identifier, found: EOF", some ⟨3, 9⟩⟩) :=
    parseStatements_eq_error (by decide +kernel)
  exact ⟨hne, herror, parse_error_located _ _ _ hne (.inl herror)⟩

end SqlTemplate.Sql
