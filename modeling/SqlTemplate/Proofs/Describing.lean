import SqlTemplate.Proofs.Decoding
import SqlTemplate.Proofs.Placeholders
import SqlTemplate.Proofs.Positions
import SqlTemplate.Proofs.Running
import SqlTemplate.Proofs.Selections

/-!
# Queries that only describe

Whether a query describes something is asked of its first word, before it is read. A query whose first word says so is
read as a description, at least as far as its first statement goes.

* `first_of_lexemes`: the first word of a text is its first token if blanks stand around it.
* `description_first`: a query whose first word is that of a description is read as one.
* `placeholders_listed`: what the service and the program list of a query, and what is extracted from it.
-/

namespace SqlTemplate

open Sql Macro

namespace Text

theorem toNat_lt_of_isLower_toLower {c : Char} (h : c.toLower.isLower = true) : c.toNat < 0x80 := by
  unfold Char.toLower at h
  split at h
  · rename_i hc
    simp [UInt32.le_iff_toNat_le] at hc
    omega
  · have hcode := isLower_iff.1 h
    omega

/-- A character whose lower-case form is a letter of ASCII is one, and it has the upper-case form of that letter. -/
theorem upperChar_of_toLower {c : Char} (h : c.toLower.isLower = true) :
    c.isAlpha = true ∧ upperChar c = [c.toLower.toUpper] := by
  have hcodes : ∀ n ∈ List.range 0x80, (Char.ofNat n).toLower.isLower = true →
      (Char.ofNat n).isAlpha = true ∧ upperChar (Char.ofNat n) = [(Char.ofNat n).toLower.toUpper] := by decide +kernel
  have hc := hcodes c.toNat (List.mem_range.2 (toNat_lt_of_isLower_toLower h))
  rw [Char.ofNat_toNat] at hc
  exact hc h

/-- Characters whose lower-case forms are letters of ASCII are letters, and have the upper-case forms of these. -/
theorem flatMap_upperChar_of_toLower {cs : List Char} (h : ∀ c ∈ cs, c.toLower.isLower = true) :
    (∀ c ∈ cs, c.isAlpha = true) ∧ cs.flatMap upperChar = (cs.map Char.toLower).map Char.toUpper := by
  refine ⟨fun c hc => (upperChar_of_toLower (h c hc)).1, ?_⟩
  induction cs with
  | nil => rfl
  | cons c cs ih =>
    obtain ⟨hc, hcs⟩ := List.forall_mem_cons.1 h
    rw [List.flatMap_cons, (upperChar_of_toLower hc).2, ih hcs]
    rfl

/-- A blank is no character of a word or a number, and it marks or opens nothing. -/
theorem blank_apart {c : Char} (hc : isBlank c = true) :
    (∀ d : Dialect, d.isWordStart c = false ∧ d.isWordPart c = false) ∧ c.isDigit = false ∧
      c ∉ ['\'', '"', '\x60', '.', '-', '/', '$', '?', '#', '@', '&'] ∧ c.toLower ∉ ['n', 'x', 'e', 'b', 'r', 'u'] := by
  have hletter : isLetter c = false := of_isBlank (p := fun c => isLetter c = false) (by decide +kernel) hc
  have hclass : c.isAlpha = false ∧ c.isDigit = false ∧ c ≠ '_' :=
    of_isBlank (p := fun c => c.isAlpha = false ∧ c.isDigit = false ∧ c ≠ '_') (by decide +kernel) hc
  have hsigns : c ∉ ['\'', '"', '\x60', '.', '-', '/', '$', '?', '#', '@', '&'] :=
    of_isBlank (p := fun c => c ∉ ['\'', '"', '\x60', '.', '-', '/', '$', '?', '#', '@', '&']) (by decide +kernel) hc
  have hmarks : c.toLower ∉ ['n', 'x', 'e', 'b', 'r', 'u'] :=
    of_isBlank (p := fun c => c.toLower ∉ ['n', 'x', 'e', 'b', 'r', 'u']) (by decide +kernel) hc
  refine ⟨fun d => ?_, hclass.2.1, hsigns, hmarks⟩
  simp only [List.mem_cons, List.not_mem_nil, or_false, not_or] at hsigns
  cases d <;> simp [Dialect.isWordStart, Dialect.isWordPart, Char.isAlphanum, hletter, hclass, hsigns]

end Text

namespace Sql

variable {dialect : Dialect}

/-- A blank starts no other token. -/
theorem scanToken_blank (dialect : Dialect) {c : Char} (hc : Text.isBlank c = true) (cs : List Char) :
    ∃ rest, scanToken dialect c cs = .ok (.blank, rest) ∧ rest.dropWhile Text.isBlank = cs.dropWhile Text.isBlank := by
  obtain ⟨hword, hdigit, hsigns, hmarks⟩ := Text.blank_apart hc
  have hmarked : scanMarkedString? dialect c cs = none := by
    unfold scanMarkedString?
    split <;> simp_all
  unfold scanToken
  rw [hmarked]
  dsimp only
  split
  · exact ⟨_, rfl, by simp [show Text.isBlank '\n' = true from rfl]⟩
  · exact absurd (by decide) hsigns
  · exact absurd (by decide) hsigns
  · exact absurd (by decide) hsigns
  · exact absurd (by decide) hsigns
  · exact absurd (by decide) hsigns
  · exact absurd (by decide) hsigns
  · exact absurd (by decide) hsigns
  · exact absurd (by decide) hsigns
  · simp only [List.mem_cons, List.not_mem_nil, or_false, not_or] at hsigns
    simp [hdigit, hsigns, hword dialect, hc]

theorem leavesWord_of_blank {cs : List Char} (h : ∀ c ∈ cs.head?, Text.isBlank c = true) : LeavesWord dialect cs := by
  intro c hc
  obtain ⟨hword, -, hsigns, -⟩ := Text.blank_apart (h c hc)
  simp only [List.mem_cons, List.not_mem_nil, or_false, not_or] at hsigns
  exact ⟨(hword dialect).2, hsigns.1, hsigns.2.1, hsigns.2.2.2.2.2.2.2.2.2.2⟩

/-- The first word of a text is its first token if blanks stand around it. -/
theorem first_of_scanAll {fuel : Nat} {w rest cs : List Char} {pieces : List Piece} (hfuel : cs.length ≤ fuel)
    (hcs : cs.dropWhile Text.isBlank = w ++ rest) (hw : isPlainWord w = true) (hrest : LeavesWord dialect rest)
    (h : scanAll dialect fuel cs = .ok pieces) :
    ∃ more, (pieces.map fun p => p.token.promote).filter (· != .blank) = .word (String.ofList w) none :: more := by
  induction fuel generalizing cs pieces with
  | zero =>
    obtain rfl := List.length_eq_zero_iff.1 (Nat.le_zero.1 hfuel)
    obtain ⟨rfl, -⟩ := List.append_eq_nil_iff.1 hcs.symm
    cases hw
  | succ fuel ih =>
    cases cs with
    | nil =>
      obtain ⟨rfl, -⟩ := List.append_eq_nil_iff.1 hcs.symm
      cases hw
    | cons c cs =>
      obtain ⟨token, text, rest', more, hscan, hmore, rfl, -⟩ := scanAll_eq_ok h
      by_cases hc : Text.isBlank c = true
      · obtain ⟨behind, hblank, hdrop⟩ := scanToken_blank dialect hc cs
        have hlength := (scanToken_leaves.ok hblank).length_le
        rw [hblank] at hscan
        cases hscan
        rw [List.dropWhile_cons_of_pos hc, ← hdrop] at hcs
        obtain ⟨others, hothers⟩ := ih (Nat.le_trans hlength (Nat.le_of_succ_le_succ hfuel)) hcs hmore
        exact ⟨others, hothers⟩
      · rw [List.dropWhile_cons_of_neg hc] at hcs
        cases w with
        | nil => cases hw
        | cons d w =>
          rw [List.cons_append] at hcs
          obtain ⟨rfl, rfl⟩ := List.cons_eq_cons.1 hcs
          rw [scanToken_word dialect hw hrest] at hscan
          cases hscan
          exact ⟨_, rfl⟩

/-- The first word of a text is the first token that is read if blanks stand around it. -/
theorem first_of_lexemes {text : String} {w rest : List Char} {ls : List Lexeme}
    (htext : text.toList.dropWhile Text.isBlank = w ++ rest) (hw : isPlainWord w = true)
    (hrest : LeavesWord dialect rest) (h : lexemes dialect text = .ok ls) :
    ∃ span more, ls = ⟨.word (String.ofList w) none, span⟩ :: more := by
  unfold lexemes at h
  dsimp only at h
  split at h
  · rename_i pieces hscan
    cases h
    obtain ⟨others, hothers⟩ := first_of_scanAll (Nat.le_refl _) htext hw hrest hscan
    rw [← map_token_place .first] at hothers
    obtain ⟨span, more, hls, -⟩ := Parser.cons_of_tokens hothers
    exact ⟨span, more, hls⟩
  · cases h

namespace Parser

/-- A statement that starts with the word of a description is one. -/
theorem description_of_word {g : Grammar} {word : String} {span : Text.Span} {input rest : List Lexeme} {s : Statement}
    (hword : Text.upper word = "DESC" ∨ Text.upper word = "DESCRIBE")
    (h : statement g (⟨.word word none, span⟩ :: input) = .ok (s, rest)) : isDescription s = true := by
  have hdescription : ∃ opening, description g opening input = .ok (s, rest) := by
    unfold statement at h
    rw [run_bind_ok (a := ⟨.word word none, span⟩ :: input) (r := ⟨.word word none, span⟩ :: input) rfl,
      run_bind_ok (a := some ⟨.word word none, span⟩) (r := input) rfl] at h
    have hkeyword : (some (⟨.word word none, span⟩ : Lexeme)).bind (·.token.keyword?) = some (Text.upper word) := rfl
    rw [hkeyword] at h
    rcases hword with hword | hword
    · rw [hword] at h
      exact ⟨.desc, h⟩
    · rw [hword] at h
      exact ⟨.describe, h⟩
  obtain ⟨opening, hdescription⟩ := hdescription
  unfold description at hdescription
  obtain ⟨head, _, -, h⟩ := bind_eq_ok hdescription
  obtain ⟨inner, _, -, h⟩ := bind_eq_ok h
  cases inner with
  | some inner =>
    dsimp only at h
    split at h
    · cases h
    · cases h
      rfl
  | none =>
    obtain ⟨format, _, -, h⟩ := bind_eq_ok h
    cases hdialect : g.dialect
    all_goals
      simp only [hdialect] at h
      obtain ⟨tableWord, _, -, h⟩ := bind_eq_ok h
      obtain ⟨table, _, -, h⟩ := bind_eq_ok h
      cases h
      rfl

end Parser

end Sql

namespace Service

/-- The first word of a query that is said to describe something is the keyword of a description. -/
theorem keyword_of_isDescription {text : String} (h : isDescription text = true) :
    isPlainWord (firstWord text).toList = true ∧
      (Text.upper (firstWord text) = "DESC" ∨ Text.upper (firstWord text) = "DESCRIBE") := by
  obtain ⟨name, hname, hword⟩ : ∃ name ∈ ["describe", "desc"], Text.lowerAscii (firstWord text) = name := by
    simpa [isDescription] using h
  have hlower : (firstWord text).toList.map Char.toLower = name.toList := by
    rw [← hword, Text.lowerAscii, String.toList_ofList]
  have hletters : ∀ c ∈ (firstWord text).toList, c.toLower.isLower = true := by
    have hnames : ["describe", "desc"].all (fun name => name.toList.all Char.isLower) = true := by decide
    intro c hc
    exact List.all_eq_true.1 (List.all_eq_true.1 hnames name hname) _ (hlower ▸ List.mem_map_of_mem hc)
  obtain ⟨halpha, hupper⟩ := Text.flatMap_upperChar_of_toLower hletters
  rw [hlower] at hupper
  constructor
  · have hne : (firstWord text).toList ≠ [] := by
      intro hnil
      rw [hnil] at hlower
      simp only [List.mem_cons, List.not_mem_nil, or_false] at hname
      rcases hname with rfl | rfl <;> cases hlower
    obtain ⟨c, cs, hcons⟩ := List.exists_cons_of_ne_nil hne
    rw [hcons] at halpha ⊢
    obtain ⟨hc, hcs⟩ := List.forall_mem_cons.1 halpha
    exact isPlainWord_cons.2 ⟨by simp [isPlainStart, hc], fun d hd => by simp [isPlainPart, Char.isAlphanum, hcs d hd]⟩
  · rw [Text.upper, hupper]
    simp only [List.mem_cons, List.not_mem_nil, or_false] at hname
    rcases hname with rfl | rfl
    · exact .inr (by decide)
    · exact .inl (by decide)

/-- A query whose first word is that of a description is read as one, at least as far as its first statement goes. -/
theorem description_first {dialect : Dialect} {text : String} {statements : List Statement}
    (h : isDescription text = true) (hparse : parseStatements dialect text = .ok statements) :
    ∃ s rest, statements = s :: rest ∧ Parser.isDescription s = true := by
  obtain ⟨hplain, hkeyword⟩ := keyword_of_isDescription h
  have hword : (firstWord text).toList ++ (text.toList.dropWhile Text.isBlank).dropWhile (fun c => !Text.isBlank c) =
      text.toList.dropWhile Text.isBlank := by
    rw [firstWord, String.toList_ofList, List.takeWhile_append_dropWhile]
  have hleaves : LeavesWord dialect ((text.toList.dropWhile Text.isBlank).dropWhile fun c => !Text.isBlank c) := by
    refine leavesWord_of_blank fun c hc => ?_
    have hstop := List.head?_dropWhile_not (fun c => !Text.isBlank c) (text.toList.dropWhile Text.isBlank)
    rw [Option.mem_def.1 hc] at hstop
    simpa using hstop
  cases hlex : lexemes dialect text with
  | error e =>
    rw [parseStatements, tokensOf, hlex] at hparse
    cases hparse
  | ok ls =>
    obtain ⟨span, more, rfl⟩ := first_of_lexemes hword.symm hplain hleaves hlex
    rw [Parser.parseStatements_eq hlex, String.ofList_toList, Parser.statements_cons,
      if_neg (by simp [Parser.isSign]), if_neg (by simp),
      if_neg (by decide)] at hparse
    split at hparse
    · rename_i hread
      cases hparse
      obtain ⟨s, rest, hs, hread⟩ := Parser.bind_eq_ok hread
      obtain ⟨ss, _, -, hread⟩ := Parser.bind_eq_ok hread
      cases hread
      exact ⟨s, ss, rfl, Parser.description_of_word hkeyword hs⟩
    · cases hparse

/-! ## Listing placeholders -/

section

variable {settings : Settings} {body : List Text.Symbol} {text : String} {statements : List Statement}

/-- The placeholders of a query that says at its front to describe something are not looked for. -/
theorem placeholders_of_description (hbody : decode query body = .ok text) (h : isDescription text = true) :
    placeholders settings body = .ok [] := by
  rw [placeholders, hbody]
  simp [bind, Except.bind, h, pure, Except.pure]

theorem placeholders_of_query (hbody : decode query body = .ok text)
    (hparse : parseStatements settings.dialect text = .ok statements)
    (h : isDescription text = false ∨ placeholderSites statements = []) :
    placeholders settings body = routeOutcome ((extractPlaceholders (some text) statements).map (·.declarations)) := by
  by_cases hdescription : isDescription text = true
  · have hnone := h.resolve_left (by simp [hdescription])
    rw [placeholders_of_description hbody hdescription, extract_of_none hnone]
    rfl
  · rw [placeholders, hbody]
    simp only [bind, Except.bind, hdescription, Bool.false_eq_true, if_false, hparse, Outcome.ofParse, routeOutcome]
    cases extractPlaceholders (some text) statements <;> rfl

/-- What the program prints of a list of placeholders. -/
theorem outputOf_placeholders {ds : List Declaration} (verbose : Bool) (input : String)
    (h : placeholders settings (Text.Symbol.ofText (Command.queryBody text)) = .ok ds) :
    Command.outputOf settings verbose (.placeholders input false) text =
      Command.printed (.ok (Envelope.success (.array (ds.map declarationValue))).value) := by
  have hroute : Route.ofPath? Route.placeholders.path = some .placeholders := by decide
  rw [Command.outputOf, if_neg (by decide), Command.ask, handle, hroute]
  simp only [routeData, h]
  rfl

end

/-- **What is listed of a query is what is extracted from it**, by the service and by the program, as a list and as a
table, unless the query has placeholders and describes something. A query whose first word is that of a description is
read as one; if it is nothing else, the list is empty. -/
theorem placeholders_listed (settings : Settings) (text : String) (statements : List Statement)
    (hparse : parseStatements settings.dialect text = .ok statements) :
    (isDescription text = false ∨ placeholderSites statements = [] →
      (∀ body, decode query body = .ok text → placeholders settings body =
        routeOutcome ((extractPlaceholders (some text) statements).map (·.declarations))) ∧
      ∀ x, extractPlaceholders (some text) statements = .ok x → ∀ verbose input,
        Command.outputOf settings verbose (.placeholders input false) text =
          Command.printed (.ok (Envelope.success (.array (x.declarations.map declarationValue))).value) ∧
        Command.outputOf settings verbose (.placeholders input true) text = Command.placeholderTable verbose x) ∧
    (isDescription text = true → ∃ s rest, statements = s :: rest ∧ Parser.isDescription s = true ∧
      (rest = [] → ∀ body, decode query body = .ok text → placeholders settings body = .ok [])) := by
  refine ⟨fun h => ⟨fun body hbody => placeholders_of_query hbody hparse h, fun x hx verbose input => ⟨?_, ?_⟩⟩, fun h => ?_⟩
  · refine outputOf_placeholders verbose input ?_
    rw [placeholders_of_query (decode_queryBody text) hparse h, hx]
    rfl
  · rw [Command.outputOf, if_pos rfl, Command.tableOutput]
    simp only [bind, Except.bind, hparse, hx, Outcome.ofParse]
  · obtain ⟨s, rest, hstatements, hs⟩ := description_first h hparse
    exact ⟨s, rest, hstatements, hs, fun _ body hbody => placeholders_of_description hbody h⟩

/-- The names of the placeholders that are extracted from a query; none if it is not read. -/
def extractedNames (dialect : Dialect) (text : String) : List String :=
  match parseStatements dialect text with
  | .error _ => []
  | .ok statements =>
    match extractPlaceholders (some text) statements with
    | .error _ => []
    | .ok x => x.declarations.map (·.name)

theorem extracted_of_names {dialect : Dialect} {text name : String} {names : List String}
    (h : extractedNames dialect text = name :: names) :
    ∃ statements x, parseStatements dialect text = .ok statements ∧ extractPlaceholders (some text) statements = .ok x ∧
      x.declarations.map (·.name) = name :: names := by
  unfold extractedNames at h
  split at h
  · cases h
  · rename_i statements hparse
    split at h
    · cases h
    · rename_i x hx
      exact ⟨statements, x, hparse, hx, h⟩

/-- What is extracted from a query with one placeholder is listed. -/
theorem placeholder_listed :
    ∃ statements x, parseStatements .clickHouse "WITH $__a AS (SELECT 1) SELECT * FROM $__a" = .ok statements ∧
      extractPlaceholders (some "WITH $__a AS (SELECT 1) SELECT * FROM $__a") statements = .ok x ∧
      x.declarations.map (·.name) = ["a"] ∧
      placeholders .default (Text.Symbol.ofText (Command.queryBody "WITH $__a AS (SELECT 1) SELECT * FROM $__a")) =
        .ok x.declarations := by
  have hnames : extractedNames .clickHouse "WITH $__a AS (SELECT 1) SELECT * FROM $__a" = ["a"] := by decide +kernel
  obtain ⟨statements, x, hparse, hx, hnames⟩ := extracted_of_names hnames
  have hlisted := ((placeholders_listed .default _ statements hparse).1 (.inl (by decide))).1 _ (decode_queryBody _)
  rw [hx] at hlisted
  exact ⟨statements, x, hparse, hx, hnames, hlisted⟩

/-- The placeholder of a query that is described is extracted, but not listed. -/
theorem described_placeholder_not_listed :
    ∃ statements x, parseStatements .clickHouse "DESCRIBE WITH $__a AS (SELECT 1) SELECT * FROM $__a" = .ok statements ∧
      extractPlaceholders (some "DESCRIBE WITH $__a AS (SELECT 1) SELECT * FROM $__a") statements = .ok x ∧
      x.declarations.map (·.name) = ["a"] ∧
      placeholders .default (Text.Symbol.ofText (Command.queryBody "DESCRIBE WITH $__a AS (SELECT 1) SELECT * FROM $__a")) =
        .ok [] := by
  have hnames : extractedNames .clickHouse "DESCRIBE WITH $__a AS (SELECT 1) SELECT * FROM $__a" = ["a"] := by
    decide +kernel
  obtain ⟨statements, x, hparse, hx, hnames⟩ := extracted_of_names hnames
  exact ⟨statements, x, hparse, hx, hnames, placeholders_of_description (decode_queryBody _) (by decide)⟩

end Service

end SqlTemplate
