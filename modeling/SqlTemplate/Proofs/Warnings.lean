import Mathlib.Data.List.Induction
import SqlTemplate.Proofs.Declaring

/-!
# Warnings about repeated names

Every declaration that replaces another one is warned about, so that a name which is declared `n` times is warned about
`n - 1` times, and each warning is about the declaration that is kept in the end.

* `count_repetitions`: how often a name is among the repetitions.
* `Keeps.mem_warnings_iff`, `Keeps.count_warnings`: which warnings there are, and how many about each name.
* `warnings_once_iff`: there is one warning about each repeated name just if no name is declared three times.
-/

namespace SqlTemplate

namespace Macro

open Sql

/-- A name is repeated once less often than it comes. -/
theorem count_repetitions (names : List String) (name : String) :
    (repetitions names).count name = names.count name - 1 := by
  induction names using List.reverseRecOn with
  | nil => rfl
  | append_singleton names last ih =>
    rw [repetitions_concat, List.count_append, List.count_append, ih]
    by_cases hlast : last = name
    · subst hlast
      -- the last name counts as a repetition if it is not the first of its kind
      by_cases hmem : last ∈ names
      · have hpos := List.count_pos_iff.2 hmem
        simp only [hmem, if_true, List.count_singleton_self]
        omega
      · simp [hmem, List.count_eq_zero_of_not_mem hmem]
    · have hsingle : [last].count name = 0 := by simp [hlast]
      have hnone : (if last ∈ names then [last] else []).count name = 0 := by
        split
        · exact hsingle
        · rfl
      omega

theorem mem_repetitions {names : List String} {name : String} :
    name ∈ repetitions names ↔ 1 < names.count name := by
  rw [← List.count_pos_iff, count_repetitions]
  omega

/-- The warning about a name that was declared before, with the place of its last placeholder. -/
def Placeholder.warning (p : Placeholder) : Diagnostic where
  code := .cteDuplicateName
  severity := .warn
  message := p.written ++ " declared more than once, using the last declaration"
  location := p.location
  subject := some p.name

/-- How often a name is warned about. -/
def Extraction.countWarnings (x : Extraction) (name : String) : Nat :=
  x.warnings.countP fun warning => warning.subject = some name

/-- How often a name is declared. -/
def countDeclared (placeholders : List Placeholder) (name : String) : Nat := (placeholders.map (·.name)).count name

section

variable {source : Option String} {placeholders before after : List Placeholder} {p : Placeholder} {x : Extraction}

/-- Behind the last placeholder of a name the name does not come, so that all others come before. -/
theorem declared_before_iff (hsplit : placeholders = before ++ p :: after) (hafter : ∀ q ∈ after, q.name ≠ p.name) :
    1 < countDeclared placeholders p.name ↔ p.name ∈ before.map (·.name) := by
  have hnone : (after.map (·.name)).count p.name = 0 := by
    refine List.count_eq_zero_of_not_mem fun hmem => ?_
    obtain ⟨q, hq, hname⟩ := List.mem_map.1 hmem
    exact hafter q hq hname
  rw [← List.count_pos_iff, countDeclared, hsplit, List.map_append, List.map_cons, List.count_append,
    List.count_cons_self, hnone]
  omega

namespace Keeps

theorem mem_duplicates_iff (h : Keeps source placeholders x) (name : String) :
    name ∈ x.duplicates ↔ 1 < countDeclared placeholders name := by
  rw [h.repeated, mem_repetitions, countDeclared]

/-- The last placeholder of a name is the one that is warned about. -/
theorem duplicateWarning_eq (h : Keeps source placeholders x) (hsplit : placeholders = before ++ p :: after)
    (hafter : ∀ q ∈ after, q.name ≠ p.name) : x.duplicateWarning p.name = p.warning := by
  have hkept : x.get? p.name = some (p.declaration source) :=
    (h.found p.name _).2 ⟨(h.last _).2 ⟨before, p, after, hsplit, hafter, rfl⟩, rfl⟩
  rw [Extraction.duplicateWarning, hkept]
  rfl

/-- Every warning is about the last placeholder of a name that was declared before. -/
theorem mem_warnings_iff (h : Keeps source placeholders x) (warning : Diagnostic) :
    warning ∈ x.warnings ↔ ∃ before p after, placeholders = before ++ p :: after ∧
      p.name ∈ before.map (·.name) ∧ (∀ q ∈ after, q.name ≠ p.name) ∧ warning = p.warning := by
  constructor
  · intro hwarning
    obtain ⟨name, hname, rfl⟩ := List.mem_map.1 hwarning
    have hcount := (h.mem_duplicates_iff name).1 hname
    obtain ⟨q, hq, rfl⟩ := List.mem_map.1 (List.count_pos_iff.1 (Nat.lt_of_succ_lt hcount))
    obtain ⟨d, hd, hdname⟩ := (h.names q.name).2 ⟨q, hq, rfl⟩
    obtain ⟨before, p, after, hsplit, hafter, rfl⟩ := (h.last d).1 hd
    have hpq : p.name = q.name := hdname
    rw [← hpq] at hcount ⊢
    exact ⟨before, p, after, hsplit, (declared_before_iff hsplit hafter).1 hcount, hafter,
      h.duplicateWarning_eq hsplit hafter⟩
  · rintro ⟨before, p, after, hsplit, hmem, hafter, rfl⟩
    rw [← h.duplicateWarning_eq hsplit hafter]
    exact List.mem_map_of_mem ((h.mem_duplicates_iff p.name).2 ((declared_before_iff hsplit hafter).2 hmem))

/-- A name is warned about once less often than it is declared. -/
theorem countWarnings_eq (h : Keeps source placeholders x) (name : String) :
    x.countWarnings name = countDeclared placeholders name - 1 := by
  have hsubject : ((fun warning : Diagnostic => decide (warning.subject = some name)) ∘ x.duplicateWarning) =
      (· == name) := by
    funext other
    simp [Extraction.duplicateWarning, Bool.beq_eq_decide_eq]
  rw [Extraction.countWarnings, Extraction.warnings, List.countP_map, hsubject, ← List.count, h.repeated,
    count_repetitions, countDeclared]

end Keeps

end

end Macro

open Sql Macro

/-- **Warnings about repeated names.** The warnings are about the names that are declared more than once, each about the
declaration that is kept. A name is warned about once less often than it is declared, so that there is exactly one
warning about each of these names just if none of them is declared more than twice. -/
theorem warnings_once_iff {source : Option String} {statements : List Statement} {x : Extraction}
    (h : extractPlaceholders source statements = .ok x) :
    ∃ placeholders : List Placeholder, placeholderSites statements = placeholders.map .ok ∧
      (∀ warning, warning ∈ x.warnings ↔ ∃ before p after, placeholders = before ++ p :: after ∧
        p.name ∈ before.map (·.name) ∧ (∀ q ∈ after, q.name ≠ p.name) ∧ warning = p.warning) ∧
      (∀ name, x.countWarnings name = countDeclared placeholders name - 1) ∧
      ((∀ name, x.countWarnings name = if 1 < countDeclared placeholders name then 1 else 0) ↔
        ∀ name, countDeclared placeholders name ≤ 2) := by
  obtain ⟨placeholders, hsites, hkeeps⟩ := keeps_of_extract h
  refine ⟨placeholders, hsites, hkeeps.mem_warnings_iff, hkeeps.countWarnings_eq, forall_congr' fun name => ?_⟩
  rw [hkeeps.countWarnings_eq]
  split <;> omega

/-- What is extracted from a text, if it is read. -/
def extractionOf? (dialect : Dialect) (text : String) : Option Extraction :=
  match parseStatements dialect text with
  | .error _ => none
  | .ok statements => (extractPlaceholders (some text) statements).toOption

theorem extract_of_extractionOf {dialect : Dialect} {text : String} {x : Extraction}
    (h : extractionOf? dialect text = some x) :
    ∃ statements, parseStatements dialect text = .ok statements ∧
      extractPlaceholders (some text) statements = .ok x := by
  unfold extractionOf? at h
  split at h
  · cases h
  · rename_i statements hparse
    refine ⟨statements, hparse, ?_⟩
    cases hx : extractPlaceholders (some text) statements with
    | error => rw [hx] at h; cases h
    | ok y => rw [hx] at h; cases h; rfl

/-- A text that declares a name three times. -/
def declaredThrice : String := "WITH $__a AS (SELECT 1), $__a AS (SELECT 2), $__a AS (SELECT 3) SELECT 1"

/-- A name that is declared three times is warned about twice. -/
theorem third_declaration_warned :
    ∃ statements x placeholders,
      parseStatements .clickHouse declaredThrice = .ok statements ∧
      extractPlaceholders (some declaredThrice) statements = .ok x ∧
      placeholderSites statements = placeholders.map .ok ∧ countDeclared placeholders "a" = 3 ∧
      x.countWarnings "a" = 2 := by
  have hwarned : (extractionOf? .clickHouse declaredThrice).map (·.countWarnings "a") = some 2 := by decide +kernel
  obtain ⟨x, hx, hcount⟩ := Option.map_eq_some_iff.1 hwarned
  obtain ⟨statements, hparse, hextract⟩ := extract_of_extractionOf hx
  obtain ⟨placeholders, hsites, -, hnames, -⟩ := warnings_once_iff hextract
  have hdeclared := hnames "a"
  exact ⟨statements, x, placeholders, hparse, hextract, hsites, by omega, hcount⟩

end SqlTemplate
