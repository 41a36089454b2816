import SqlTemplate.Time.Duration
import Mathlib.Algebra.GroupWithZero.Nat
import Mathlib.Data.List.Induction
import Mathlib.Data.List.TakeWhile

/-!
# The grammar of durations

A duration is written as nothing, as a bare zero, or as terms behind an optional plus sign. A text is read if and only
if it is written like this and is not too long, and it is worth the sum of its terms.

* `IsNumber`, `units`, `worth`: a decimal number, the units, and the worth of a number in a unit.
* `Spells`: the texts of durations with what they are worth.
* `terms_cons`: a text is cut at the front, as long as something is left of it.
* `parse_spells`: which texts are read, what they are worth, and which are too long.
-/

namespace SqlTemplate.Time.Duration

/-! ## The grammar -/

/-- A decimal number, with its digits in front of the point and behind it: at most one point and at least one digit. -/
inductive IsNumber : (number whole fraction : List Char) → Prop
  | digits {whole : List Char} (hwhole : ∀ c ∈ whole, c.isDigit = true) (hne : whole ≠ []) : IsNumber whole whole []
  | pointed {whole fraction : List Char} (hwhole : ∀ c ∈ whole, c.isDigit = true)
      (hfraction : ∀ c ∈ fraction, c.isDigit = true) (hne : whole ≠ [] ∨ fraction ≠ []) :
      IsNumber (whole ++ '.' :: fraction) whole fraction

/-- The units, with their nanoseconds. -/
def units : List (List Char × Nat) :=
  [("ns".toList, 1), ("us".toList, 1000), ("µs".toList, 1000), ("μs".toList, 1000), ("ms".toList, 1000000),
    ("s".toList, 1000000000), ("m".toList, 60 * 1000000000), ("h".toList, 3600 * 1000000000)]

/-- The worth of a number in a unit: the whole part times the unit, and the fraction, as far as it is read, times the
unit, rounded down. -/
def worth (whole fraction : List Char) (scale : Nat) : Nat :=
  digitsValue whole * scale +
    digitsValue (fraction.take fractionDigits) * scale / 10 ^ (fraction.take fractionDigits).length

/-- One or more terms, and the sum of what they are worth. -/
inductive SpellsTerms : List Char → Nat → Prop
  | one {number whole fraction unit : List Char} {scale : Nat} (hnumber : IsNumber number whole fraction)
      (hunit : (unit, scale) ∈ units) : SpellsTerms (number ++ unit) (worth whole fraction scale)
  | cons {number whole fraction unit rest : List Char} {scale total : Nat} (hnumber : IsNumber number whole fraction)
      (hunit : (unit, scale) ∈ units) (h : SpellsTerms rest total) :
      SpellsTerms (number ++ unit ++ rest) (worth whole fraction scale + total)

/-- The texts of durations, and what they are worth. -/
inductive Spells : List Char → Nat → Prop
  | nothing : Spells [] 0
  | zero : Spells ['0'] 0
  | terms {cs : List Char} {n : Nat} (h : SpellsTerms cs n) : Spells cs n
  | signed {cs : List Char} {n : Nat} (h : SpellsTerms cs n) : Spells ('+' :: cs) n

variable {number whole fraction unit rest cs : List Char} {scale n total : Nat} {input : String}

/-! ## Numbers and units -/

theorem isNumeral_iff {c : Char} : isNumeral c = true ↔ c.isDigit = true ∨ c = '.' := by
  simp [isNumeral]

theorem ne_point {c : Char} (h : c.isDigit = true) : c ≠ '.' := by
  rintro rfl
  exact absurd h (by decide)

/-- A numeral takes one byte. -/
theorem utf8Size_numeral {c : Char} (h : isNumeral c = true) : c.utf8Size = 1 := by
  rw [Char.utf8Size_eq_one_iff]
  rcases isNumeral_iff.1 h with h | rfl
  · simp only [Char.isDigit, Bool.and_eq_true, decide_eq_true_eq] at h
    exact UInt32.le_trans h.2 (by decide)
  · decide

theorem IsNumber.numerals (h : IsNumber number whole fraction) : ∀ c ∈ number, isNumeral c = true := by
  intro c hc
  rw [isNumeral_iff]
  cases h with
  | digits hwhole _ => exact .inl (hwhole c hc)
  | pointed hwhole hfraction _ =>
    rcases List.mem_append.1 hc with hc | hc
    · exact .inl (hwhole c hc)
    · rcases List.mem_cons.1 hc with rfl | hc
      · exact .inr rfl
      · exact .inl (hfraction c hc)

theorem IsNumber.ne_nil (h : IsNumber number whole fraction) : number ≠ [] := by
  cases h with
  | digits _ hne => exact hne
  | pointed => simp

/-- What stands in front of the first point and behind it. -/
theorem IsNumber.parts (h : IsNumber number whole fraction) :
    number.takeWhile (· != '.') = whole ∧ (number.dropWhile (· != '.')).drop 1 = fraction := by
  cases h with
  | digits hwhole _ =>
    have hall : ∀ c ∈ number, (c != '.') = true := fun c hc => by simpa using ne_point (hwhole c hc)
    rw [List.takeWhile_eq_self_iff.2 hall, List.dropWhile_eq_nil_iff.2 hall]
    exact ⟨rfl, rfl⟩
  | pointed hwhole _ _ =>
    have hall : ∀ c ∈ whole, (c != '.') = true := fun c hc => by simpa using ne_point (hwhole c hc)
    rw [List.takeWhile_append_of_pos hall, List.dropWhile_append_of_pos hall]
    simp

theorem IsNumber.fraction_digits (h : IsNumber number whole fraction) : ∀ c ∈ fraction, c.isDigit = true := by
  cases h with
  | digits => simp
  | pointed _ hfraction _ => exact hfraction

/-- Numerals are a number if they hold a digit and no second point. -/
theorem isNumber_of_parts (hnumerals : ∀ c ∈ number, isNumeral c = true)
    (hne : ¬ ((number.takeWhile (· != '.')).isEmpty && ((number.dropWhile (· != '.')).drop 1).isEmpty) = true)
    (hpoint : ((number.dropWhile (· != '.')).drop 1).contains '.' = false) :
    IsNumber number (number.takeWhile (· != '.')) ((number.dropWhile (· != '.')).drop 1) := by
  have hsplit := List.takeWhile_append_dropWhile (p := (· != '.')) (l := number)
  have hwhole : ∀ c ∈ number.takeWhile (· != '.'), c.isDigit = true := fun c hc =>
    (isNumeral_iff.1 (hnumerals c (List.takeWhile_subset _ hc))).resolve_right
      (by simpa using List.mem_takeWhile_imp hc)
  generalize number.takeWhile (· != '.') = whole at *
  cases hrest : number.dropWhile (· != '.') with
  | nil =>
    simp only [hrest, List.append_nil, List.drop_nil, List.isEmpty_nil, Bool.and_true, List.isEmpty_iff] at hsplit hne ⊢
    subst hsplit
    exact .digits hwhole hne
  | cons c fraction =>
    obtain rfl : c = '.' := by
      have hstop := List.head_dropWhile_not (· != '.') (l := number) (by simp [hrest])
      simpa [hrest] using hstop
    simp only [hrest, List.drop_succ_cons, List.drop_zero] at hne hpoint ⊢
    rw [← hsplit, hrest]
    refine .pointed hwhole (fun c hc => ?_) (by simpa [Decidable.imp_iff_not_or] using hne)
    have hmem : c ∈ number := by
      rw [← hsplit, hrest]
      simp [hc]
    refine (isNumeral_iff.1 (hnumerals c hmem)).resolve_right ?_
    rintro rfl
    simp [hc] at hpoint

theorem unitNanos?_eq_some : unitNanos? unit = some scale ↔ (unit, scale) ∈ units := by
  unfold unitNanos?
  split <;> simp_all [units, eq_comm]

/-- A unit is a word without numerals, and it is worth something. -/
theorem units_apart (h : (unit, scale) ∈ units) :
    unit ≠ [] ∧ (∀ c ∈ unit, isNumeral c = false) ∧ 0 < scale ∧ scale ≤ 3600000000000 := by
  have hall : ∀ u ∈ units, u.1 ≠ [] ∧ (∀ c ∈ u.1, isNumeral c = false) ∧ 0 < u.2 ∧ u.2 ≤ 3600000000000 := by
    simp [units, isNumeral]
  exact hall _ h

/-! ## Cutting a text -/

/-- **A text is cut at its front.** While something is left, the longest run of numerals and the run up to the next
numeral are taken off it. -/
theorem terms_cons (c : Char) (cs : List Char) :
    terms (c :: cs) =
      ⟨(c :: cs).takeWhile isNumeral, ((c :: cs).dropWhile isNumeral).takeWhile (!isNumeral ·)⟩ ::
        terms (((c :: cs).dropWhile isNumeral).dropWhile (!isNumeral ·)) := by
  induction cs generalizing c with
  | nil => cases h : isNumeral c <;> simp [terms, h]
  | cons d ds ih =>
    rw [terms, ih d]
    cases hc : isNumeral c <;> cases hd : isNumeral d <;> simp [hc, hd, ih d]

theorem length_rest_lt (c : Char) (cs : List Char) :
    (((c :: cs).dropWhile isNumeral).dropWhile (!isNumeral ·)).length < (c :: cs).length := by
  have hdrop := (List.dropWhile_suffix (l := (c :: cs).dropWhile isNumeral) (!isNumeral ·)).length_le
  have hdrop' := (List.dropWhile_suffix (l := cs) isNumeral).length_le
  have hdrop'' := (List.dropWhile_suffix (l := cs) (!isNumeral ·)).length_le
  cases h : isNumeral c
  · simp [h]
    omega
  · simp only [h, List.dropWhile_cons_of_pos] at hdrop ⊢
    simp
    omega

/-- A number with a unit behind it is one term, in front of the end of the text or of another number. -/
theorem terms_append (hnumber : ∀ c ∈ number, isNumeral c = true) (hne : number ≠ [])
    (hunit : ∀ c ∈ unit, isNumeral c = false) (hunitNe : unit ≠ []) (hrest : ∀ c ∈ rest.head?, isNumeral c = true) :
    terms (number ++ unit ++ rest) = ⟨number, unit⟩ :: terms rest := by
  obtain ⟨c, cs, rfl⟩ := List.exists_cons_of_ne_nil hne
  obtain ⟨d, ds, rfl⟩ := List.exists_cons_of_ne_nil hunitNe
  have hunits : ∀ a ∈ d :: ds, (!isNumeral a) = true := fun a ha => by simp [hunit a ha]
  have hdrop : (d :: ds ++ rest).dropWhile isNumeral = d :: ds ++ rest :=
    List.dropWhile_cons_of_neg (by simp [hunit d List.mem_cons_self])
  have htake : (d :: ds ++ rest).takeWhile isNumeral = [] :=
    List.takeWhile_cons_of_neg (by simp [hunit d List.mem_cons_self])
  have hstop : rest.takeWhile (!isNumeral ·) = [] ∧ rest.dropWhile (!isNumeral ·) = rest := by
    cases rest with
    | nil => exact ⟨rfl, rfl⟩
    | cons a as => simp [hrest a rfl]
  rw [List.append_assoc, List.cons_append, terms_cons, ← List.cons_append, List.takeWhile_append_of_pos hnumber,
    List.dropWhile_append_of_pos hnumber, hdrop, htake, List.takeWhile_append_of_pos hunits,
    List.dropWhile_append_of_pos hunits, hstop.1, hstop.2, List.append_nil, List.append_nil]

theorem SpellsTerms.head (h : SpellsTerms cs n) : ∃ c d rest, cs = c :: d :: rest ∧ isNumeral c = true := by
  have hterm {number whole fraction unit : List Char} {scale : Nat} (hnumber : IsNumber number whole fraction)
      (hunit : (unit, scale) ∈ units) (rest : List Char) :
      ∃ c d tail, number ++ unit ++ rest = c :: d :: tail ∧ isNumeral c = true := by
    obtain ⟨c, cs, rfl⟩ := List.exists_cons_of_ne_nil hnumber.ne_nil
    obtain ⟨d, ds, rfl⟩ := List.exists_cons_of_ne_nil (units_apart hunit).1
    cases cs with
    | nil => exact ⟨c, d, ds ++ rest, rfl, hnumber.numerals c List.mem_cons_self⟩
    | cons b bs => exact ⟨c, b, bs ++ d :: ds ++ rest, by simp, hnumber.numerals c List.mem_cons_self⟩
  cases h with
  | one hnumber hunit => simpa using hterm hnumber hunit []
  | cons hnumber hunit h => exact hterm hnumber hunit _

/-! ## Adding up -/

/-- A number in a unit is worth what it says, unless that is too much. -/
theorem numberNanos_eq (hnumber : IsNumber number whole fraction) (hscale : 0 < scale) :
    numberNanos input number scale =
      if maxWide < worth whole fraction scale then .error (.overflow input) else .ok (worth whole fraction scale) := by
  obtain ⟨hwhole, hfraction⟩ := hnumber.parts
  have hshape : ((whole.isEmpty && fraction.isEmpty) || fraction.contains '.') = false := by
    rw [Bool.or_eq_false_iff]
    refine ⟨?_, ?_⟩
    · cases hnumber with
      | digits _ hne => simpa using hne
      | pointed _ _ hne => simpa [Decidable.imp_iff_not_or] using hne
    · simpa using fun hmem => ne_point (hnumber.fraction_digits _ hmem) rfl
  have hle : digitsValue whole ≤ digitsValue whole * scale := Nat.le_mul_of_pos_right _ hscale
  simp only [numberNanos, hwhole, hfraction, hshape, Bool.false_eq_true, if_false, Nat.pow_eq, Bool.or_eq_true,
    decide_eq_true_eq]
  rw [worth]
  generalize digitsValue (fraction.take fractionDigits) * scale / 10 ^ (fraction.take fractionDigits).length = part
  split
  · rw [if_pos (by omega)]
  · rfl

/-- A term is worth something if and only if it is a number in a unit. -/
theorem nanos_eq_ok {t : Term} (hnumerals : ∀ c ∈ t.number, isNumeral c = true) (h : t.nanos input = .ok n) :
    ∃ whole fraction scale, IsNumber t.number whole fraction ∧ (t.unit, scale) ∈ units ∧
      n = worth whole fraction scale := by
  unfold Term.nanos at h
  split at h
  · cases h
  split at h
  · cases h
  split at h
  · cases h
  next scale hunit =>
  have hmem := unitNanos?_eq_some.1 hunit
  by_cases hshape : (((t.number.takeWhile (· != '.')).isEmpty && ((t.number.dropWhile (· != '.')).drop 1).isEmpty) ||
      ((t.number.dropWhile (· != '.')).drop 1).contains '.') = true
  · rw [numberNanos, if_pos hshape] at h
    cases h
  · rw [Bool.not_eq_true, Bool.or_eq_false_iff] at hshape
    have hnumber := isNumber_of_parts hnumerals (by rw [hshape.1]; decide) hshape.2
    rw [numberNanos_eq hnumber (units_apart hmem).2.2.1] at h
    split at h
    · cases h
    · exact ⟨_, _, scale, hnumber, hmem, (Except.ok.inj h).symm⟩

theorem nanos_eq {t : Term} (hnumber : IsNumber t.number whole fraction) (hunit : (t.unit, scale) ∈ units) :
    t.nanos input =
      if maxWide < worth whole fraction scale then .error (.overflow input) else .ok (worth whole fraction scale) := by
  obtain ⟨hne, -, hscale, -⟩ := units_apart hunit
  rw [Term.nanos, if_neg (by simpa using hnumber.ne_nil), if_neg (by simpa using hne), unitNanos?_eq_some.2 hunit]
  exact numberNanos_eq hnumber hscale

/-- One more term: its worth is added to the total, and anything too large is too long a duration. -/
theorem sumTerms_cons {t : Term} {ts : List Term} (hnumber : IsNumber t.number whole fraction)
    (hunit : (t.unit, scale) ∈ units) :
    sumTerms input total (t :: ts) =
      if maxWide < total + worth whole fraction scale then .error (.overflow input)
      else sumTerms input (total + worth whole fraction scale) ts := by
  rw [sumTerms, nanos_eq hnumber hunit]
  split
  · rw [if_pos (by omega)]
    rfl
  · rfl

/-- Terms are added up, unless the sum is too large at some place. -/
theorem SpellsTerms.sum (h : SpellsTerms cs n) (total : Nat) :
    sumTerms input total (terms cs) = if maxWide < total + n then .error (.overflow input) else .ok (total + n) := by
  induction h generalizing total with
  | one hnumber hunit =>
    obtain ⟨hne, hletters, -⟩ := units_apart hunit
    rw [← List.append_nil (_ ++ _), terms_append hnumber.numerals hnumber.ne_nil hletters hne (by simp),
      sumTerms_cons hnumber hunit]
    rfl
  | @cons number whole fraction unit rest scale n hnumber hunit h ih =>
    obtain ⟨hne, hletters, -⟩ := units_apart hunit
    obtain ⟨c, d, tail, rfl, hc⟩ := h.head
    rw [terms_append hnumber.numerals hnumber.ne_nil hletters hne (by simpa using hc), sumTerms_cons hnumber hunit, ih,
      Nat.add_assoc]
    split
    · rw [if_pos (by omega)]
    · rfl

/-- What is added up is written in the grammar. -/
theorem spellsTerms_of_sum (h : sumTerms input total (terms cs) = .ok n) (hne : cs ≠ []) :
    ∃ m, SpellsTerms cs m ∧ n = total + m := by
  induction hlength : cs.length using Nat.strongRecOn generalizing cs total with
  | _ length ih =>
    obtain ⟨c, cs, rfl⟩ := List.exists_cons_of_ne_nil hne
    have hshorter := length_rest_lt c cs
    have hnumerals : ∀ a ∈ (c :: cs).takeWhile isNumeral, isNumeral a = true := fun a ha => List.mem_takeWhile_imp ha
    rw [terms_cons] at h
    have hsplit : (c :: cs).takeWhile isNumeral ++ ((c :: cs).dropWhile isNumeral).takeWhile (!isNumeral ·) ++
        ((c :: cs).dropWhile isNumeral).dropWhile (!isNumeral ·) = c :: cs := by
      rw [List.append_assoc, List.takeWhile_append_dropWhile, List.takeWhile_append_dropWhile]
    generalize (c :: cs).takeWhile isNumeral = number at *
    generalize ((c :: cs).dropWhile isNumeral).takeWhile (!isNumeral ·) = unit at *
    generalize ((c :: cs).dropWhile isNumeral).dropWhile (!isNumeral ·) = rest at *
    have hnanos : ∃ m, (⟨number, unit⟩ : Term).nanos input = .ok m := by
      cases hterm : (⟨number, unit⟩ : Term).nanos input with
      | ok m => exact ⟨m, rfl⟩
      | error e => simp [sumTerms, hterm, bind, Except.bind] at h
    obtain ⟨_, hnanos⟩ := hnanos
    obtain ⟨whole, fraction, scale, hnumber, hunit, -⟩ := nanos_eq_ok hnumerals hnanos
    rw [sumTerms_cons hnumber hunit] at h
    split at h
    · cases h
    · rw [← hsplit]
      cases rest with
      | nil =>
        cases h
        rw [List.append_nil]
        exact ⟨_, .one hnumber hunit, rfl⟩
      | cons d ds =>
        obtain ⟨m, hm, rfl⟩ := ih _ (hlength ▸ hshorter) h (by simp) rfl
        exact ⟨_, .cons hnumber hunit hm, by omega⟩

/-! ## Steps of the computation -/

/-- A number that a step comes to; one that is too large makes the duration too long. -/
def wide (input : String) (n : Nat) : Except Error Nat :=
  if n ≤ maxWide then .ok n else .error (.overflow input)

/-- The worth of a number in a unit, where every step may come to a number that is too large. -/
def numberNanosWide (input : String) (number : List Char) (scale : Nat) : Except Error Nat :=
  let whole := number.takeWhile (· != '.')
  let fraction := (number.dropWhile (· != '.')).drop 1
  if (whole.isEmpty && fraction.isEmpty) || fraction.contains '.' then .error (.invalid input)
  else do
    let wholeValue ← wide input (digitsValue whole)
    let value ← wide input (wholeValue * scale)
    let kept := fraction.take fractionDigits
    let digits ← wide input (digitsValue kept)
    let scaled ← wide input (digits * scale)
    let divisor ← wide input (10 ^ kept.length)
    wide input (value + scaled / divisor)

theorem digitsValue_append (as bs : List Char) :
    digitsValue (as ++ bs) = digitsValue as * 10 ^ bs.length + digitsValue bs := by
  induction bs using List.reverseRecOn with
  | nil => simp [digitsValue]
  | append_singleton bs b ih =>
    have hsnoc (l : List Char) : digitsValue (l ++ [b]) = 10 * digitsValue l + (b.toNat - 48) := by simp [digitsValue]
    rw [← List.append_assoc, hsnoc, hsnoc, ih, List.length_append, List.length_singleton, Nat.pow_succ, Nat.mul_add]
    simp only [Nat.mul_comm 10, Nat.mul_assoc, Nat.add_assoc]

theorem digitsValue_lt (h : ∀ c ∈ cs, c.isDigit = true) : digitsValue cs < 10 ^ cs.length := by
  induction cs using List.reverseRecOn with
  | nil => simp [digitsValue]
  | append_singleton cs c ih =>
    have hc : c.toNat - 48 ≤ 9 := by
      have := h c (by simp)
      simp only [Char.isDigit, Bool.and_eq_true, decide_eq_true_eq, UInt32.le_iff_toNat_le] at this
      have hle : c.toNat ≤ 57 := this.2
      omega
    have hlt := ih fun d hd => h d (by simp [hd])
    have hone : digitsValue [c] = c.toNat - 48 := by simp [digitsValue]
    rw [digitsValue_append, hone, List.length_append, List.length_singleton, Nat.pow_succ]
    omega

/-- The digits of a fraction that are read are too few for their number, or its product with a unit, to be too large. -/
theorem kept_bounds (h : ∀ c ∈ fraction, c.isDigit = true) (hscale : scale ≤ 3600000000000) :
    digitsValue (fraction.take fractionDigits) < 1000000000000000000 ∧
    digitsValue (fraction.take fractionDigits) * scale ≤ 3600000000000000000000000000000 ∧
    10 ^ (fraction.take fractionDigits).length ≤ 1000000000000000000 := by
  have hlt : digitsValue (fraction.take fractionDigits) < 10 ^ (fraction.take fractionDigits).length :=
    digitsValue_lt fun c hc => h c (List.mem_of_mem_take hc)
  have hlength : (fraction.take fractionDigits).length ≤ 18 := by
    rw [List.length_take]
    exact Nat.min_le_left _ _
  have hpow : 10 ^ (fraction.take fractionDigits).length ≤ 10 ^ 18 := Nat.pow_le_pow_right (by decide) hlength
  have hmul := Nat.mul_le_mul (Nat.le_of_lt (Nat.lt_of_lt_of_le hlt hpow)) hscale
  exact ⟨Nat.lt_of_lt_of_le hlt hpow, hmul, hpow⟩

/-- **No step comes to a number that is too large without being noticed.** -/
theorem numberNanosWide_eq (hnumerals : ∀ c ∈ number, isNumeral c = true) (hunit : (unit, scale) ∈ units) :
    numberNanosWide input number scale = numberNanos input number scale := by
  unfold numberNanosWide numberNanos
  dsimp only
  split
  · rfl
  next hshape =>
  rw [Bool.not_eq_true, Bool.or_eq_false_iff] at hshape
  have hnumber := isNumber_of_parts hnumerals (by rw [hshape.1]; decide) hshape.2
  generalize number.takeWhile (· != '.') = whole at *
  generalize (number.dropWhile (· != '.')).drop 1 = fraction at *
  obtain ⟨hdigits, hscaled, hdivisor⟩ := kept_bounds hnumber.fraction_digits (units_apart hunit).2.2.2
  simp only [Nat.pow_eq, Bool.or_eq_true, decide_eq_true_eq]
  generalize digitsValue (fraction.take fractionDigits) = digits at *
  generalize 10 ^ (fraction.take fractionDigits).length = divisor at *
  have hfits (n : Nat) (h : n ≤ 3600000000000000000000000000000) : wide input n = .ok n :=
    if_pos (Nat.le_trans h (by decide))
  by_cases hwhole : maxWide < digitsValue whole
  · rw [if_pos (.inl hwhole), wide, if_neg (by omega)]
    rfl
  by_cases hvalue : maxWide < digitsValue whole * scale
  · rw [if_pos (.inr hvalue), wide, if_pos (by omega)]
    show wide input (digitsValue whole * scale) >>= _ = _
    rw [wide, if_neg (by omega)]
    rfl
  rw [if_neg (by omega), wide, if_pos (by omega)]
  show wide input (digitsValue whole * scale) >>= _ = _
  rw [wide, if_pos (by omega)]
  simp only [hfits digits (by omega), hfits (digits * scale) hscaled, hfits divisor (by omega), bind, Except.bind]
  rw [wide]
  split <;> split <;> first | rfl | omega

/-! ## Reading durations -/

theorem eq_of_nanos_eq {d e : Duration} (h : d.nanos = e.nanos) : d = e := by
  cases d
  cases e
  cases h
  rfl

/-- The duration of a sum of terms. -/
def ofTotal (input : String) (total : Nat) : Except Error Duration :=
  match ofNanos? total with
  | some d => .ok d
  | none => .error (.overflow input)

theorem ofTotal_cases (input : String) (n : Nat) :
    (∃ d : Duration, d.nanos = n ∧ ofTotal input n = .ok d) ∨
      maxDurationNanos < n ∧ ofTotal input n = .error (.overflow input) := by
  by_cases h : n ≤ maxDurationNanos
  · exact .inl ⟨⟨n, h⟩, rfl, by rw [ofTotal, ofNanos?, dif_pos h]⟩
  · exact .inr ⟨by omega, by rw [ofTotal, ofNanos?, dif_neg h]⟩

/-- How terms are read, behind a sign or without one. -/
def readTerms (input : String) (cs : List Char) : Except Error Duration := do
  let total ← sumTerms input 0 (terms cs)
  ofTotal input total

/-- Terms in the grammar are read, unless they are too long. -/
theorem SpellsTerms.read (h : SpellsTerms cs n) (input : String) :
    (∃ d : Duration, d.nanos = n ∧ readTerms input cs = .ok d) ∨
      maxDurationNanos < n ∧ readTerms input cs = .error (.overflow input) := by
  have hwide : maxDurationNanos < maxWide := by decide
  rw [readTerms, h.sum, Nat.zero_add]
  split
  · exact .inr ⟨by omega, rfl⟩
  · exact ofTotal_cases input n

/-- Terms that are read are in the grammar. -/
theorem spellsTerms_of_read {d : Duration} (h : readTerms input cs = .ok d) (hne : cs ≠ []) :
    SpellsTerms cs d.nanos := by
  rw [readTerms] at h
  cases hsum : sumTerms input 0 (terms cs) with
  | error e => simp [hsum, bind, Except.bind] at h
  | ok total =>
    obtain ⟨m, hm, rfl⟩ := spellsTerms_of_sum hsum hne
    simp only [hsum, Nat.zero_add, bind, Except.bind] at h
    rcases ofTotal_cases input m with ⟨e, rfl, hok⟩ | ⟨-, herror⟩
    · obtain rfl := Except.ok.inj (hok.symm.trans h)
      exact hm
    · rw [herror] at h
      cases h

/-- A text that is not nothing, zero, negative or a bare sign is read as terms, behind a plus sign if it has one. -/
theorem parse_of_trim {c : Char} {s : String} (ht : Text.trimChars s.toList = c :: cs) (hzero : c :: cs ≠ ['0'])
    (hminus : c ≠ '-') (hplus : c :: cs ≠ ['+']) :
    parse s = readTerms s (if c = '+' then cs else c :: cs) := by
  rw [parse, ht]
  split
  · contradiction
  · contradiction
  next heq => exact absurd (List.cons.inj heq).1 hminus
  · contradiction
  next heq =>
    obtain ⟨rfl, rfl⟩ := List.cons.inj heq
    rfl

/-- Terms are neither nothing nor a bare zero, and no sign stands in front of them. -/
theorem SpellsTerms.parse_eq {s : String} (h : SpellsTerms cs n) (ht : Text.trimChars s.toList = cs) :
    parse s = readTerms s cs := by
  obtain ⟨c, d, rest, rfl, hc⟩ := h.head
  have hsign : c ≠ '-' ∧ c ≠ '+' := by
    constructor <;> rintro rfl <;> exact absurd hc (by decide)
  rw [parse_of_trim ht (by simp) hsign.1 (by simp), if_neg hsign.2]

theorem SpellsTerms.parse_signed {s : String} (h : SpellsTerms cs n) (ht : Text.trimChars s.toList = '+' :: cs) :
    parse s = readTerms s cs := by
  obtain ⟨c, d, rest, rfl, hc⟩ := h.head
  rw [parse_of_trim ht (by simp) (by decide) (by simp), if_pos rfl]

/-- Texts in the grammar are read, unless they are too long. -/
theorem Spells.read {s : String} (h : Spells (Text.trimChars s.toList) n) :
    (∃ d : Duration, d.nanos = n ∧ parse s = .ok d) ∨
      maxDurationNanos < n ∧ parse s = .error (.overflow s) := by
  generalize ht : Text.trimChars s.toList = t at h
  cases h with
  | nothing => exact .inl ⟨Duration.zero, rfl, by simp only [parse, ht]⟩
  | zero => exact .inl ⟨Duration.zero, rfl, by simp only [parse, ht]⟩
  | terms h =>
    rw [h.parse_eq ht]
    exact h.read s
  | signed h =>
    rw [h.parse_signed ht]
    exact h.read s

/-- Texts that are read are in the grammar. -/
theorem spells_of_parse {s : String} {d : Duration} (h : parse s = .ok d) :
    Spells (Text.trimChars s.toList) d.nanos := by
  cases ht : Text.trimChars s.toList with
  | nil =>
    rw [parse, ht] at h
    cases h
    exact .nothing
  | cons c cs =>
    by_cases hzero : c :: cs = ['0']
    · rw [parse, ht, hzero] at h
      cases h
      rw [hzero]
      exact .zero
    by_cases hminus : c = '-'
    · rw [parse, ht, hminus] at h
      cases h
    by_cases hplus : c :: cs = ['+']
    · rw [parse, ht, hplus] at h
      cases h
    rw [parse_of_trim ht hzero hminus hplus] at h
    split at h
    next hsign =>
      subst hsign
      exact .signed (spellsTerms_of_read h fun hcs => hplus (by rw [hcs]))
    next => exact .terms (spellsTerms_of_read h (by simp))

/-- **Durations are read by their grammar.** Without the blanks around it, a text is read as a duration if and only if
it is in the grammar with what that duration comes to. A text in the grammar fails only if it comes to more than the
longest duration, and for this reason. And whatever the text is, reading it cuts a number and a unit from its front
until nothing is left: each time the text gets shorter, the number has characters of a single byte, and no step of the
computation comes to a number that is too large without being noticed. -/
theorem parse_spells (s : String) :
    (∀ d : Duration, parse s = .ok d ↔ Spells (Text.trimChars s.toList) d.nanos) ∧
    (∀ n, Spells (Text.trimChars s.toList) n →
      ∀ e, parse s = .error e ↔ e = .overflow s ∧ maxDurationNanos < n) ∧
    ∀ c cs, ∃ t rest, terms (c :: cs) = t :: terms rest ∧ t.number ++ t.unit ++ rest = c :: cs ∧
      rest.length < (c :: cs).length ∧ (∀ a ∈ t.number, a.utf8Size = 1) ∧
      ∀ scale, unitNanos? t.unit = some scale → numberNanosWide s t.number scale = numberNanos s t.number scale := by
  refine ⟨fun d => ⟨spells_of_parse, fun h => ?_⟩, fun n h e => ?_, fun c cs => ?_⟩
  · rcases h.read with ⟨e, he, hok⟩ | ⟨hlong, -⟩
    · rw [hok, eq_of_nanos_eq he]
    · exact absurd d.nanos_le (by omega)
  · rcases h.read with ⟨d, hd, hok⟩ | ⟨hlong, herror⟩
    · have hle := d.nanos_le
      rw [hok]
      exact ⟨nofun, fun h => absurd h.2 (by omega)⟩
    · rw [herror, Except.error.injEq]
      exact ⟨fun h => ⟨h.symm, hlong⟩, fun h => h.1.symm⟩
  · have hnumerals : ∀ a ∈ (c :: cs).takeWhile isNumeral, isNumeral a = true := fun a ha => List.mem_takeWhile_imp ha
    exact ⟨_, _, terms_cons c cs, by
      rw [List.append_assoc, List.takeWhile_append_dropWhile, List.takeWhile_append_dropWhile], length_rest_lt c cs,
      fun a ha => utf8Size_numeral (hnumerals a ha),
      fun scale hscale => numberNanosWide_eq hnumerals (unitNanos?_eq_some.1 hscale)⟩

end SqlTemplate.Time.Duration
