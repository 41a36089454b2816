import SqlTemplate.Proofs.Durations
import Mathlib.Algebra.Order.Floor.Semifield
import Mathlib.Data.Rat.Floor
import Mathlib.Tactic.FieldSimp
import Mathlib.Tactic.Ring

/-!
# Long fractions

Of a fraction eighteen digits are read. The digits behind them are worth less than a nanosecond together, but they may
still make up a whole one with what the digits in front of them leave over. This happens for minutes and hours only: the
other units divide `10 ^ 18`, so that what eighteen digits leave over is short of a nanosecond by more than later digits
are worth.

* `exactWorth`: the worth of a number with all of its digits.
* `Carries`: the digits that are not read make up a nanosecond.
* `exactWorth_eq`: one nanosecond is missing if they do, and none otherwise.
* `numberNanos_exact_iff`: which numbers get the worth they have.
-/

namespace SqlTemplate.Time.Duration

variable {number whole fraction unit : List Char} {scale : Nat}

/-- The number that digits in front of a point and behind it spell. -/
def exactValue (whole fraction : List Char) : ℚ :=
  digitsValue whole + digitsValue fraction / 10 ^ fraction.length

/-- The worth of a number in a unit, rounded down to whole nanoseconds. -/
def exactWorth (whole fraction : List Char) (scale : Nat) : Nat :=
  ⌊exactValue whole fraction * scale⌋₊

/-- What the digits that are read leave over of a nanosecond, together with the worth of those that are not read. A
whole nanosecond is `10 ^ fraction.length`. -/
def leftOver (fraction : List Char) (scale : Nat) : Nat :=
  let kept := fraction.take fractionDigits
  let cut := fraction.drop fractionDigits
  digitsValue kept * scale % 10 ^ kept.length * 10 ^ cut.length + digitsValue cut * scale

/-- The digits of a fraction that are not read make up a nanosecond, with what the digits that are read leave over. -/
def Carries (fraction : List Char) (scale : Nat) : Prop :=
  10 ^ fraction.length ≤ leftOver fraction scale

instance (fraction : List Char) (scale : Nat) : Decidable (Carries fraction scale) :=
  inferInstanceAs (Decidable (_ ≤ _))

/-! ## The exact worth -/

theorem ten_pow_pos (n : Nat) : 0 < 10 ^ n := Nat.pow_pos (by decide)

/-- Rounding the exact worth down is a division of natural numbers. -/
theorem exactWorth_eq_div (whole fraction : List Char) (scale : Nat) :
    exactWorth whole fraction scale =
      digitsValue whole * scale + digitsValue fraction * scale / 10 ^ fraction.length := by
  have hvalue : exactValue whole fraction * scale =
      ((digitsValue fraction * scale + 10 ^ fraction.length * (digitsValue whole * scale) : ℕ) : ℚ) /
        ((10 ^ fraction.length : ℕ) : ℚ) := by
    rw [exactValue]
    push_cast
    field_simp
    ring
  rw [exactWorth, hvalue, Nat.floor_div_eq_div, Nat.add_mul_div_left _ _ (ten_pow_pos _), Nat.add_comm]

theorem pow_length_eq (fraction : List Char) :
    10 ^ fraction.length =
      10 ^ (fraction.take fractionDigits).length * 10 ^ (fraction.drop fractionDigits).length := by
  rw [← Nat.pow_add, ← List.length_append, List.take_append_drop]

/-- A fraction is worth what is read of it, and the whole nanoseconds of what is left over. -/
theorem fraction_div_eq (fraction : List Char) (scale : Nat) :
    digitsValue fraction * scale / 10 ^ fraction.length =
      digitsValue (fraction.take fractionDigits) * scale / 10 ^ (fraction.take fractionDigits).length +
        leftOver fraction scale / 10 ^ fraction.length := by
  have hvalue := digitsValue_append (fraction.take fractionDigits) (fraction.drop fractionDigits)
  rw [List.take_append_drop] at hvalue
  have hkept := Nat.div_add_mod (digitsValue (fraction.take fractionDigits) * scale)
    (10 ^ (fraction.take fractionDigits).length)
  rw [pow_length_eq, leftOver, hvalue]
  have hpos := ten_pow_pos (fraction.take fractionDigits).length
  have hpos' := ten_pow_pos (fraction.drop fractionDigits).length
  generalize 10 ^ (fraction.take fractionDigits).length = p at *
  generalize 10 ^ (fraction.drop fractionDigits).length = q at *
  generalize digitsValue (fraction.take fractionDigits) = kept at *
  generalize digitsValue (fraction.drop fractionDigits) = cut at *
  have hsplit : (kept * q + cut) * scale = kept * scale % p * q + cut * scale + p * q * (kept * scale / p) := by
    calc (kept * q + cut) * scale = (kept * scale) * q + cut * scale := by ring
      _ = (p * (kept * scale / p) + kept * scale % p) * q + cut * scale := by rw [hkept]
      _ = kept * scale % p * q + cut * scale + p * q * (kept * scale / p) := by ring
  rw [hsplit, Nat.add_mul_div_left _ _ (Nat.mul_pos hpos hpos'), Nat.add_comm]

/-! ## What is left over -/

/-- Digits that are not read stand behind eighteen others. -/
theorem drop_nil_or_length (fraction : List Char) :
    fraction.drop fractionDigits = [] ∨
      (fraction.take fractionDigits).length = 18 ∧ fractionDigits < fraction.length := by
  by_cases h : fraction.length ≤ fractionDigits
  · exact .inl (List.drop_eq_nil_of_le h)
  · rw [List.length_take]
    exact .inr ⟨Nat.min_eq_left (by omega), by omega⟩

/-- Without more than eighteen digits nothing is left over. -/
theorem leftOver_lt_of_short (h : fraction.drop fractionDigits = []) :
    leftOver fraction scale < 10 ^ fraction.length := by
  have hmod := Nat.mod_lt (digitsValue (fraction.take fractionDigits) * scale)
    (ten_pow_pos (fraction.take fractionDigits).length)
  rw [pow_length_eq, leftOver, h]
  simpa [digitsValue] using hmod

/-- The digits that are not read are worth less than one unit in the place of the last digit that is read. -/
theorem cut_lt (hfraction : ∀ c ∈ fraction, c.isDigit = true) :
    digitsValue (fraction.drop fractionDigits) < 10 ^ (fraction.drop fractionDigits).length :=
  digitsValue_lt fun c hc => hfraction c (List.mem_of_mem_drop hc)

/-- Less than two nanoseconds are left over. -/
theorem leftOver_lt (hfraction : ∀ c ∈ fraction, c.isDigit = true) (hscale : scale ≤ 3600000000000) :
    leftOver fraction scale < 2 * 10 ^ fraction.length := by
  rcases drop_nil_or_length fraction with hshort | ⟨hkept, -⟩
  · exact Nat.lt_of_lt_of_le (leftOver_lt_of_short hshort) (Nat.le_mul_of_pos_left _ (by decide))
  · have hcut := cut_lt hfraction
    rw [pow_length_eq, leftOver, hkept]
    have hmod := Nat.mod_lt (digitsValue (fraction.take fractionDigits) * scale) (ten_pow_pos 18)
    generalize digitsValue (fraction.take fractionDigits) * scale % 10 ^ 18 = rest at *
    generalize 10 ^ (fraction.drop fractionDigits).length = q at *
    generalize digitsValue (fraction.drop fractionDigits) = cut at *
    have hfirst : rest * q ≤ 10 ^ 18 * q := Nat.mul_le_mul_right q (Nat.le_of_lt hmod)
    have hsecond : cut * scale < 10 ^ 18 * q := by
      calc cut * scale ≤ cut * 10 ^ 18 := Nat.mul_le_mul_left _ (Nat.le_trans hscale (by decide))
        _ < q * 10 ^ 18 := Nat.mul_lt_mul_of_pos_right hcut (by decide)
        _ = 10 ^ 18 * q := Nat.mul_comm _ _
    omega

/-- **One nanosecond is missing** if the digits that are not read make one up, and none otherwise. -/
theorem exactWorth_eq (hfraction : ∀ c ∈ fraction, c.isDigit = true) (hscale : scale ≤ 3600000000000) :
    exactWorth whole fraction scale = worth whole fraction scale + if Carries fraction scale then 1 else 0 := by
  have hcarry : leftOver fraction scale / 10 ^ fraction.length = if Carries fraction scale then 1 else 0 := by
    have hlt := leftOver_lt hfraction hscale
    split
    next h =>
      have hle : 10 ^ fraction.length ≤ leftOver fraction scale := h
      exact Nat.div_eq_of_lt_le (by omega) (by omega)
    next h => exact Nat.div_eq_of_lt (Nat.lt_of_not_le h)
  rw [exactWorth_eq_div, fraction_div_eq, hcarry, worth, Nat.add_assoc]

/-- In a unit that divides `10 ^ 18` no digits make up a nanosecond. -/
theorem not_carries_of_dvd (hfraction : ∀ c ∈ fraction, c.isDigit = true) (hdvd : scale ∣ 10 ^ 18) :
    ¬ Carries fraction scale := by
  refine Nat.not_le_of_lt ?_
  rcases drop_nil_or_length fraction with hshort | ⟨hkept, -⟩
  · exact leftOver_lt_of_short hshort
  · have hcut := cut_lt hfraction
    rw [pow_length_eq, leftOver, hkept]
    have hmod := Nat.mod_lt (digitsValue (fraction.take fractionDigits) * scale) (ten_pow_pos 18)
    have hrest : scale ∣ digitsValue (fraction.take fractionDigits) * scale % 10 ^ 18 :=
      (Nat.dvd_mod_iff hdvd).2 (Nat.dvd_mul_left _ _)
    generalize digitsValue (fraction.take fractionDigits) * scale % 10 ^ 18 = rest at *
    generalize 10 ^ (fraction.drop fractionDigits).length = q at *
    generalize digitsValue (fraction.drop fractionDigits) = cut at *
    -- Both are multiples of the unit, so what is left over is a whole unit away from a nanosecond.
    have hunit : rest + scale ≤ 10 ^ 18 := by
      have hle := Nat.le_of_dvd (Nat.sub_pos_of_lt hmod) (Nat.dvd_sub hdvd hrest)
      omega
    have hscale : 0 < scale := Nat.pos_of_dvd_of_pos hdvd (by decide)
    calc rest * q + cut * scale < rest * q + q * scale :=
          Nat.add_lt_add_left (Nat.mul_lt_mul_of_pos_right hcut hscale) _
      _ = (rest + scale) * q := by ring
      _ ≤ 10 ^ 18 * q := Nat.mul_le_mul_right q hunit

/-- A nanosecond is made up in minutes and in hours only, and by more than eighteen digits. -/
theorem carries_long (h : Carries fraction scale) (hfraction : ∀ c ∈ fraction, c.isDigit = true)
    (hunit : (unit, scale) ∈ units) : (unit = "m".toList ∨ unit = "h".toList) ∧ fractionDigits < fraction.length := by
  refine ⟨?_, ?_⟩
  · have hall : ∀ u ∈ units, u.1 = "m".toList ∨ u.1 = "h".toList ∨ u.2 ∣ 10 ^ 18 := by decide
    rcases hall _ hunit with hm | hh | hdvd
    · exact .inl hm
    · exact .inr hh
    · exact absurd h (not_carries_of_dvd hfraction hdvd)
  · rcases drop_nil_or_length fraction with hshort | ⟨-, hlong⟩
    · exact absurd h (Nat.not_le_of_lt (leftOver_lt_of_short hshort))
    · exact hlong

/-! ## Numbers as they are read -/

/-- **Which numbers get the worth they have.** A number in a unit is refused if it is too long. Otherwise it gets what
it is worth, rounded down to whole nanoseconds, if and only if the digits of its fraction that are not read do not make
up a nanosecond with what those that are read leave over. If they do, it gets a nanosecond less. In minutes and hours
they may; in the other units, and with no more than eighteen digits, they do not. -/
theorem numberNanos_exact_iff (input : String) (hnumber : IsNumber number whole fraction)
    (hunit : (unit, scale) ∈ units) :
    ((∃ n, numberNanos input number scale = .ok n) ∨
      numberNanos input number scale = .error (.overflow input) ∧ maxWide < exactWorth whole fraction scale) ∧
    (∀ n, numberNanos input number scale = .ok n →
      (n = exactWorth whole fraction scale ↔ ¬ Carries fraction scale) ∧
      (Carries fraction scale → n + 1 = exactWorth whole fraction scale)) ∧
    (Carries fraction scale → (unit = "m".toList ∨ unit = "h".toList) ∧ fractionDigits < fraction.length) := by
  obtain ⟨-, -, hpos, hscale⟩ := units_apart hunit
  have hexact : exactWorth whole fraction scale =
      worth whole fraction scale + if Carries fraction scale then 1 else 0 :=
    exactWorth_eq hnumber.fraction_digits hscale
  have hnanos : numberNanos input number scale =
      if maxWide < worth whole fraction scale then .error (.overflow input) else .ok (worth whole fraction scale) :=
    numberNanos_eq hnumber hpos
  refine ⟨?_, fun n hn => ?_, fun h => carries_long h hnumber.fraction_digits hunit⟩
  · rw [hnanos]
    split
    · exact .inr ⟨rfl, by omega⟩
    · exact .inl ⟨_, rfl⟩
  · rw [hnanos] at hn
    split at hn
    · cases hn
    · obtain rfl := Except.ok.inj hn
      rw [hexact]
      constructor
      · split <;> simp_all
      · intro h
        rw [if_pos h]

/-- Of `0.0000000000011111112h` the last digit is not read. It is worth four nanoseconds and gets three. -/
theorem last_digit_carries :
    ∃ number whole fraction, IsNumber number whole fraction ∧ number = "0.0000000000011111112".toList ∧
      numberNanos "" number 3600000000000 = .ok 3 ∧ Carries fraction 3600000000000 ∧
      exactWorth whole fraction 3600000000000 = 4 := by
  have hnumber : IsNumber "0.0000000000011111112".toList "0".toList "0000000000011111112".toList :=
    @IsNumber.pointed "0".toList "0000000000011111112".toList (by simp) (by simp) (.inl (by simp))
  have hunit : ("h".toList, 3600000000000) ∈ units := by decide
  have hthree : numberNanos "" "0.0000000000011111112".toList 3600000000000 = .ok 3 := by decide
  have hcarries : Carries "0000000000011111112".toList 3600000000000 := by decide
  exact ⟨_, _, _, hnumber, rfl, hthree, hcarries,
    (((numberNanos_exact_iff "" hnumber hunit).2.1 3 hthree).2 hcarries).symm⟩

end SqlTemplate.Time.Duration
