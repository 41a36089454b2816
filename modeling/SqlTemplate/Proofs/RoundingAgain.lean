import SqlTemplate.Proofs.Rounding

/-!
# Rounding in words, and rounding again

A bound is rounded by a few steps on numbers of 64 bits. None of them leaves these numbers, whatever the instant and the
unit are, so that the exact multiple comes out. A bound that has been rounded is a multiple of the unit already, so that
rounding by the same unit again changes nothing.

* `nearestMultipleWord?`: the computation whose every step has to fit a word; `nearestMultipleWord?_eq` says that it
  does.
* `nearestMultiple_dvd`, `nearestMultiple_near`: a multiple, at most half a unit away.
* `round_again`: a range that has been rounded stays.
* `rounding_exact`: all of this together.
-/

namespace SqlTemplate.Time

/-! ## Words -/

/-- A number that has to fit 64 bits with a sign. -/
def word? (n : Int) : Option Int :=
  if -9223372036854775808 ≤ n ∧ n ≤ 9223372036854775807 then some n else none

theorem word?_eq_some {n : Int} (h : -9223372036854775808 ≤ n ∧ n ≤ 9223372036854775807) : word? n = some n :=
  if_pos h

/-- The milliseconds of an instant, each step of the computation in a word. -/
def Instant.millisWord? (t : Instant) : Option Int := do
  let seconds ← word? t.seconds
  let whole ← word? (seconds * 1000)
  word? (whole + t.nanos / 1000000)

/-- The multiple of a unit that is nearest to the milliseconds of an instant, each step of the computation in a word:
what is left beyond the multiple below, that multiple, twice what is left and the multiple above. -/
def Range.nearestMultipleWord? (unit : Nat) (t : Instant) : Option Int := do
  let unit ← word? unit
  let count ← t.millisWord?
  let remainder ← word? (count % unit)
  let floor ← word? (count - remainder)
  let twice ← word? (remainder * 2)
  if twice ≥ unit then word? (floor + unit) else return floor

theorem Instant.millis_bounds (t : Instant) : -8334601228800000 ≤ t.millis ∧ t.millis ≤ 8210266876801000 := by
  have hge := t.seconds_ge
  have hle := t.seconds_le
  have hnanos := t.nanos_lt
  unfold millis minSeconds maxSeconds secondNanos at *
  omega

theorem Instant.millisWord?_eq (t : Instant) : t.millisWord? = some t.millis := by
  have hge := t.seconds_ge
  have hle := t.seconds_le
  have hnanos := t.nanos_lt
  unfold minSeconds maxSeconds secondNanos at *
  unfold millisWord?
  rw [word?_eq_some (by omega), Option.bind_eq_bind, Option.bind_some, word?_eq_some (by omega), Option.bind_some,
    word?_eq_some (by omega), millis]

theorem Duration.millis_le (unit : Duration) : unit.millis ≤ 9223372036854 := by
  have hle := unit.nanos_le
  unfold maxDurationNanos millis at *
  omega

namespace Range

open Instant

variable {unit : Nat} {count : Int} {t r : Instant}

/-- **No step of rounding an instant leaves a word**, and the last one gives the nearest multiple. -/
theorem nearestMultipleWord?_eq (unit : Duration) (hunit : 0 < unit.millis) (t : Instant) :
    nearestMultipleWord? unit.millis t = some (nearestMultiple unit.millis t.millis) := by
  have hle := unit.millis_le
  have hcount := t.millis_bounds
  have hrest := Int.emod_nonneg t.millis (show (unit.millis : Int) ≠ 0 by omega)
  have hlt := Int.emod_lt_of_pos t.millis (show (0 : Int) < unit.millis by omega)
  have hword : word? unit.millis = some (unit.millis : Int) := word?_eq_some (by omega)
  simp only [nearestMultipleWord?, nearestMultiple, hword, millisWord?_eq, Option.bind_eq_bind, Option.bind_some]
  generalize t.millis % (unit.millis : Int) = rest at *
  have hremainder : word? rest = some rest := word?_eq_some (by omega)
  have hfloor : word? (t.millis - rest) = some (t.millis - rest) := word?_eq_some (by omega)
  have htwice : word? (rest * 2) = some (rest * 2) := word?_eq_some (by omega)
  have hnext : word? (t.millis - rest + unit.millis) = some (t.millis - rest + unit.millis) := word?_eq_some (by omega)
  simp only [hremainder, hfloor, htwice, hnext, Option.bind_some]
  split <;> rfl

/-! ## Multiples -/

theorem nearestMultiple_dvd (unit : Nat) (count : Int) : (unit : Int) ∣ nearestMultiple unit count := by
  have hfloor : (unit : Int) ∣ count - count % unit := Int.dvd_self_sub_emod
  rw [nearestMultiple_eq]
  split
  · exact Int.dvd_add hfloor (Int.dvd_refl _)
  · simpa using hfloor

/-- The nearest multiple is at most half a unit away. -/
theorem nearestMultiple_near (hunit : 0 < unit) (count : Int) :
    2 * (nearestMultiple unit count - count).natAbs ≤ unit := by
  have hrest := Int.emod_nonneg count (show (unit : Int) ≠ 0 by omega)
  have hlt := Int.emod_lt_of_pos count (show (0 : Int) < unit by omega)
  rw [nearestMultiple_eq]
  generalize count % (unit : Int) = rest at *
  split <;> omega

/-- A multiple is the one nearest to itself. -/
theorem nearestMultiple_of_dvd (hunit : 0 < unit) (h : (unit : Int) ∣ count) : nearestMultiple unit count = count := by
  rw [nearestMultiple_eq, Int.emod_eq_zero_of_dvd h, if_neg (by omega)]
  omega

/-! ## Rounding again -/

/-- An instant that has been rounded stays. -/
theorem roundInstant_again (hunit : 0 < unit) (h : roundInstant unit t = .ok r) : roundInstant unit r = .ok r := by
  have hr := roundInstant_eq_ok.1 h
  rw [roundInstant_eq_ok, millis_ofMillis? hr, nearestMultiple_of_dvd hunit (nearestMultiple_dvd unit t.millis)]
  exact hr

/-- A range is rounded by rounding its bounds. -/
theorem round_of_bounds {r : Range} {start stop : Instant} {unit : Duration} (hunit : unit.millis ≠ 0)
    (hstart : roundInstant unit.millis r.start = .ok start) (hstop : roundInstant unit.millis r.stop = .ok stop)
    (hle : start ≤ stop) : r.round unit = .ok ⟨start, stop, hle⟩ := by
  rw [round, if_neg hunit]
  simp only [hstart, hstop, bind, Except.bind]
  rw [of, dif_pos hle]

/-- A range that has been rounded stays. -/
theorem round_again {r r' : Range} {unit : Duration} (h : r.round unit = .ok r') : r'.round unit = .ok r' := by
  rcases round_cases r unit with ⟨hzero, -⟩ | ⟨bound, -, -, hbound⟩ | ⟨hunit, start, stop, hstart, hstop, hof⟩
  · rw [round, if_pos hzero]
  · rw [hbound] at h
    cases h
  · obtain ⟨hle, rfl⟩ : ∃ hle : start ≤ stop, r' = ⟨start, stop, hle⟩ := by
      rw [hof, of] at h
      split at h
      next hle => exact ⟨hle, (Except.ok.inj h).symm⟩
      next => cases h
    have hagain := roundInstant_again hunit (roundInstant_eq_ok.2 hstart)
    have hagain' := roundInstant_again hunit (roundInstant_eq_ok.2 hstop)
    exact round_of_bounds (r := ⟨start, stop, hle⟩) (Nat.ne_of_gt hunit) hagain hagain' hle

/-- **Rounding is exact and done once.** For a unit of at least one millisecond no step of the computation leaves a
word. What it comes to is a multiple of the unit, at most half a unit away from the milliseconds of the instant, and in
the order of these. The instant is refused if and only if this multiple is no instant, and otherwise gives that instant.
A range that has been rounded by the unit is not changed by rounding it again. -/
theorem rounding_exact (unit : Duration) (hunit : 0 < unit.millis) :
    (∀ t, nearestMultipleWord? unit.millis t = some (nearestMultiple unit.millis t.millis)) ∧
    (∀ count, (unit.millis : Int) ∣ nearestMultiple unit.millis count ∧
      2 * (nearestMultiple unit.millis count - count).natAbs ≤ unit.millis) ∧
    (∀ count count', count ≤ count' → nearestMultiple unit.millis count ≤ nearestMultiple unit.millis count') ∧
    (∀ t, (roundInstant unit.millis t = .error (.outOfRange t) ↔
        ¬ Representable (nearestMultiple unit.millis t.millis)) ∧
      ∀ r, roundInstant unit.millis t = .ok r ↔ ofMillis? (nearestMultiple unit.millis t.millis) = some r) ∧
    ∀ r r' : Range, r.round unit = .ok r' → r'.round unit = .ok r' :=
  ⟨nearestMultipleWord?_eq unit hunit,
    fun count => ⟨nearestMultiple_dvd unit.millis count, nearestMultiple_near hunit count⟩,
    fun _ _ h => nearestMultiple_mono hunit h, fun _ => ⟨roundInstant_eq_error, fun _ => roundInstant_eq_ok⟩,
    fun _ _ h => round_again h⟩

/-- The longest unit there is, at the first instant of all: the nearest multiple lies before it and is no instant. A
leap second is rounded to the start of 1970, and stays there. -/
theorem longest_unit_exact :
    ∃ (unit : Duration) (first : Instant) (r r' : Range), 0 < unit.millis ∧
      nearestMultipleWord? unit.millis first = some (-8337928321316016) ∧
      roundInstant unit.millis first = .error (.outOfRange first) ∧
      r ≠ r' ∧ r.round unit = .ok r' ∧ r'.round unit = .ok r' := by
  let unit : Duration := ⟨maxDurationNanos, Nat.le_refl _⟩
  let first : Instant := ⟨minSeconds, 0, by decide, by decide, by decide, by decide⟩
  let leap : Instant := ⟨1483228799, 1500000000, by decide, by decide, by decide, by decide⟩
  let r : Range := ⟨leap, leap, Instant.le_refl leap⟩
  let r' : Range := ⟨epoch, epoch, Instant.le_refl epoch⟩
  have hexact := rounding_exact unit (by decide)
  have hleap : roundInstant unit.millis leap = .ok epoch := ((hexact.2.2.2.1 leap).2 epoch).2 (by decide)
  have hround : r.round unit = .ok r' := round_of_bounds (r := r) (by decide) hleap hleap (Instant.le_refl epoch)
  refine ⟨unit, first, r, r', by decide, (hexact.1 first).trans (by decide), (hexact.2.2.2.1 first).1.2 ?_, by decide,
    hround, hexact.2.2.2.2 r r' hround⟩
  exact fun h => absurd h.1 (by decide)

end Range

end SqlTemplate.Time
