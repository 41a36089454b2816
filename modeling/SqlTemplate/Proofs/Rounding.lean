import SqlTemplate.Time.Range

/-!
# Rounding ranges

A bound is rounded through its milliseconds: the digits below them are cut first, and of two multiples that are equally
near the later one is taken. Milliseconds follow the order of time except behind a leap second, whose milliseconds are
those of the second after it.

* `IsNearest`, `isNearest_iff`: the multiple of a unit that is nearest to a count, away from zero in the middle.
* `roundInstant_nearest_iff`: which instants are rounded to the multiple that is nearest to the instant itself.
* `round_inverted_iff`: which ranges cannot be rounded because their bounds would change places, and that this happens
  to no range that has been rounded.
-/

namespace SqlTemplate.Time

/-! ## Multiples -/

/-- The result is the multiple of a unit that is nearest to a count; of two that are equally near it is the one farther
from zero. -/
structure IsNearest (unit count result : Int) : Prop where
  multiple : unit ∣ result
  nearest : ∀ m, unit ∣ m → (result - count).natAbs ≤ (m - count).natAbs
  awayFromZero : ∀ m, unit ∣ m → (m - count).natAbs = (result - count).natAbs → m.natAbs ≤ result.natAbs

section

variable {unit count result m : Int}

/-- No multiple lies between a count rounded down and the next multiple. -/
theorem multiple_apart (count : Int) (hunit : 0 < unit) (hm : unit ∣ m) :
    m ≤ count - count % unit ∨ count - count % unit + unit ≤ m := by
  obtain ⟨k, rfl⟩ := hm
  have hfloor : count - count % unit = unit * (count / unit) := by
    have := Int.mul_ediv_add_emod count unit
    omega
  rw [hfloor]
  by_cases hk : k ≤ count / unit
  · exact .inl (Int.mul_le_mul_of_nonneg_left hk (Int.le_of_lt hunit))
  · have hnext := Int.mul_le_mul_of_nonneg_left (show count / unit + 1 ≤ k by omega) (Int.le_of_lt hunit)
    rw [Int.mul_add, Int.mul_one] at hnext
    exact .inr hnext

/-- The nearest multiple is the next one above the middle between two of them and, from zero on, in the middle. -/
theorem isNearest_iff (hunit : 0 < unit) :
    IsNearest unit count result ↔
      result = count - count % unit +
        if unit < 2 * (count % unit) ∨ 2 * (count % unit) = unit ∧ 0 ≤ count then unit else 0 := by
  have hrest := Int.emod_nonneg count (Int.ne_of_gt hunit)
  have hlt := Int.emod_lt_of_pos count hunit
  have hfloor : unit ∣ count - count % unit := Int.dvd_self_sub_emod
  have hnext : unit ∣ count - count % unit + unit := Int.dvd_add hfloor (Int.dvd_refl unit)
  have hzero := multiple_apart count hunit (Int.dvd_zero unit)
  constructor
  · intro h
    have hends : result = count - count % unit ∨ result = count - count % unit + unit := by
      have hapart := multiple_apart count hunit h.multiple
      have hdown := h.nearest _ hfloor
      have hup := h.nearest _ hnext
      omega
    obtain rfl | rfl := hends
    · have hup := h.nearest _ hnext
      have hup' := h.awayFromZero _ hnext
      generalize count % unit = rest at *
      split <;> omega
    · have hdown := h.nearest _ hfloor
      have hdown' := h.awayFromZero _ hfloor
      generalize count % unit = rest at *
      split <;> omega
  · rintro rfl
    refine ⟨?_, fun m hm => ?_, fun m hm => ?_⟩
    · split
      · exact hnext
      · simpa using hfloor
    all_goals
      have hapart := multiple_apart count hunit hm
      generalize count % unit = rest at *
      split <;> omega

end

/-! ## Instants -/

namespace Instant

variable {t a b : Instant} {ms ms' : Int}

/-- Nanoseconds from the start of 1970. -/
def nanoCount (t : Instant) : Int := t.seconds * 1000000000 + t.nanos

/-- There is an instant so many milliseconds from the start of 1970. -/
def Representable (ms : Int) : Prop := minSeconds ≤ ms / 1000 ∧ ms / 1000 ≤ maxSeconds

theorem millis_eq (t : Instant) : t.millis = t.nanoCount / 1000000 := by
  unfold millis nanoCount
  omega

theorem le_iff : a ≤ b ↔ a.seconds < b.seconds ∨ a.seconds = b.seconds ∧ a.nanos ≤ b.nanos := by
  show a.le b = true ↔ _
  simp [le]

theorem isLeap_iff : t.isLeap = true ↔ secondNanos ≤ t.nanos := decide_eq_true_iff

/-- Milliseconds follow the order of time, except from a leap second to the second after it. -/
theorem millis_le (h : a ≤ b) : a.millis ≤ b.millis ∨ a.isLeap = true ∧ b.seconds = a.seconds + 1 := by
  have hnanos := a.nanos_lt
  rw [le_iff] at h
  rw [isLeap_iff]
  unfold secondNanos millis at *
  omega

/-- What milliseconds have beyond a whole second is less than a second. -/
theorem millisNanos_lt (ms : Int) : (ms % 1000).toNat * 1000000 < secondNanos := by
  unfold secondNanos
  omega

/-- The instant of a count of milliseconds, where there is one: it lies in no leap second. -/
theorem ofMillis?_eq_some :
    ofMillis? ms = some t ↔ Representable ms ∧ t.seconds = ms / 1000 ∧ t.nanos = (ms % 1000).toNat * 1000000 := by
  have hlt := millisNanos_lt ms
  unfold ofMillis? of?
  split
  next h =>
    constructor
    · rintro ⟨⟩
      exact ⟨h.1, rfl, rfl⟩
    · rintro ⟨-, hseconds, hnanos⟩
      obtain ⟨seconds, nanos⟩ := t
      cases hseconds
      cases hnanos
      rfl
  next h => exact ⟨nofun, fun hms => absurd ⟨hms.1, by omega, fun hle => by omega⟩ h⟩

theorem exists_ofMillis? : (∃ t, ofMillis? ms = some t) ↔ Representable ms := by
  refine ⟨fun ⟨t, ht⟩ => (ofMillis?_eq_some.1 ht).1, fun hms => ?_⟩
  have hlt := millisNanos_lt ms
  exact ⟨_, dif_pos ⟨hms, by omega, fun hle => by omega⟩⟩

theorem millis_ofMillis? (h : ofMillis? ms = some t) : t.millis = ms := by
  obtain ⟨-, hseconds, hnanos⟩ := ofMillis?_eq_some.1 h
  rw [millis, hseconds, hnanos]
  omega

theorem nanoCount_ofMillis? (h : ofMillis? ms = some t) : t.nanoCount = ms * 1000000 := by
  obtain ⟨-, hseconds, hnanos⟩ := ofMillis?_eq_some.1 h
  rw [nanoCount, hseconds, hnanos]
  omega

theorem isLeap_ofMillis? (h : ofMillis? ms = some t) : t.isLeap = false := by
  obtain ⟨-, -, hnanos⟩ := ofMillis?_eq_some.1 h
  rw [isLeap, hnanos]
  exact decide_eq_false (Nat.not_le_of_lt (millisNanos_lt ms))

theorem ofMillis?_le_iff (ha : ofMillis? ms = some a) (hb : ofMillis? ms' = some b) : a ≤ b ↔ ms ≤ ms' := by
  obtain ⟨-, hseconds, hnanos⟩ := ofMillis?_eq_some.1 ha
  obtain ⟨-, hseconds', hnanos'⟩ := ofMillis?_eq_some.1 hb
  rw [le_iff, hseconds, hnanos, hseconds', hnanos']
  omega

end Instant

namespace Range

open Instant

variable {unit : Nat} {t r : Instant}

theorem roundInstant_eq_ok : roundInstant unit t = .ok r ↔ ofMillis? (nearestMultiple unit t.millis) = some r := by
  unfold roundInstant
  cases ofMillis? (nearestMultiple unit t.millis) <;> simp

/-- An instant is refused if and only if there is no instant for the multiple. -/
theorem roundInstant_eq_error : roundInstant unit t = .error (.outOfRange t) ↔
    ¬ Representable (nearestMultiple unit t.millis) := by
  rw [← exists_ofMillis?]
  unfold roundInstant
  cases ofMillis? (nearestMultiple unit t.millis) <;> simp

theorem nearestMultiple_eq (unit : Nat) (count : Int) :
    nearestMultiple unit count = count - count % unit + if unit ≤ 2 * (count % unit) then (unit : Int) else 0 := by
  simp only [nearestMultiple]
  split <;> split <;> omega

/-- Rounding keeps the order of counts. -/
theorem nearestMultiple_mono (hunit : 0 < unit) {count count' : Int} (h : count ≤ count') :
    nearestMultiple unit count ≤ nearestMultiple unit count' := by
  have hpos : (0 : Int) < unit := by omega
  have hfloor : (unit : Int) ∣ count - count % unit := Int.dvd_self_sub_emod
  have hapart := multiple_apart count' hpos hfloor
  have hapart' := multiple_apart count' hpos (Int.dvd_add hfloor (Int.dvd_refl _))
  have hrest := Int.emod_nonneg count (Int.ne_of_gt hpos)
  have hlt := Int.emod_lt_of_pos count' hpos
  rw [nearestMultiple_eq, nearestMultiple_eq]
  generalize count % (unit : Int) = rest at *
  generalize count' % (unit : Int) = rest' at *
  split <;> split <;> omega

/-! ## The nearest instant -/

/-- What an instant has beyond a multiple of a unit, by what its milliseconds have beyond it. -/
theorem nanoCount_emod (hunit : 0 < unit) (t : Instant) :
    t.nanoCount % (unit * 1000000) = t.millis % unit * 1000000 + t.nanoCount % 1000000 := by
  have hpos : (0 : Int) < unit := by omega
  have hrest := Int.emod_nonneg t.millis (Int.ne_of_gt hpos)
  have hlt := Int.emod_lt_of_pos t.millis hpos
  have hms := Int.mul_ediv_add_emod t.millis unit
  have hcount : t.nanoCount = t.millis % unit * 1000000 + t.nanoCount % 1000000 +
      unit * 1000000 * (t.millis / unit) := by
    rw [Int.mul_right_comm]
    rw [millis_eq] at *
    omega
  conv => lhs; rw [hcount, Int.add_mul_emod_self_left]
  exact Int.emod_eq_of_lt (by omega) (by omega)

/-- The instant lies in the middle of an even unit, before 1970; or at most half a millisecond behind the middle of an
odd unit, and in the middle itself not before 1970. -/
def Misrounded (unit : Nat) (t : Instant) : Prop :=
  let rest := t.nanoCount % (unit * 1000000)
  (unit % 2 = 0 ∧ 2 * rest = unit * 1000000 ∧ t.nanoCount < 0) ∨
    (unit % 2 = 1 ∧ unit * 1000000 ≤ 2 * rest ∧ 2 * rest < unit * 1000000 + 1000000 ∧
      ¬ (2 * rest = unit * 1000000 ∧ t.nanoCount < 0))

instance (unit : Nat) (t : Instant) : Decidable (Misrounded unit t) := inferInstanceAs (Decidable (_ ∨ _))

/-- An instant is rounded to the multiple that is nearest to its milliseconds. -/
theorem nanoCount_roundInstant (h : roundInstant unit t = .ok r) :
    r.nanoCount = nearestMultiple unit t.millis * 1000000 :=
  nanoCount_ofMillis? (roundInstant_eq_ok.1 h)

/-- **Rounding to the nearest multiple.** There is a result if and only if there is an instant for the multiple. The
result is a multiple of the unit and less than half a unit and half a millisecond away from the instant. It is the
multiple nearest to the instant, and of two the one farther from 1970, unless the instant is one of those that are
misrounded. -/
theorem roundInstant_nearest_iff (unit : Nat) (t : Instant) (hunit : 0 < unit) :
    ((∃ r, roundInstant unit t = .ok r) ↔ Representable (nearestMultiple unit t.millis)) ∧
    ∀ r, roundInstant unit t = .ok r →
      (unit * 1000000 : Int) ∣ r.nanoCount ∧
      2 * (r.nanoCount - t.nanoCount).natAbs < unit * 1000000 + 1000000 ∧
      (IsNearest (unit * 1000000) t.nanoCount r.nanoCount ↔ ¬ Misrounded unit t) := by
  refine ⟨by simp only [roundInstant_eq_ok, exists_ofMillis?], fun r hr => ?_⟩
  have hpos : (0 : Int) < unit * 1000000 := by omega
  have hrest := nanoCount_emod hunit t
  have hmod := Int.emod_nonneg t.millis (show (unit : Int) ≠ 0 by omega)
  have hlt := Int.emod_lt_of_pos t.millis (show (0 : Int) < unit by omega)
  have hms := millis_eq t
  have hcut := Int.mul_ediv_add_emod t.nanoCount 1000000
  have hfloor : (unit * 1000000 : Int) ∣ t.nanoCount - t.nanoCount % (unit * 1000000) := Int.dvd_self_sub_emod
  -- the decision compares the milliseconds beyond the multiple with half the unit
  have hcount : r.nanoCount = t.nanoCount - t.nanoCount % (unit * 1000000) +
      if unit ≤ 2 * (t.millis % unit) then (unit * 1000000 : Int) else 0 := by
    rw [nanoCount_roundInstant hr, nearestMultiple_eq]
    split <;> omega
  rw [isNearest_iff hpos, hcount]
  unfold Misrounded
  generalize t.nanoCount % (unit * 1000000 : Int) = rest at *
  generalize t.millis % (unit : Int) = restMillis at *
  refine ⟨?_, ?_, ?_⟩
  · split
    · exact Int.dvd_add hfloor (Int.dvd_refl _)
    · simpa using hfloor
  · split <;> omega
  · split <;> split <;> omega

/-- Nine tenths of a millisecond are rounded down to a multiple of one millisecond, and half a second before 1970 is
rounded up to a multiple of one second. -/
theorem microseconds_cut :
    ∃ t r t' r' : Instant, 0 < 1 ∧ roundInstant 1 t = .ok r ∧ ¬ IsNearest (1 * 1000000) t.nanoCount r.nanoCount ∧
      0 < 1000 ∧ roundInstant 1000 t' = .ok r' ∧ ¬ IsNearest (1000 * 1000000) t'.nanoCount r'.nanoCount := by
  let t : Instant := ⟨1672531200, 900000, by decide, by decide, by decide, by decide⟩
  let r : Instant := ⟨1672531200, 0, by decide, by decide, by decide, by decide⟩
  let t' : Instant := ⟨-1, 500000000, by decide, by decide, by decide, by decide⟩
  have hr : roundInstant 1 t = .ok r := roundInstant_eq_ok.2 (by decide)
  have hr' : roundInstant 1000 t' = .ok epoch := roundInstant_eq_ok.2 (by decide)
  refine ⟨t, r, t', epoch, by decide, hr, fun h => ?_, by decide, hr', fun h => ?_⟩
  · exact ((roundInstant_nearest_iff 1 t (by decide)).2 r hr).2.2.1 h (by decide)
  · exact ((roundInstant_nearest_iff 1000 t' (by decide)).2 epoch hr').2.2.1 h (by decide)

/-! ## The order of the bounds -/

/-- The bounds of the range change places when they are rounded: it starts in a leap second and stops in the second
after it, and the multiple for its start is the later one. -/
structure Inverts (r : Range) (unit : Nat) : Prop where
  leap : r.start.isLeap = true
  next : r.stop.seconds = r.start.seconds + 1
  start_representable : Representable (nearestMultiple unit r.start.millis)
  stop_representable : Representable (nearestMultiple unit r.stop.millis)
  stop_lt_start : nearestMultiple unit r.stop.millis < nearestMultiple unit r.start.millis

/-- The range behind a rounding; one that fails leaves it as it is. -/
def rounded (r : Range) (unit : Duration) : Range :=
  match r.round unit with
  | .ok r' => r'
  | .error _ => r

/-- The range behind roundings to some units, one after the other. -/
def roundedBy (r : Range) (units : List Duration) : Range := units.foldl rounded r

section

variable {r r' : Range} {unit : Duration}

/-- A range is left as it is, refused for a bound that cannot be rounded, or rounded at both bounds. -/
theorem round_cases (r : Range) (unit : Duration) :
    (unit.millis = 0 ∧ r.round unit = .ok r) ∨
    (∃ bound, (bound = r.start ∨ bound = r.stop) ∧ ¬ Representable (nearestMultiple unit.millis bound.millis) ∧
      r.round unit = .error (.outOfRange bound)) ∨
    (0 < unit.millis ∧ ∃ start stop, ofMillis? (nearestMultiple unit.millis r.start.millis) = some start ∧
      ofMillis? (nearestMultiple unit.millis r.stop.millis) = some stop ∧ r.round unit = of start stop) := by
  unfold round
  split
  next hzero => exact .inl ⟨hzero, rfl⟩
  next hpos =>
    refine .inr ?_
    cases hstart : ofMillis? (nearestMultiple unit.millis r.start.millis) with
    | none =>
      have hnone : ¬ Representable (nearestMultiple unit.millis r.start.millis) := by
        simp [← exists_ofMillis?, hstart]
      exact .inl ⟨r.start, .inl rfl, hnone, by rw [roundInstant_eq_error.2 hnone]; rfl⟩
    | some start =>
      rw [roundInstant_eq_ok.2 hstart]
      cases hstop : ofMillis? (nearestMultiple unit.millis r.stop.millis) with
      | none =>
        have hnone : ¬ Representable (nearestMultiple unit.millis r.stop.millis) := by
          simp [← exists_ofMillis?, hstop]
        exact .inl ⟨r.stop, .inr rfl, hnone, by rw [roundInstant_eq_error.2 hnone]; rfl⟩
      | some stop => exact .inr ⟨by omega, start, stop, rfl, rfl, by rw [roundInstant_eq_ok.2 hstop]; rfl⟩

/-- Rounded bounds change places if and only if the range is one of those that are inverted. -/
theorem inverts_iff (hunit : 0 < unit.millis) {start stop : Instant}
    (hstart : ofMillis? (nearestMultiple unit.millis r.start.millis) = some start)
    (hstop : ofMillis? (nearestMultiple unit.millis r.stop.millis) = some stop) :
    ¬ start ≤ stop ↔ Inverts r unit.millis := by
  rw [ofMillis?_le_iff hstart hstop, Int.not_le]
  refine ⟨fun hlt => ?_, fun h => h.stop_lt_start⟩
  rcases millis_le r.start_le_stop with hle | ⟨hleap, hnext⟩
  · have hmono := nearestMultiple_mono hunit hle
    omega
  · exact ⟨hleap, hnext, exists_ofMillis?.1 ⟨_, hstart⟩, exists_ofMillis?.1 ⟨_, hstop⟩, hlt⟩

/-- What comes of rounding a range. -/
theorem round_outcome (r : Range) (unit : Duration) :
    (∃ r', r.round unit = .ok r') ∨
    (∃ bound, (bound = r.start ∨ bound = r.stop) ∧ ¬ Representable (nearestMultiple unit.millis bound.millis) ∧
      r.round unit = .error (.outOfRange bound)) ∨
    Inverts r unit.millis ∧ ∃ start stop, r.round unit = .error (.inverted start stop) := by
  rcases round_cases r unit with ⟨-, h⟩ | h | ⟨hunit, start, stop, hstart, hstop, h⟩
  · exact .inl ⟨r, h⟩
  · exact .inr (.inl h)
  · by_cases hle : start ≤ stop
    · exact .inl ⟨⟨start, stop, hle⟩, by rw [h, of, dif_pos hle]⟩
    · exact .inr (.inr ⟨(inverts_iff hunit hstart hstop).1 hle, start, stop, by rw [h, of, dif_neg hle]⟩)

/-- A range is inverted if and only if its bounds change places. -/
theorem round_eq_inverted_iff :
    (∃ start stop, r.round unit = .error (.inverted start stop)) ↔ Inverts r unit.millis := by
  constructor
  · rintro ⟨a, b, hinverted⟩
    rcases round_outcome r unit with ⟨r', h⟩ | ⟨bound, -, -, h⟩ | ⟨hinverts, -⟩
    · simp [h] at hinverted
    · simp [h] at hinverted
    · exact hinverts
  · intro hinverts
    rcases round_cases r unit with ⟨hzero, -⟩ | ⟨bound, hbound, hnone, -⟩ | ⟨hunit, start, stop, hstart, hstop, h⟩
    · have hlt := hinverts.stop_lt_start
      rw [hzero] at hlt
      simp [nearestMultiple] at hlt
    · rcases hbound with rfl | rfl
      · exact absurd hinverts.start_representable hnone
      · exact absurd hinverts.stop_representable hnone
    · have hnot := (inverts_iff hunit hstart hstop).2 hinverts
      exact ⟨start, stop, by rw [h, of, dif_neg hnot]⟩

/-- A rounding leaves the range as it is, or gives one that starts in no leap second. -/
theorem rounded_cases (r : Range) (unit : Duration) : r.rounded unit = r ∨ (r.rounded unit).start.isLeap = false := by
  unfold rounded
  rcases round_cases r unit with ⟨-, h⟩ | ⟨bound, -, -, h⟩ | ⟨-, start, stop, hstart, -, h⟩
  · exact .inl (by rw [h])
  · exact .inl (by rw [h])
  · rw [h, of]
    split
    next r' hr' =>
      split at hr' <;> cases hr'
      exact .inr (isLeap_ofMillis? hstart)
    next => exact .inl rfl

/-- So do several of them. -/
theorem roundedBy_cases (r : Range) (units : List Duration) :
    r.roundedBy units = r ∨ (r.roundedBy units).start.isLeap = false := by
  induction units generalizing r with
  | nil => exact .inl rfl
  | cons unit units ih =>
    show (r.rounded unit).roundedBy units = r ∨ ((r.rounded unit).roundedBy units).start.isLeap = false
    rcases ih (r.rounded unit) with hsame | hleap
    · rw [hsame]
      exact rounded_cases r unit
    · exact .inr hleap

end

/-- **Rounding keeps a range in order, leap seconds apart.** A range is rounded, or refused for a bound whose multiple
is no instant, or its bounds change places. They do so if and only if the range starts in a leap second and stops in the
second after it, and the multiple for its start is the later one; and never behind a rounding that changed the range. -/
theorem round_inverted_iff (r : Range) (unit : Duration) :
    ((∃ r', r.round unit = .ok r') ∨
      (∃ bound, (bound = r.start ∨ bound = r.stop) ∧ ¬ Representable (nearestMultiple unit.millis bound.millis) ∧
        r.round unit = .error (.outOfRange bound)) ∨
      Inverts r unit.millis) ∧
    ((∃ start stop, r.round unit = .error (.inverted start stop)) ↔ Inverts r unit.millis) ∧
    ∀ units, r.roundedBy units ≠ r → ∀ start stop, (r.roundedBy units).round unit ≠ .error (.inverted start stop) := by
  refine ⟨?_, round_eq_inverted_iff, fun units hchanged start stop hinverted => ?_⟩
  · rcases round_outcome r unit with h | h | ⟨h, -⟩
    · exact .inl h
    · exact .inr (.inl h)
    · exact .inr (.inr h)
  · have hleap := (roundedBy_cases r units).resolve_left hchanged
    have hinverts := round_eq_inverted_iff.1 ⟨start, stop, hinverted⟩
    rw [hinverts.leap] at hleap
    cases hleap

/-- A range from the middle of a leap second to its end is not rounded to a millisecond, but to an hour, and then to a
millisecond too. -/
theorem leap_second_inverted :
    ∃ (r : Range) (unit hour : Duration), (∃ start stop, r.round unit = .error (.inverted start stop)) ∧
      r.roundedBy [hour] ≠ r ∧ ∀ start stop, (r.roundedBy [hour]).round unit ≠ .error (.inverted start stop) := by
  let leap : Instant := ⟨1483228799, 1500000000, by decide, by decide, by decide, by decide⟩
  let after : Instant := ⟨1483228800, 0, by decide, by decide, by decide, by decide⟩
  let r : Range := ⟨leap, after, by decide⟩
  let unit : Duration := ⟨1000000, by decide⟩
  let hour : Duration := ⟨3600000000000, by decide⟩
  have hchanged : r.roundedBy [hour] ≠ r := by decide
  refine ⟨r, unit, hour, ?_, hchanged, (round_inverted_iff r unit).2.2 [hour] hchanged⟩
  have hinverts : Inverts r unit.millis :=
    ⟨by decide, by decide, ⟨by decide, by decide⟩, ⟨by decide, by decide⟩, by decide⟩
  exact (round_inverted_iff r unit).2.1.2 hinverts

end Range

end SqlTemplate.Time
