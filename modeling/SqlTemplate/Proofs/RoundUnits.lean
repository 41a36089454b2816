import SqlTemplate.Proofs.Rendering
import SqlTemplate.Proofs.RoundingAgain

/-!
# Bucket widths

The time range is rounded by the milliseconds of a duration, and a value is put into buckets whose width is written as a
number of some unit. Both cut the same duration, so the width that is written is the one by which the range is rounded.

* `Range.roundTo`: rounding by a number of milliseconds; `round_eq_roundTo_iff` says that there is only one for a
  duration.
* `TimeUnit`: the units in which a width is written; `exists_largest_unit` finds the largest one that fits.
* `bucket_width_agrees`: the two widths are the same, and rounded ranges start and end where a bucket does.
-/

namespace SqlTemplate

open Time Sql Macro SqlTemplate.Sql.Parser

namespace Time.Range

open Instant

variable {width : Nat} {count ms : Int} {t : Instant} {unit : Duration}

/-! ## The width of a rounding -/

/-- Rounds both bounds to the nearest multiple of so many milliseconds. -/
def roundTo (width : Nat) (r : Range) : Except Error Range := do
  let start ← roundInstant width r.start
  let stop ← roundInstant width r.stop
  of start stop

theorem round_eq_roundTo (hunit : unit.millis ≠ 0) (r : Range) : r.round unit = r.roundTo unit.millis := if_neg hunit

/-- The range of one instant. -/
def point (t : Instant) : Range := ⟨t, t, Instant.le_refl t⟩

theorem roundTo_point (width : Nat) (t : Instant) : (point t).roundTo width = point <$> roundInstant width t := by
  unfold roundTo
  cases h : roundInstant width t with
  | error error => simp only [point, h]; rfl
  | ok r =>
    simp only [point, h]
    exact dif_pos (Instant.le_refl r)

/-- A count is rounded to itself if and only if it is a multiple. -/
theorem nearestMultiple_eq_self_iff : nearestMultiple width count = count ↔ (width : Int) ∣ count := by
  constructor
  · intro h
    rw [← h]
    exact nearestMultiple_dvd width count
  · intro h
    rcases Nat.eq_zero_or_pos width with rfl | hpos
    · obtain rfl : count = 0 := by simpa using h
      decide
    · exact nearestMultiple_of_dvd hpos h

/-- Whole milliseconds are left as they are if and only if they are a multiple. -/
theorem roundTo_point_eq_self_iff (ht : ofMillis? ms = some t) :
    (point t).roundTo width = .ok (point t) ↔ (width : Int) ∣ ms := by
  have hpoint : (point t).roundTo width = .ok (point t) ↔ roundInstant width t = .ok t := by
    rw [roundTo_point]
    cases roundInstant width t with
    | error error => simp [Functor.map, Except.map]
    | ok r =>
      simp only [Functor.map, Except.map, Except.ok.injEq]
      exact ⟨fun h => congrArg Range.start h, fun h => congrArg point h⟩
  rw [hpoint, roundInstant_eq_ok, millis_ofMillis? ht, ← nearestMultiple_eq_self_iff]
  refine ⟨fun h => ?_, fun h => by rw [h, ht]⟩
  rw [← millis_ofMillis? h, millis_ofMillis? ht]

/-- Every number of milliseconds that a duration can have is an instant. -/
theorem exists_ofMillis?_duration (unit : Duration) {n : Nat} (hn : n ≤ unit.millis) : ∃ t, ofMillis? n = some t := by
  have hle := unit.millis_le
  rw [exists_ofMillis?]
  unfold Representable minSeconds maxSeconds
  omega

/-- **A duration of at least a millisecond rounds by one number of milliseconds**, its own. -/
theorem round_eq_roundTo_iff (hunit : unit.millis ≠ 0) :
    (∀ r : Range, r.round unit = r.roundTo width) ↔ width = unit.millis := by
  refine ⟨fun h => ?_, fun h r => h ▸ round_eq_roundTo hunit r⟩
  -- each of two widths leaves its own multiples as they are, so each divides the other
  have hdvd : ∀ n ≤ unit.millis, (unit.millis : Int) ∣ n ↔ (width : Int) ∣ n := by
    intro n hn
    obtain ⟨t, ht⟩ := exists_ofMillis?_duration unit hn
    rw [← roundTo_point_eq_self_iff ht, ← roundTo_point_eq_self_iff ht, ← h, round_eq_roundTo hunit]
  have hwidth : width ∣ unit.millis := Int.natCast_dvd_natCast.1 ((hdvd _ (Nat.le_refl _)).1 (Int.dvd_refl _))
  have hle := Nat.le_of_dvd (Nat.pos_of_ne_zero hunit) hwidth
  have hmillis : unit.millis ∣ width := Int.natCast_dvd_natCast.1 ((hdvd _ hle).2 (Int.dvd_refl _))
  exact Nat.dvd_antisymm hwidth hmillis

/-- A duration leaves every range as it is if and only if it is shorter than a millisecond. -/
theorem round_eq_self_iff : (∀ r : Range, r.round unit = .ok r) ↔ unit.millis = 0 := by
  refine ⟨fun h => ?_, fun h r => if_pos h⟩
  by_contra hunit
  -- one nanosecond after the start of 1970 is no whole number of milliseconds
  let t : Instant := ⟨0, 1, by decide, by decide, by decide, by decide⟩
  have hround := h (point t)
  rw [round_eq_roundTo hunit, roundTo_point] at hround
  cases hr : roundInstant unit.millis t with
  | error error =>
    rw [hr] at hround
    cases hround
  | ok r =>
    rw [hr] at hround
    have hstart : r = t := congrArg Range.start (Except.ok.inj hround)
    have hcount := nanoCount_roundInstant hr
    rw [hstart] at hcount
    have hone : t.nanoCount = 1 := rfl
    omega

/-- The bounds of a rounded range are multiples of the width, counted in nanoseconds from the start of 1970. -/
theorem dvd_nanoCount_of_round {r r' : Range} (hunit : unit.millis ≠ 0) (h : r.round unit = .ok r') :
    (unit.millis * 1000000 : Int) ∣ r'.start.nanoCount ∧ (unit.millis * 1000000 : Int) ∣ r'.stop.nanoCount := by
  rcases round_cases r unit with ⟨hzero, -⟩ | ⟨bound, -, -, hbound⟩ | ⟨-, start, stop, hstart, hstop, hof⟩
  · exact absurd hzero hunit
  · rw [hbound] at h
    cases h
  · rw [hof, of] at h
    split at h <;> cases h
    rw [nanoCount_ofMillis? hstart, nanoCount_ofMillis? hstop]
    exact ⟨Int.mul_dvd_mul_right _ (nearestMultiple_dvd _ _), Int.mul_dvd_mul_right _ (nearestMultiple_dvd _ _)⟩

end Time.Range

/-! ## Units -/

/-- A unit of time in which the width of a bucket is written. -/
inductive TimeUnit where
  | hour
  | minute
  | second
  | millisecond
deriving DecidableEq

namespace TimeUnit

/-- The milliseconds of a unit. -/
def millis : TimeUnit → Nat
  | .hour => 60 * 60 * 1000
  | .minute => 60 * 1000
  | .second => 1000
  | .millisecond => 1

/-- A unit as a dialect writes it behind a number. -/
def word : Dialect → TimeUnit → String
  | .clickHouse, .hour => "HOUR"
  | .clickHouse, .minute => "MINUTE"
  | .clickHouse, .second => "SECOND"
  | .clickHouse, .millisecond => "MILLISECOND"
  | .generic, .hour => "hours"
  | .generic, .minute => "minutes"
  | .generic, .second => "seconds"
  | .generic, .millisecond => "milliseconds"

/-- A unit in the list of the units of rounding. -/
def listed (unit : TimeUnit) : RoundUnit := ⟨unit.millis, unit.word .clickHouse, unit.word .generic⟩

theorem roundUnits_eq : roundUnits = [hour, minute, second, millisecond].map listed := rfl

end TimeUnit

/-- The start of the bucket in which a value lies, its width being a number of units. -/
def bucketStart (dialect : Dialect) (value : String) (count : Nat) (unit : TimeUnit) : String :=
  match dialect with
  | .clickHouse =>
    "toStartOfInterval(" ++ value ++ ", INTERVAL " ++ toString count ++ " " ++ unit.word .clickHouse ++ ")"
  | .generic =>
    "date_bin(INTERVAL '" ++ toString count ++ " " ++ unit.word .generic ++ "', " ++ value ++
      ", TIMESTAMP '1970-01-01 00:00:00')"

/-- A duration of at least a millisecond is a number of some unit, the largest one that divides it. -/
theorem exists_largest_unit {d : Duration} (h : d.millis ≠ 0) :
    ∃ count, ∃ unit : TimeUnit, roundUnit? d = some (count, unit.listed) ∧ count * unit.millis = d.millis ∧
      ∀ larger : TimeUnit, unit.millis < larger.millis → ¬ larger.millis ∣ d.millis := by
  obtain ⟨unit, hfind, hdvd, hlarger⟩ : ∃ unit : TimeUnit,
      roundUnits.find? (fun unit => d.millis % unit.millis == 0) = some unit.listed ∧ unit.millis ∣ d.millis ∧
      ∀ larger : TimeUnit, unit.millis < larger.millis → ¬ larger.millis ∣ d.millis := by
    have hlist (unit : TimeUnit) : (d.millis % unit.listed.millis == 0) = decide (unit.millis ∣ d.millis) := by
      rw [Bool.eq_iff_iff, beq_iff_eq, decide_eq_true_iff, Nat.dvd_iff_mod_eq_zero]
      rfl
    rw [TimeUnit.roundUnits_eq]
    simp only [List.map_cons, List.map_nil, List.find?_cons, hlist]
    by_cases hhour : TimeUnit.hour.millis ∣ d.millis
    · exact ⟨.hour, by simp [hhour], hhour, fun larger hlt => by cases larger <;> exact absurd hlt (by decide)⟩
    by_cases hminute : TimeUnit.minute.millis ∣ d.millis
    · exact ⟨.minute, by simp [hhour, hminute], hminute, fun larger hlt => by
        cases larger <;> first | assumption | exact absurd hlt (by decide)⟩
    by_cases hsecond : TimeUnit.second.millis ∣ d.millis
    · exact ⟨.second, by simp [hhour, hminute, hsecond], hsecond, fun larger hlt => by
        cases larger <;> first | assumption | exact absurd hlt (by decide)⟩
    have hmillisecond : TimeUnit.millisecond.millis ∣ d.millis := Nat.one_dvd _
    exact ⟨.millisecond, by simp [hhour, hminute, hsecond, hmillisecond], hmillisecond, fun larger hlt => by
      cases larger <;> first | assumption | exact absurd hlt (by decide)⟩
  refine ⟨d.millis / unit.millis, unit, ?_, Nat.div_mul_cancel hdvd, hlarger⟩
  rw [roundUnit?, if_neg h, hfind]
  rfl

theorem roundText?_of_zero {d : Duration} (h : d.millis = 0) (dialect : Dialect) (value : String) :
    roundText? dialect d value = none := by
  rw [roundText?, roundUnit?, if_pos h]
  rfl

theorem roundText?_of_unit {d : Duration} {count : Nat} {unit : TimeUnit} (h : roundUnit? d = some (count, unit.listed))
    (dialect : Dialect) (value : String) : roundText? dialect d value = some (bucketStart dialect value count unit) := by
  rw [roundText?, h]
  cases dialect <;> rfl

/-! ## The two widths -/

/-- **The width that is written is the one by which the range is rounded.** Rounding a value keeps it as it is if and
only if the duration leaves every range as it is. Otherwise the value is put into buckets whose width is written as a
number of units: at least one, of the largest unit that divides the width. The milliseconds of that width are the ones
by which the duration rounds ranges, so that both bounds of a rounded range are whole multiples of it. -/
theorem bucket_width_agrees {e : Expr} {i : Invocation} (dialect : Dialect) (request : Request)
    (hcall : callOf e = some (.ok i)) (hkind : i.kind = .round) :
    ∃ value, i.args = [value] ∧
      (render dialect i request = .ok (.expr value) ↔ ∀ r : Time.Range, r.round request.round = .ok r) ∧
      ((∃ r : Time.Range, r.round request.round ≠ .ok r) → ∃ count, ∃ unit : TimeUnit,
        render dialect i request = .ok (.sql (bucketStart dialect value.toSql count unit)) ∧ 1 ≤ count ∧
        (∀ width, (∀ r : Time.Range, r.round request.round = r.roundTo width) ↔ width = count * unit.millis) ∧
        (∀ larger : TimeUnit, unit.millis < larger.millis → ¬ larger.millis ∣ count * unit.millis) ∧
        ∀ r r' : Time.Range, r.round request.round = .ok r' →
          ((count * unit.millis : Nat) * 1000000 : Int) ∣ r'.start.nanoCount ∧
          ((count * unit.millis : Nat) * 1000000 : Int) ∣ r'.stop.nanoCount) := by
  have hlength := (length_args_of_callOf hcall).1
  rw [hkind] at hlength
  obtain ⟨value, hargs⟩ := List.length_eq_one_iff.1 hlength
  refine ⟨value, hargs, ?_, ?_⟩
  · rw [render_round dialect request hkind hargs, Time.Range.round_eq_self_iff]
    by_cases hzero : request.round.millis = 0
    · simp [roundText?_of_zero hzero, hzero]
    · obtain ⟨count, unit, hunit, -⟩ := exists_largest_unit hzero
      simp [roundText?_of_unit hunit, hzero]
  · intro hchanged
    have hround : request.round.millis ≠ 0 := fun hzero => by
      obtain ⟨r, hr⟩ := hchanged
      exact hr (Time.Range.round_eq_self_iff.2 hzero r)
    obtain ⟨count, unit, hunit, hwidth, hlarger⟩ := exists_largest_unit hround
    refine ⟨count, unit, ?_, ?_, fun width => ?_, ?_, fun r r' hr => ?_⟩
    · rw [render_round dialect request hkind hargs, roundText?_of_unit hunit]
    · refine Nat.pos_of_ne_zero fun hcount => hround ?_
      rw [← hwidth, hcount, Nat.zero_mul]
    · rw [hwidth]
      exact Time.Range.round_eq_roundTo_iff hround
    · rwa [hwidth]
    · rw [hwidth]
      exact Time.Range.dvd_nanoCount_of_round hround hr

/-- A minute and a half is no whole number of minutes. -/
example : roundText? .clickHouse ⟨90000000000, by decide⟩ "ts" =
    some "toStartOfInterval(ts, INTERVAL 90 SECOND)" := by
  decide +kernel

/-- A column is put into buckets of a minute and a half where the range is rounded to a minute and a half. -/
theorem minute_and_half_bucket :
    ∃ (request : Request) (i : Invocation), request.round.millis = 90000 ∧
      callOf (functionExpr "$__round" [.ident ⟨"ts", none, none⟩]) = some (.ok i) ∧ i.kind = .round ∧
      (∃ r : Time.Range, r.round request.round ≠ .ok r) ∧
      ∃ count, ∃ unit : TimeUnit, render .generic i request = .ok (.sql (bucketStart .generic "ts" count unit)) ∧
        count * unit.millis = 90000 := by
  let request : Request := { instantRequest with round := ⟨90000000000, by decide⟩ }
  have hcall : callOf (functionExpr "$__round" [.ident ⟨"ts", none, none⟩]) =
      some (.ok ⟨"$__round", .round, [.ident ⟨"ts", none, none⟩], none⟩) := rfl
  have hchanged : ∃ r : Time.Range, r.round request.round ≠ .ok r := by
    by_contra hsame
    exact absurd (Time.Range.round_eq_self_iff.1 (by simpa using hsame)) (by decide)
  obtain ⟨value, hargs, -, hbucket⟩ := bucket_width_agrees .generic request hcall rfl
  obtain ⟨count, unit, hrender, -, hwidth, -⟩ := hbucket hchanged
  cases hargs
  have hmillis : request.round.millis = 90000 := by decide
  have hwritten := (hwidth _).1 (Time.Range.round_eq_roundTo (show request.round.millis ≠ 0 by decide))
  exact ⟨request, _, hmillis, hcall, rfl, hchanged, count, unit, hrender, hwritten.symm.trans hmillis⟩

end SqlTemplate
