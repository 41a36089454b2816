import Mathlib.Tactic.IntervalCases
import SqlTemplate.Time.Calendar

/-!
# The calendar day by day

The conversion between dates and days is compared with the calendar itself: one day follows another
by the lengths of the months, and 1970-01-01 is day 0.

* `IsDay`: the days of the calendar, counted one by one.
* `isDay_iff`: a date is a day of the calendar iff it is valid, and `toDays` is its number.
* `isDay_ofDays`: every number is that of the date `ofDays` finds.
* `ofDays_before`: later days are later dates.
-/

namespace SqlTemplate.Time

variable {y y' : Int} {m : Nat} {n n' : Int} {d d' : Date}

/-! ## Years and months -/

theorem daysInMonth_pos (y : Int) (m : Nat) : 0 < daysInMonth y m := by
  unfold daysInMonth
  split <;> [split; split] <;> decide

theorem daysInMonth_le (y : Int) (m : Nat) : daysInMonth y m ≤ 31 := by
  unfold daysInMonth
  split <;> [split; split] <;> decide

namespace Date

/-- The days of a year before a month of it. -/
def daysBefore (year : Int) : (month : Nat) → Nat
  | 0 => 0
  | 1 => 0
  | month + 2 => daysBefore year (month + 1) + daysInMonth year (month + 1)

/-- The number of the first day of a year. -/
def newYear (year : Int) : Int :=
  365 * (year - 1) + (year - 1) / 4 - (year - 1) / 100 + (year - 1) / 400 - 719162

theorem daysBefore_succ (y : Int) (hm : 1 ≤ m) : daysBefore y (m + 1) = daysBefore y m + daysInMonth y m := by
  obtain ⟨k, rfl⟩ : ∃ k, m = k + 1 := ⟨m - 1, by omega⟩
  rfl

/-- A month is over before a later one starts. -/
theorem daysBefore_of_lt (y : Int) {m m' : Nat} (hm : 1 ≤ m) (h : m < m') :
    daysBefore y m + daysInMonth y m ≤ daysBefore y m' := by
  induction m', h using Nat.le_induction with
  | base => exact (daysBefore_succ y hm).ge
  | succ k hk ih =>
    rw [daysBefore_succ y (by omega)]
    omega

/-- A leap year has 366 days. -/
theorem daysBefore_thirteen (y : Int) : daysBefore y 13 = if isLeapYear y then 366 else 365 := by
  cases hleap : isLeapYear y <;> simp [daysBefore, daysInMonth, hleap]

theorem isLeapYear_iff : isLeapYear y = true ↔ y % 4 = 0 ∧ (y % 100 ≠ 0 ∨ y % 400 = 0) := by
  simp [isLeapYear]

/-- A year lasts from its first day to the first day of the next one. -/
theorem newYear_succ (y : Int) : newYear (y + 1) = newYear y + daysBefore y 13 := by
  have hleap := isLeapYear_iff (y := y)
  rw [daysBefore_thirteen]
  unfold newYear
  split <;> rename_i hy <;> simp only [hy, true_iff, false_iff, Bool.false_eq_true] at hleap <;> omega

/-- A year is over before a later one starts. -/
theorem newYear_of_lt (h : y < y') : newYear y + daysBefore y 13 ≤ newYear y' := by
  induction y', h using Int.leInduction with
  | base => exact (newYear_succ y).ge
  | succ k hk ih =>
    rw [newYear_succ k]
    omega

/-- From March on, months are counted by their mean length. -/
theorem daysBefore_march (y : Int) (hm : 3 ≤ m) (hm' : m ≤ 12) :
    daysBefore y m = 31 + daysInMonth y 2 + (153 * (m - 3) + 2) / 5 := by
  induction m, hm using Nat.le_induction with
  | base => simp [daysBefore, daysInMonth]
  | succ k hk ih =>
    have hlt : k < 12 := by omega
    have hmonth : (153 * (k - 3) + 2) / 5 + daysInMonth y k = (153 * (k + 1 - 3) + 2) / 5 := by
      interval_cases k <;> rfl
    rw [daysBefore_succ y (by omega), ih (by omega), ← hmonth, Nat.add_assoc]

/-- The year that starts in March ends 306 days into the months of the next one. -/
theorem newYear_add_march (y : Int) : newYear y + (31 + daysInMonth y 2 : Nat) = newYear (y + 1) - 306 := by
  rw [newYear_succ, daysBefore_thirteen]
  cases hleap : isLeapYear y <;> simp [daysInMonth, hleap] <;> omega

/-- The days of a date are those before its year that starts in March, and those since. -/
theorem toDays_eq_march (d : Date) :
    d.toDays = newYear ((if d.month ≤ 2 then d.year - 1 else d.year) + 1) - 306 +
      ((153 * ((d.month + 9) % 12) + 2) / 5 + (d.day - 1) : Nat) := by
  have hera (y : Int) : y / 400 * 146097 + (y % 400 * 365 + y % 400 / 4 - y % 400 / 100) - 719162 =
      newYear (y + 1) := by
    unfold newYear
    omega
  rw [← hera]
  unfold toDays
  generalize (if d.month ≤ 2 then d.year - 1 else d.year) = year
  dsimp only
  omega

/-- The number of a day is that of the first day of its year, and the days since. -/
theorem toDays_eq (hm : 1 ≤ d.month) (hm' : d.month ≤ 12) (hd : 1 ≤ d.day) :
    d.toDays = newYear d.year + daysBefore d.year d.month + (d.day - 1) := by
  rw [toDays_eq_march]
  by_cases hjanuary : d.month ≤ 2
  · rw [if_pos hjanuary, Int.sub_add_cancel]
    obtain hmonth | hmonth : d.month = 1 ∨ d.month = 2 := by omega
    · rw [hmonth, show daysBefore d.year 1 = 0 from rfl]
      omega
    · rw [hmonth, show daysBefore d.year 2 = 31 from rfl]
      omega
  · have hmarch := newYear_add_march d.year
    rw [if_neg hjanuary, ← hmarch, daysBefore_march d.year (by omega) hm',
      (by omega : (d.month + 9) % 12 = d.month - 3)]
    omega

/-! ## The order of dates -/

/-- A date before another. -/
def Before (d d' : Date) : Prop :=
  d.year < d'.year ∨ d.year = d'.year ∧ (d.month < d'.month ∨ d.month = d'.month ∧ d.day < d'.day)

theorem before_or_before (h : d ≠ d') : d.Before d' ∨ d'.Before d := by
  obtain ⟨y, m, day⟩ := d
  obtain ⟨y', m', day'⟩ := d'
  simp only [Before, ne_eq, mk.injEq] at h ⊢
  omega

/-- A day is within its year. -/
theorem toDays_lt_newYear (hd : d.Valid) :
    newYear d.year + daysBefore d.year d.month ≤ d.toDays ∧
    d.toDays < newYear d.year + daysBefore d.year d.month + daysInMonth d.year d.month := by
  obtain ⟨hm, hm', hday, hday'⟩ := hd
  rw [toDays_eq hm hm' hday]
  omega

/-- An earlier date has the smaller number. -/
theorem toDays_lt_of_before (hd : d.Valid) (hd' : d'.Valid) (h : d.Before d') : d.toDays < d'.toDays := by
  have hwithin := toDays_lt_newYear hd
  have hwithin' := toDays_lt_newYear hd'
  obtain ⟨hm, hm', hday, -⟩ := hd
  obtain ⟨hm1, hm1', hday1, -⟩ := hd'
  obtain hyear | ⟨hyear, hmonth | ⟨hmonth, hlt⟩⟩ := h
  · have hend := daysBefore_of_lt d.year hm (by omega : d.month < 13)
    have hstart := newYear_of_lt hyear
    omega
  · have hend := daysBefore_of_lt d.year hm hmonth
    rw [← hyear] at hwithin'
    omega
  · rw [toDays_eq hm hm' hday, toDays_eq hm1 hm1' hday1, hyear, hmonth]
    omega

theorem toDays_injective (hd : d.Valid) (hd' : d'.Valid) (h : d.toDays = d'.toDays) : d = d' := by
  by_contra hne
  obtain hlt | hlt := before_or_before hne
  · exact absurd h (toDays_lt_of_before hd hd' hlt).ne
  · exact absurd h (toDays_lt_of_before hd' hd hlt).ne'

/-! ## The date of a day -/

/-- The days of an era of 400 years fall into centuries, spans of four years, and years. -/
theorem exists_years {doe : Nat} (h : doe < 146097) :
    ∃ c q k doy, doe = 36524 * c + 1461 * q + 365 * k + doy ∧ c < 4 ∧ q < 25 ∧ k < 4 ∧ doy < 366 ∧
      (doy = 365 → k = 3 ∧ (q < 24 ∨ c = 3)) := by
  -- The last day of an era and of four years belongs to the year before it, and is divided apart.
  by_cases hlast : doe = 146096
  · exact ⟨3, 24, 3, 365, by omega⟩
  by_cases hleap : doe % 36524 % 1461 = 1460
  · exact ⟨doe / 36524, doe % 36524 / 1461, 3, 365, by omega⟩
  · exact ⟨doe / 36524, doe % 36524 / 1461, doe % 36524 % 1461 / 365, doe % 36524 % 1461 % 365, by omega⟩

/-- The year of an era is found by leaving out the leap days before it. -/
theorem yearOfEra_eq {c q k doy doe : Nat} (hdoe : doe = 36524 * c + 1461 * q + 365 * k + doy) (hc : c < 4)
    (hq : q < 25) (hk : k < 4) (hdoy : doy < 366) (hleap : doy = 365 → k = 3 ∧ (q < 24 ∨ c = 3)) :
    (doe - doe / 1460 + doe / 36524 - doe / 146096) / 365 = 100 * c + 4 * q + k := by
  -- A span of 1460 days may already count the leap day at its end, which is then the year's last day.
  have hspans : doe / 1460 = 25 * c + q + (24 * c + q + 365 * k + doy) / 1460 := by omega
  have hextra : (24 * c + q + 365 * k + doy) / 1460 ≤ doy ∧
      doy - (24 * c + q + 365 * k + doy) / 1460 < 365 := by omega
  -- Only the last day of an era is counted into a century that has not begun.
  have hcenturies : doe / 36524 = c + doe / 146096 := by
    obtain hlast | hlast : c = 3 ∧ q = 24 ∧ k = 3 ∧ doy = 365 ∨ 1461 * q + 365 * k + doy < 36524 := by omega
    · obtain ⟨rfl, rfl, rfl, rfl⟩ := hlast
      subst hdoe
      rfl
    · rw [Nat.div_eq_of_lt (by omega : doe < 146096)]
      omega
  rw [hspans, hcenturies]
  generalize (24 * c + q + 365 * k + doy) / 1460 = extra at *
  generalize doe / 146096 = eras
  have hdays : doe - (25 * c + q + extra) + (c + eras) - eras = 365 * (100 * c + 4 * q + k) + (doy - extra) := by
    clear hspans hcenturies
    omega
  rw [hdays, Nat.mul_add_div (by decide), Nat.div_eq_of_lt hextra.2, Nat.add_zero]

/-- The date of a day of the year that starts in March. -/
def ofDayOfYear (year : Int) (dayOfYear : Nat) : Date :=
  let month := (5 * dayOfYear + 2) / 153
  let day := dayOfYear - (153 * month + 2) / 5 + 1
  if month < 10 then ⟨year, month + 3, day⟩ else ⟨year + 1, month - 9, day⟩

theorem ofDayOfYear_valid {doy : Nat} (h : doy < 366) (hleap : doy = 365 → isLeapYear (y + 1) = true) :
    (ofDayOfYear y doy).Valid := by
  unfold ofDayOfYear
  obtain ⟨m, hm⟩ : ∃ m, (5 * doy + 2) / 153 = m := ⟨_, rfl⟩
  have hlt : m < 12 := by omega
  rw [hm]
  cases hy : isLeapYear (y + 1)
  · have hne : doy ≠ 365 := fun h => by simp [hy] at hleap; exact hleap h
    interval_cases m <;> simp [Valid, daysInMonth, hy] <;> omega
  · interval_cases m <;> simp [Valid, daysInMonth, hy] <;> omega

theorem toDays_ofDayOfYear {doy year : Nat} (h : doy < 366) (hyear : year < 400) (era : Int) :
    (ofDayOfYear (era * 400 + year) doy).toDays =
      era * 146097 + (year * 365 + year / 4 - year / 100 + doy : Int) - 719468 := by
  unfold ofDayOfYear
  obtain ⟨m, hm⟩ : ∃ m, (5 * doy + 2) / 153 = m := ⟨_, rfl⟩
  have hlt : m < 12 := by omega
  have hstart : (153 * m + 2) / 5 ≤ doy := by omega
  have hera : (era * 400 + year) / 400 = era := by omega
  have hrest : (era * 400 + year) % 400 = year := by omega
  simp only [hm]
  split
  · have hmonth : (m + 3 + 9) % 12 = m := by omega
    simp only [toDays, hmonth, if_neg (by omega : ¬ m + 3 ≤ 2), Nat.add_sub_cancel, hera, hrest]
    omega
  · have hmonth : (m - 9 + 9) % 12 = m := by omega
    simp only [toDays, hmonth, if_pos (by omega : m - 9 ≤ 2), Nat.add_sub_cancel, Int.add_sub_cancel, hera, hrest]
    omega

/-- The date found for a number is a day of the calendar, and has that number. -/
theorem ofDays_spec (n : Int) : (ofDays n).Valid ∧ (ofDays n).toDays = n := by
  obtain ⟨doe, hdoe⟩ : ∃ doe : Nat, (n + 719468) % 146097 = doe := ⟨((n + 719468) % 146097).toNat, by omega⟩
  obtain ⟨c, q, k, doy, hsplit, hc, hq, hk, hdoy, hleap⟩ := exists_years (by omega : doe < 146097)
  obtain ⟨year, hyear⟩ : ∃ year, year = 100 * c + 4 * q + k := ⟨_, rfl⟩
  have hfour : year / 4 = 25 * c + q := by omega
  have hhundred : year / 100 = c := by omega
  have hlast : doy = 365 → isLeapYear ((n + 719468) / 146097 * 400 + year + 1) = true := fun h => by
    rw [isLeapYear_iff]
    omega
  have hdate : ofDays n = ofDayOfYear ((n + 719468) / 146097 * 400 + year) doy := by
    have hyearOfEra := yearOfEra_eq hsplit hc hq hk hdoy hleap
    have hdayOfYear : doe - (365 * year + year / 4 - year / 100) = doy := by omega
    simp only [ofDays, hdoe, Int.toNat_natCast, hyearOfEra, ← hyear, hdayOfYear, ofDayOfYear]
  rw [hdate, toDays_ofDayOfYear hdoy (by omega)]
  exact ⟨ofDayOfYear_valid hdoy hlast, by omega⟩

theorem ofDays_valid (n : Int) : (ofDays n).Valid := (ofDays_spec n).1

theorem toDays_ofDays (n : Int) : (ofDays n).toDays = n := (ofDays_spec n).2

/-- A day of the calendar is the date of its number. -/
theorem ofDays_toDays (h : d.Valid) : ofDays d.toDays = d :=
  toDays_injective (ofDays_valid _) h (toDays_ofDays _)

/-- Later days are later dates. -/
theorem ofDays_before (h : n < n') : (ofDays n).Before (ofDays n') := by
  have hne : ofDays n ≠ ofDays n' := fun heq => by
    have hdays := congrArg toDays heq
    rw [toDays_ofDays, toDays_ofDays] at hdays
    omega
  obtain hlt | hlt := before_or_before hne
  · exact hlt
  · have hdays := toDays_lt_of_before (ofDays_valid _) (ofDays_valid _) hlt
    rw [toDays_ofDays, toDays_ofDays] at hdays
    omega

/-! ## Day after day -/

/-- The day after a day, by the lengths of the months. -/
def next (d : Date) : Date :=
  if d.day < daysInMonth d.year d.month then ⟨d.year, d.month, d.day + 1⟩
  else if d.month < 12 then ⟨d.year, d.month + 1, 1⟩
  else ⟨d.year + 1, 1, 1⟩

theorem next_valid (h : d.Valid) : d.next.Valid := by
  obtain ⟨hm, hm', hday, hday'⟩ := h
  unfold next
  split
  · exact ⟨hm, hm', by simp, by assumption⟩
  · split
    · exact ⟨by simp, by assumption, le_rfl, daysInMonth_pos _ _⟩
    · exact ⟨le_rfl, by simp, le_rfl, daysInMonth_pos _ _⟩

theorem toDays_next (h : d.Valid) : d.next.toDays = d.toDays + 1 := by
  have hnext := next_valid h
  obtain ⟨hm, hm', hday, hday'⟩ := h
  rw [toDays_eq hm hm' hday, toDays_eq hnext.1 hnext.2.1 hnext.2.2.1]
  unfold next
  split
  · simp only
    omega
  · split
    · simp only [daysBefore_succ d.year hm]
      omega
    · have hmonth : d.month = 12 := by omega
      have hlast : daysBefore d.year 13 = daysBefore d.year 12 + daysInMonth d.year 12 := rfl
      have hfirst : daysBefore (d.year + 1) 1 = 0 := rfl
      simp only [newYear_succ, hlast, hfirst, hmonth] at *
      omega

end Date

/-- The days of the calendar, counted from 1970-01-01 onwards and back. -/
inductive IsDay : Date → Int → Prop
  | epoch : IsDay ⟨1970, 1, 1⟩ 0
  | next {d : Date} {n : Int} (h : IsDay d n) : IsDay d.next (n + 1)
  | previous {d : Date} {n : Int} (hd : d.Valid) (h : IsDay d.next (n + 1)) : IsDay d n

theorem IsDay.toDays_eq (h : IsDay d n) : d.Valid ∧ d.toDays = n := by
  induction h with
  | epoch => decide
  | next _ ih => exact ⟨Date.next_valid ih.1, by rw [Date.toDays_next ih.1, ih.2]⟩
  | previous hd _ ih =>
    refine ⟨hd, ?_⟩
    have hdays := Date.toDays_next hd
    omega

theorem Date.next_ofDays (n : Int) : (ofDays n).next = ofDays (n + 1) := by
  have hdays := toDays_next (ofDays_valid n)
  rw [toDays_ofDays] at hdays
  rw [← hdays, ofDays_toDays (next_valid (ofDays_valid n))]

/-- Every number is that of a day. -/
theorem isDay_ofDays (n : Int) : IsDay (Date.ofDays n) n := by
  induction n using Int.induction_on with
  | zero => exact .epoch
  | succ n ih => exact Date.next_ofDays n ▸ ih.next
  | pred n ih =>
    refine .previous (Date.ofDays_valid _) ?_
    rw [Date.next_ofDays, Int.sub_add_cancel]
    exact ih

/-- **The conversion follows the calendar.** A date is a day of the calendar if it is valid, and
`toDays` is its number. -/
theorem isDay_iff : IsDay d n ↔ d.Valid ∧ d.toDays = n := by
  refine ⟨IsDay.toDays_eq, fun ⟨hd, hn⟩ => ?_⟩
  rw [← Date.ofDays_toDays hd, hn]
  exact isDay_ofDays n

end SqlTemplate.Time
