import SqlTemplate.Proofs.Calendar
import SqlTemplate.Proofs.Durations
import SqlTemplate.Proofs.Rendering
import SqlTemplate.Proofs.Rounding
import SqlTemplate.Time.Timestamp

/-!
# What time literals denote

The literals of a time range are read back as civil time, and compared as texts.

* `IsField`: digits of fixed width, read back by `fixed` and sorted like their numbers.
* `Grain`: the precision of a literal, with its text and its rounding down.
* `Timestamp.IsCivil`: fields are those of an instant.
* `literals_denote_bounds`: literals denote the bounds, have one width, and stand in order.
-/

namespace SqlTemplate.Time

/-! ## Readers -/

section

variable {α β : Type} {x : Timestamp.Reader α} {f : α → Timestamp.Reader β} {a : α} {cs rest : List Char}

/-- What one reader leaves is given to the next one. -/
theorem Timestamp.bind_ok (h : x cs = .ok (a, rest)) : (x >>= f) cs = f a rest := by
  change Except.bind (x cs) _ = _
  rw [h]
  rfl

theorem Timestamp.get_bind (f : List Char → Timestamp.Reader β) (cs : List Char) : (get >>= f) cs = f cs cs := rfl

end

/-! ## Fields of digits -/

/-- Digits of a given number that spell a number. -/
structure IsField (width n : Nat) (ds : List Char) : Prop where
  digits : ∀ c ∈ ds, c.isDigit = true
  length : ds.length = width
  value : Duration.digitsValue ds = n

variable {w n m : Nat} {ds es rest rest' : List Char}

theorem digitsValue_eq_ofDigitChars (ds : List Char) : Duration.digitsValue ds = Nat.ofDigitChars 10 ds 0 := by
  rw [Nat.ofDigitChars_eq_foldl]
  rfl

theorem isField_padded (hw : 0 < w) (h : n < 10 ^ w) : IsField w n (padded w n).toList := by
  have hlength := (Nat.length_toDigits_le_iff (by decide) hw).2 h
  have hlist : (padded w n).toList =
      List.replicate (w - (Nat.toDigits 10 n).length) '0' ++ Nat.toDigits 10 n := String.toList_ofList
  rw [hlist]
  refine ⟨fun c hc => ?_, by simpa using Nat.sub_add_cancel hlength, ?_⟩
  · obtain hc | hc := List.mem_append.1 hc
    · rw [List.eq_of_mem_replicate hc]
      rfl
    · exact Nat.isDigit_of_mem_toDigits (by decide) (by decide) hc
  · rw [digitsValue_eq_ofDigitChars, Nat.ofDigitChars_append, Nat.ofDigitChars_replicate_zero, Nat.mul_zero,
      Nat.ofDigitChars_ten_toDigits]

theorem digitsValue_cons (d : Char) (ds : List Char) :
    Duration.digitsValue (d :: ds) = (d.toNat - 48) * 10 ^ ds.length + Duration.digitsValue ds := by
  have happend := Duration.digitsValue_append [d] ds
  simpa [Duration.digitsValue] using happend

theorem isDigit_bounds {c : Char} (h : c.isDigit = true) : 48 ≤ c.toNat ∧ c.toNat ≤ 57 := by
  simpa [Char.isDigit, Char.le_def, UInt32.le_iff_toNat_le] using h

namespace IsField

/-- A field is read as its number. -/
theorem fixed_append (h : IsField w n ds) (rest : List Char) : Timestamp.fixed w (ds ++ rest) = .ok (n, rest) := by
  have htake : ((ds ++ rest).take w).takeWhile Char.isDigit = ds := by
    rw [← h.length, List.take_left, List.takeWhile_eq_self_iff.2 h.digits]
  have hdrop : (ds ++ rest).drop w = rest := by rw [← h.length, List.drop_left]
  have hlength : ¬ (ds ++ rest).length < w := by
    rw [List.length_append, h.length]
    omega
  have hdigits : ¬ ds.length < w := by rw [h.length]; exact lt_irrefl w
  unfold Timestamp.fixed
  rw [Timestamp.get_bind, htake, if_neg hlength, if_neg hdigits]
  show Except.ok (Duration.digitsValue ds, (ds ++ rest).drop w) = .ok (n, rest)
  rw [h.value, hdrop]

/-- Fields of one width sort like their numbers, whatever stands behind them. -/
theorem append_lt (h : IsField w n ds) (h' : IsField w m es) (hlt : n < m) (rest rest' : List Char) :
    ds ++ rest < es ++ rest' := by
  induction ds generalizing w n m es with
  | nil =>
    obtain rfl := h.length
    obtain rfl := List.length_eq_zero_iff.1 h'.length
    have hvalue := h.value.symm.trans h'.value
    omega
  | cons d ds ih =>
    obtain ⟨e, es, rfl⟩ := List.exists_cons_of_length_pos (by rw [h'.length, ← h.length]; simp : 0 < es.length)
    obtain ⟨hdigit, hdigits⟩ := List.forall_mem_cons.1 h.digits
    obtain ⟨hdigit', hdigits'⟩ := List.forall_mem_cons.1 h'.digits
    have hlength : es.length = ds.length := by simpa using h'.length.trans h.length.symm
    have hbelow := Duration.digitsValue_lt hdigits
    have hbelow' := Duration.digitsValue_lt hdigits'
    have hvalue := h.value
    have hvalue' := h'.value
    rw [digitsValue_cons] at hvalue hvalue'
    rw [hlength] at hvalue' hbelow'
    rw [List.cons_append, List.cons_append, List.cons_lt_cons_iff]
    obtain ⟨hlow, hhigh⟩ := isDigit_bounds hdigit
    obtain ⟨hlow', hhigh'⟩ := isDigit_bounds hdigit'
    by_cases hfirst : d = e
    · subst hfirst
      exact .inr ⟨rfl, ih ⟨hdigits, rfl, rfl⟩ ⟨hdigits', hlength, rfl⟩ (by omega)⟩
    · -- The first digits differ, and a larger first digit outweighs all behind it.
      refine .inl ?_
      by_contra hnot
      have hge : e.toNat < d.toNat := by
        have hne : d.toNat ≠ e.toNat := fun h => hfirst (Char.toNat_inj.1 h)
        have hle : e.toNat ≤ d.toNat := Nat.not_lt.1 fun h => hnot h
        omega
      have houtweighs : (e.toNat - 48 + 1) * 10 ^ ds.length ≤ (d.toNat - 48) * 10 ^ ds.length :=
        Nat.mul_le_mul_right _ (by omega)
      rw [Nat.add_mul, Nat.one_mul] at houtweighs
      omega

end IsField

theorem append_le (lead : String) {behind behind' : String} (h : behind ≤ behind') :
    lead ++ behind ≤ lead ++ behind' := by
  rw [← not_lt, String.lt_iff_toList_lt] at h ⊢
  rw [String.toList_append, String.toList_append]
  exact List.append_left_le h

/-- Texts that begin with padded numbers are in the order of the numbers, and then of what stands behind. -/
theorem padded_append_le (hw : 0 < w) (hn : n < 10 ^ w) (hm : m < 10 ^ w) {behind behind' : String}
    (h : n < m ∨ n = m ∧ behind ≤ behind') : padded w n ++ behind ≤ padded w m ++ behind' := by
  obtain hlt | ⟨rfl, hle⟩ := h
  · refine le_of_lt ?_
    rw [String.lt_iff_toList_lt, String.toList_append, String.toList_append]
    exact (isField_padded hw hn).append_lt (isField_padded hw hm) hlt _ _
  · exact append_le _ hle

theorem length_padded (hw : 0 < w) (h : n < 10 ^ w) : (padded w n).length = w := by
  rw [← String.length_toList]
  exact (isField_padded hw h).length

/-! ## The precision of a literal -/

/-- The precision of a time literal. -/
inductive Grain where
  | day
  | second
  | milli
deriving DecidableEq, Repr

namespace Grain

/-- An instant to a precision, as a literal has it between its quotes. -/
def text : Grain → Instant → String
  | .day, t => t.date.display
  | .second, t => t.secondsText
  | .milli, t => t.millisText

/-- How many characters there are between the quotes. -/
def width : Grain → Nat
  | .day => 10
  | .second => 19
  | .milli => 23

/-- The text with what a timestamp has besides: a time of day, and the offset of UTC. -/
def timestamp (g : Grain) (t : Instant) : String :=
  match g with
  | .day => g.text t ++ "T00:00:00Z"
  | _ => g.text t ++ "Z"

theorem minSeconds_le_day (t : Instant) : minSeconds ≤ t.seconds - t.seconds % daySeconds := by
  have hge := t.seconds_ge
  simp only [minSeconds, daySeconds] at *
  omega

theorem day_le_maxSeconds (t : Instant) : t.seconds - t.seconds % daySeconds ≤ maxSeconds := by
  have hle := t.seconds_le
  simp only [daySeconds] at *
  omega

/-- An instant rounded down to its day, second or millisecond. A leap second is a second of its own. -/
def floor : Grain → Instant → Instant
  | .day, t =>
    ⟨t.seconds - t.seconds % daySeconds, 0, minSeconds_le_day t, day_le_maxSeconds t, Nat.zero_lt_succ _,
      fun h => absurd h (Nat.not_succ_le_zero _)⟩
  | .second, t =>
    ⟨t.seconds, t.nanos - t.nanos % secondNanos, t.seconds_ge, t.seconds_le,
      Nat.lt_of_le_of_lt (Nat.sub_le _ _) t.nanos_lt, fun h => t.leap (Nat.le_trans h (Nat.sub_le _ _))⟩
  | .milli, t =>
    ⟨t.seconds, t.nanos - t.nanos % 1000000, t.seconds_ge, t.seconds_le,
      Nat.lt_of_le_of_lt (Nat.sub_le _ _) t.nanos_lt, fun h => t.leap (Nat.le_trans h (Nat.sub_le _ _))⟩

end Grain

/-! ## Reading literals back -/

namespace Timestamp

/-- Fields are those of an instant of UTC: its day in the calendar, its time of day, and second 60 in a leap
second. -/
structure IsCivil (f : Fields) (t : Instant) : Prop where
  day : IsDay ⟨f.year, f.month, f.day⟩ (t.seconds / daySeconds)
  hour : f.hour < 24
  minute : f.minute < 60
  second : f.second ≤ 60
  leap : f.second = 60 ↔ t.isLeap = true
  clock : t.seconds % daySeconds = f.hour * 3600 + f.minute * 60 + min f.second 59
  nanos : f.nanos = t.subsecond
  offset : f.offset = 0

variable {year month day hour minute second nanos : Nat} {fraction : List Char}

/-- A timestamp of padded fields is read as its fields. -/
theorem strictFields_padded (hyear : year < 10000) (hmonth : 1 ≤ month ∧ month ≤ 12) (hday : 1 ≤ day ∧ day ≤ 31)
    (hhour : hour < 24) (hminute : minute < 60) (hsecond : second ≤ 60) {c : Char} (hc : c = 'T' ∨ c = ' ')
    (hfraction : Timestamp.fraction fraction = .ok (nanos, ['Z'])) :
    strictFields.run ((padded 4 year).toList ++ '-' :: ((padded 2 month).toList ++ '-' :: ((padded 2 day).toList ++
      c :: ((padded 2 hour).toList ++ ':' :: ((padded 2 minute).toList ++ ':' :: ((padded 2 second).toList ++
      fraction)))))) = .ok (⟨year, month, day, hour, minute, second, nanos, 0⟩, []) := by
  have hfixed (n : Nat) (h : n < 100) (rest : List Char) : fixed 2 ((padded 2 n).toList ++ rest) = .ok (n, rest) :=
    (isField_padded (by decide) h).fixed_append rest
  have hfixed4 (rest : List Char) : fixed 4 ((padded 4 year).toList ++ rest) = .ok (year, rest) :=
    (isField_padded (by decide) hyear).fixed_append rest
  have hchar (c : Char) (rest : List Char) : char c (c :: rest) = .ok ((), rest) := by
    unfold char
    rw [get_bind]
    change (if c = c then set rest else throw .invalid : Reader Unit) (c :: rest) = _
    rw [if_pos rfl]
    rfl
  have hwithin {lo hi n : Nat} (hn : n < 100) (h : lo ≤ n ∧ n ≤ hi) (rest : List Char) :
      (fixed 2 >>= within lo hi) ((padded 2 n).toList ++ rest) = .ok (n, rest) := by
    rw [bind_ok (hfixed n hn rest), within, if_pos h]
    rfl
  have hdivider (rest : List Char) : divider (c :: rest) = .ok ((), rest) := by
    obtain rfl | rfl := hc <;> rfl
  have hoffset : offset (char ':') ['Z'] = .ok (0, []) := rfl
  unfold strictFields
  change (_ >>= _ : Reader Fields) _ = _
  rw [bind_ok (hfixed4 _), bind_ok (hchar _ _), bind_ok (hwithin (by omega) hmonth _), bind_ok (hchar _ _),
    bind_ok (hwithin (by omega) hday _), bind_ok (hdivider _), bind_ok (hwithin (by omega) ⟨Nat.zero_le _, by omega⟩ _),
    bind_ok (hchar _ _), bind_ok (hwithin (by omega) ⟨Nat.zero_le _, by omega⟩ _), bind_ok (hchar _ _),
    bind_ok (hwithin (by omega) ⟨Nat.zero_le _, hsecond⟩ _), bind_ok hfraction, bind_ok hoffset]
  rfl

/-- Three digits of a fraction are milliseconds. -/
theorem fraction_millis {n : Nat} (h : n < 1000) :
    Timestamp.fraction ('.' :: ((padded 3 n).toList ++ ['Z'])) = .ok (n * 1000000, ['Z']) := by
  have hfield : IsField 3 n _ := isField_padded (by decide) h
  have hdigits : digits 9 ((padded 3 n).toList ++ ['Z']) = .ok ((padded 3 n).toList, ['Z']) := by
    have htake : (((padded 3 n).toList ++ ['Z']).take 9).takeWhile Char.isDigit = (padded 3 n).toList := by
      rw [List.take_of_length_le (by simp [hfield.length]), List.takeWhile_append_of_pos hfield.digits]
      simp
    have hne : (padded 3 n).toList ≠ [] := List.ne_nil_of_length_pos (by rw [hfield.length]; decide)
    unfold digits
    rw [get_bind, htake, if_neg (by simp), if_neg (by simpa using hne)]
    show Except.ok ((padded 3 n).toList, ((padded 3 n).toList ++ ['Z']).drop (padded 3 n).toList.length) = _
    rw [List.drop_left]
  have hset (cs rest : List Char) : (set rest : Reader Unit) cs = .ok ((), rest) := rfl
  have hdrop : (modify (·.dropWhile Char.isDigit) : Reader Unit) ['Z'] = .ok ((), ['Z']) := rfl
  have hpoint (cs : List Char) : fraction ('.' :: cs) =
      (set cs >>= fun _ => digits 9 >>= fun ds => modify (·.dropWhile Char.isDigit) >>= fun _ =>
        pure (Duration.digitsValue ds * Nat.pow 10 (9 - ds.length)) : Reader Nat) ('.' :: cs) := rfl
  rw [hpoint, bind_ok (hset _ _), bind_ok hdigits, bind_ok hdrop, hfield.value, hfield.length]
  rfl

end Timestamp

namespace Instant

variable (t : Instant)

/-- The fields of an instant. -/
def civil : Timestamp.Fields :=
  ⟨t.date.year, t.date.month, t.date.day, t.hour, t.minute, t.second, t.subsecond, 0⟩

theorem clock_bounds : t.hour < 24 ∧ t.minute < 60 ∧ t.second ≤ 60 ∧ t.subsecond < secondNanos := by
  simp only [hour, minute, second, subsecond, secondOfDay, daySeconds, secondNanos]
  refine ⟨by omega, by omega, ?_, by omega⟩
  split <;> omega

theorem second_eq_iff : t.second = 60 ↔ secondNanos ≤ t.nanos := by
  have hleap := t.leap
  simp only [second, isLeap, secondOfDay, daySeconds, decide_eq_true_eq]
  split <;> omega

/-- The time of day, where a leap second is in the second before it. -/
theorem clock_eq : t.seconds % daySeconds = t.hour * 3600 + t.minute * 60 + min t.second 59 := by
  have hleap := t.leap
  simp only [hour, minute, second, isLeap, secondOfDay, daySeconds, decide_eq_true_eq]
  split <;> omega

theorem isCivil_civil : Timestamp.IsCivil t.civil t where
  day := isDay_ofDays _
  hour := t.clock_bounds.1
  minute := t.clock_bounds.2.1
  second := t.clock_bounds.2.2.1
  leap := t.second_eq_iff.trans decide_eq_true_iff.symm
  clock := t.clock_eq
  nanos := rfl
  offset := rfl

/-- The fields of an instant name it. -/
theorem instant_civil (hyear : 0 ≤ t.date.year ∧ t.date.year ≤ 9999) : t.civil.instant = .ok t := by
  have hvalid : t.date.Valid := Date.ofDays_valid _
  have hbounds : ¬ (t.date.year < Timestamp.yearBounds.1 ∨ Timestamp.yearBounds.2 < t.date.year ∨ ¬ t.date.Valid) := by
    simp only [Timestamp.yearBounds, hvalid, not_true_eq_false, or_false]
    omega
  have hseconds : t.date.toDays * daySeconds +
      ((t.hour * 3600 + t.minute * 60 + if t.second = 60 then 59 else t.second : Nat) : Int) = t.seconds := by
    have hdays : t.date.toDays = t.seconds / daySeconds := Date.toDays_ofDays _
    have hclock := t.clock_eq
    have hsecond := t.clock_bounds.2.2.1
    rw [hdays]
    simp only [daySeconds] at *
    split <;> omega
  have hnanos : t.subsecond + (if t.second = 60 then secondNanos else 0) = t.nanos := by
    have hlt := t.nanos_lt
    have hleap := t.second_eq_iff
    simp only [subsecond, secondNanos] at *
    split <;> omega
  have hof : of? (t.date.toDays * daySeconds +
      ((t.hour * 3600 + t.minute * 60 + if t.second = 60 then 59 else t.second : Nat) : Int) - 0)
      (t.subsecond + if t.second = 60 then secondNanos else 0) = some t := by
    rw [hseconds, hnanos, Int.sub_zero]
    exact dif_pos ⟨⟨t.seconds_ge, t.seconds_le⟩, t.nanos_lt, t.leap⟩
  refine (if_neg hbounds).trans ((if_neg (by simp [civil])).trans ?_)
  dsimp only
  generalize hfound : of? _ _ = found
  obtain rfl : found = some t := hfound.symm.trans hof
  rfl

end Instant

namespace Grain

theorem floor_day_seconds (t : Instant) : (floor .day t).seconds = t.seconds - t.seconds % daySeconds := rfl

theorem floor_day_nanos (t : Instant) : (floor .day t).nanos = 0 := rfl

theorem floor_second_seconds (t : Instant) : (floor .second t).seconds = t.seconds := rfl

theorem floor_second_nanos (t : Instant) : (floor .second t).nanos = t.nanos - t.nanos % secondNanos := rfl

theorem floor_milli_seconds (t : Instant) : (floor .milli t).seconds = t.seconds := rfl

theorem floor_milli_nanos (t : Instant) : (floor .milli t).nanos = t.nanos - t.nanos % 1000000 := rfl

theorem date_floor (g : Grain) (t : Instant) : (g.floor t).date = t.date := by
  cases g with
  | day =>
    have hday : (t.seconds - t.seconds % daySeconds) / daySeconds = t.seconds / daySeconds := by
      simp only [daySeconds]
      omega
    rw [Instant.date, floor_day_seconds, hday, Instant.date]
  | second => rfl
  | milli => rfl

theorem civil_floor_day (t : Instant) :
    (floor .day t).civil = ⟨t.date.year, t.date.month, t.date.day, 0, 0, 0, 0, 0⟩ := by
  have hmidnight : (t.seconds - t.seconds % daySeconds) % daySeconds = 0 := by
    simp only [daySeconds]
    omega
  simp [Instant.civil, date_floor, Instant.hour, Instant.minute, Instant.second, Instant.secondOfDay,
    Instant.subsecond, Instant.isLeap, floor_day_seconds, floor_day_nanos, hmidnight, secondNanos]

theorem civil_floor_second (t : Instant) :
    (floor .second t).civil = ⟨t.date.year, t.date.month, t.date.day, t.hour, t.minute, t.second, 0, 0⟩ := by
  have hleap : (floor .second t).isLeap = t.isLeap := decide_eq_decide.2 (by
    simp only [floor_second_nanos, secondNanos]
    omega)
  have hwhole : (t.nanos - t.nanos % secondNanos) % secondNanos = 0 := by
    simp only [secondNanos]
    omega
  simp only [Instant.civil, date_floor, Instant.hour, Instant.minute, Instant.second, Instant.secondOfDay,
    Instant.subsecond, floor_second_seconds, floor_second_nanos, hleap, hwhole]

theorem civil_floor_milli (t : Instant) :
    (floor .milli t).civil = ⟨t.date.year, t.date.month, t.date.day, t.hour, t.minute, t.second,
      t.subsecond / 1000000 * 1000000, 0⟩ := by
  have hleap : (floor .milli t).isLeap = t.isLeap := decide_eq_decide.2 (by
    simp only [floor_milli_nanos, secondNanos]
    omega)
  have hwhole : (t.nanos - t.nanos % 1000000) % secondNanos = t.nanos % secondNanos / 1000000 * 1000000 := by
    simp only [secondNanos]
    omega
  simp only [Instant.civil, date_floor, Instant.hour, Instant.minute, Instant.second, Instant.secondOfDay,
    Instant.subsecond, floor_milli_seconds, floor_milli_nanos, hleap, hwhole]

variable {t : Instant}

/-- A literal with what a timestamp has besides is read as the fields of the instant rounded down. -/
theorem strictFields_timestamp (g : Grain) (hyear : 0 ≤ t.date.year ∧ t.date.year ≤ 9999) :
    Timestamp.strictFields.run (g.timestamp t).toList = .ok ((g.floor t).civil, []) := by
  have hvalid : t.date.Valid := Date.ofDays_valid _
  obtain ⟨hhour, hminute, hsecond, hsubsecond⟩ := t.clock_bounds
  have hday : t.date.day ≤ 31 := hvalid.2.2.2.trans (daysInMonth_le _ _)
  have hyearText : yearText t.date.year = padded 4 t.date.year.toNat := if_pos hyear
  have hyearNat : (t.date.year.toNat : Int) = t.date.year := by omega
  have hnone : Timestamp.fraction ['Z'] = .ok (0, ['Z']) := rfl
  have hread := @Timestamp.strictFields_padded t.date.year.toNat t.date.month t.date.day
  rw [hyearNat] at hread
  cases g with
  | day =>
    rw [civil_floor_day, ← hread (by omega) ⟨hvalid.1, hvalid.2.1⟩ ⟨hvalid.2.2.1, hday⟩ (by decide) (by decide)
      (by decide) (.inl rfl) hnone]
    have hzero : (padded 2 0).toList = ['0', '0'] := by decide
    simp [timestamp, text, Date.display, hyearText, hzero]
  | second =>
    rw [civil_floor_second, ← hread (by omega) ⟨hvalid.1, hvalid.2.1⟩ ⟨hvalid.2.2.1, hday⟩ hhour hminute hsecond
      (.inr rfl) hnone]
    simp [timestamp, text, Instant.secondsText, Instant.clockText, Date.display, hyearText]
  | milli =>
    rw [civil_floor_milli, ← hread (by omega) ⟨hvalid.1, hvalid.2.1⟩ ⟨hvalid.2.2.1, hday⟩ hhour hminute hsecond
      (.inr rfl) (Timestamp.fraction_millis (by simp only [secondNanos] at hsubsecond; omega))]
    simp [timestamp, text, Instant.millisText, Instant.secondsText, Instant.clockText, Date.display, hyearText]

end Grain

/-! ## The order of literals -/

/-- The texts of dates are in the order of the dates, and then of what stands behind. -/
theorem Date.display_append_le {d d' : Date} (hd : d.Valid) (hd' : d'.Valid) (hyear : 0 ≤ d.year ∧ d.year ≤ 9999)
    (hyear' : 0 ≤ d'.year ∧ d'.year ≤ 9999) {behind behind' : String} (h : d.Before d' ∨ d = d' ∧ behind ≤ behind') :
    d.display ++ behind ≤ d'.display ++ behind' := by
  have hmonths := hd.2.1
  have hmonths' := hd'.2.1
  have hdays := hd.2.2.2.trans (daysInMonth_le _ _)
  have hdays' := hd'.2.2.2.trans (daysInMonth_le _ _)
  obtain hbefore | ⟨rfl, hle⟩ := h
  · simp only [display, yearText, if_pos hyear, if_pos hyear', String.append_assoc]
    refine padded_append_le (by decide) (by omega) (by omega) ?_
    obtain hlt | ⟨hsame, hlater⟩ := hbefore
    · exact .inl (by omega)
    refine .inr ⟨by rw [hsame], append_le _ (padded_append_le (by decide) (by omega) (by omega) ?_)⟩
    obtain hlt | ⟨hsame, hlt⟩ := hlater
    · exact .inl hlt
    · exact .inr ⟨hsame, append_le _ (padded_append_le (by decide) (by omega) (by omega) (.inl hlt))⟩
  · exact append_le _ hle

namespace Instant

variable {t t' : Instant}

/-- Of two instants of a day the later one has the later time of day. -/
theorem clock_le (h : t ≤ t') (hday : t.seconds / daySeconds = t'.seconds / daySeconds) :
    t.hour < t'.hour ∨ t.hour = t'.hour ∧ (t.minute < t'.minute ∨ t.minute = t'.minute ∧
      (t.second < t'.second ∨ t.second = t'.second ∧ t.subsecond ≤ t'.subsecond)) := by
  have hle := le_iff.1 h
  have hclock := t.clock_eq
  have hclock' := t'.clock_eq
  obtain ⟨hhour, hminute, hsecond, -⟩ := t.clock_bounds
  obtain ⟨hhour', hminute', hsecond', -⟩ := t'.clock_bounds
  have hleap := t.second_eq_iff
  have hleap' := t'.second_eq_iff
  have hnanos := t.nanos_lt
  have hnanos' := t'.nanos_lt
  simp only [subsecond, daySeconds, secondNanos] at *
  generalize t.hour = a, t.minute = b, t.second = c, t'.hour = a', t'.minute = b', t'.second = c' at *
  have htime : a * 3600 + b * 60 + min c 59 < a' * 3600 + b' * 60 + min c' 59 ∨
      a * 3600 + b * 60 + min c 59 = a' * 3600 + b' * 60 + min c' 59 ∧ t.nanos ≤ t'.nanos := by omega
  omega

/-- The text of an earlier instant does not sort after that of a later one, whatever stands behind both. -/
theorem text_append_le (g : Grain) (rest : String) (hyear : 0 ≤ t.date.year ∧ t.date.year ≤ 9999)
    (hyear' : 0 ≤ t'.date.year ∧ t'.date.year ≤ 9999) (h : t ≤ t') :
    g.text t ++ rest ≤ g.text t' ++ rest := by
  have hvalid : t.date.Valid := Date.ofDays_valid _
  have hvalid' : t'.date.Valid := Date.ofDays_valid _
  obtain ⟨hhour, hminute, hsecond, hsubsecond⟩ := t.clock_bounds
  obtain ⟨hhour', hminute', hsecond', hsubsecond'⟩ := t'.clock_bounds
  have hdays : t.seconds / daySeconds ≤ t'.seconds / daySeconds := by
    have hle := le_iff.1 h
    simp only [daySeconds]
    omega
  -- The dates decide, unless they are the same.
  have hwhole {behind behind' : String}
      (hbehind : t.seconds / daySeconds = t'.seconds / daySeconds → behind ≤ behind') :
      t.date.display ++ behind ≤ t'.date.display ++ behind' := by
    refine Date.display_append_le hvalid hvalid' hyear hyear' ?_
    obtain hlt | heq := hdays.lt_or_eq
    · exact .inl (Date.ofDays_before hlt)
    · exact .inr ⟨by rw [date, heq, date], hbehind heq⟩
  have hclock {behind behind' : String} (hday : t.seconds / daySeconds = t'.seconds / daySeconds)
      (hbehind : t.subsecond ≤ t'.subsecond → behind ≤ behind') :
      t.clockText ++ behind ≤ t'.clockText ++ behind' := by
    simp only [clockText, String.append_assoc]
    refine padded_append_le (by decide) (by omega) (by omega) ((clock_le h hday).imp id (.imp id fun hlater => ?_))
    refine append_le _ (padded_append_le (by decide) (by omega) (by omega) (hlater.imp id (.imp id fun hlater => ?_)))
    refine append_le _ (padded_append_le (by decide) (by omega) (by omega) (hlater.imp id (.imp id hbehind)))
  cases g with
  | day => exact hwhole fun _ => le_rfl
  | second =>
    simp only [Grain.text, secondsText, String.append_assoc]
    exact hwhole fun hday => append_le _ (hclock hday fun _ => le_rfl)
  | milli =>
    simp only [Grain.text, millisText, secondsText, String.append_assoc]
    refine hwhole fun hday => append_le _ (hclock hday fun hsub => append_le _ ?_)
    have hmillis : t.subsecond / 1000000 < t'.subsecond / 1000000 ∨
        t.subsecond / 1000000 = t'.subsecond / 1000000 ∧ rest ≤ rest := by
      simp only [le_refl, and_true]
      omega
    simp only [secondNanos] at hsubsecond hsubsecond'
    exact padded_append_le (by decide) (by omega) (by omega) hmillis

end Instant

/-- The texts of a precision have one width. -/
theorem Grain.length_text (g : Grain) {t : Instant} (hyear : 0 ≤ t.date.year ∧ t.date.year ≤ 9999) :
    (g.text t).length = g.width := by
  have hvalid : t.date.Valid := Date.ofDays_valid _
  have hmonth := hvalid.2.1
  have hday := hvalid.2.2.2.trans (daysInMonth_le _ _)
  obtain ⟨hhour, hminute, hsecond, hsubsecond⟩ := t.clock_bounds
  simp only [secondNanos] at hsubsecond
  have hdate : t.date.display.length = 10 := by
    simp only [Date.display, yearText, if_pos hyear, String.length_append]
    rw [length_padded (by decide) (by omega), length_padded (by decide) (by omega), length_padded (by decide) (by omega)]
    rfl
  have hclock : t.clockText.length = 8 := by
    simp only [Instant.clockText, String.length_append]
    rw [length_padded (by decide) (by omega), length_padded (by decide) (by omega), length_padded (by decide) (by omega)]
    rfl
  have hmillis : (padded 3 (t.subsecond / 1000000)).length = 3 := length_padded (by decide) (by omega)
  cases g with
  | day => exact hdate
  | second =>
    simp only [text, Instant.secondsText, String.length_append, hdate, hclock]
    rfl
  | milli =>
    simp only [text, Instant.millisText, Instant.secondsText, String.length_append, hdate, hclock, hmillis]
    rfl

end SqlTemplate.Time

namespace SqlTemplate.Macro

open Time

variable {dialect : Dialect} {text : String}

/-! ## The literals of macros -/

/-- The precision of literals of seconds or milliseconds. -/
def Precision.grain : Precision → Grain
  | .seconds => .second
  | .millis => .milli

/-- The literal of an instant to a precision. -/
def literal (dialect : Dialect) (g : Grain) (t : Instant) : String :=
  match g with
  | .day => dateLiteral dialect t
  | .second => timestampLiteral dialect .seconds t
  | .milli => timestampLiteral dialect .millis t

/-- What stands in a literal before its quotes. -/
def literalLead (dialect : Dialect) (g : Grain) : String :=
  match dialect, g with
  | .clickHouse, _ => ""
  | .generic, .day => "DATE "
  | .generic, _ => "TIMESTAMP "

/-- How the bounds of a range stand in the text of a macro: compared with columns, or by themselves. -/
def boundTexts (dialect : Dialect) (r : Time.Range) : TimeFilter → List String
  | .range p => [" >= " ++ literal dialect p.grain r.start, " <= " ++ literal dialect p.grain r.stop]
  | .date => [" >= " ++ literal dialect .day r.start, " <= " ++ literal dialect .day r.stop]
  | .dateTime =>
    [" >= " ++ literal dialect .day r.start, " <= " ++ literal dialect .day r.stop,
      " >= " ++ literal dialect .second r.start, " <= " ++ literal dialect .second r.stop]
  | .start p => ["'" ++ p.grain.text r.start ++ "'"]
  | .stop p => ["'" ++ p.grain.text r.stop ++ "'"]

theorem literal_precision (dialect : Dialect) (p : Precision) (t : Instant) :
    timestampLiteral dialect p t = literal dialect p.grain t := by
  cases p <;> rfl

theorem literal_eq (dialect : Dialect) (g : Grain) (t : Instant) :
    literal dialect g t = literalLead dialect g ++ ("'" ++ g.text t ++ "'") := by
  cases dialect <;> cases g <;> simp [literal, literalLead, dateLiteral, timeText, Grain.text,
    ← String.append_assoc]

theorem StandIn.bounds (column lower upper : String) :
    StandIn [" >= " ++ lower, " <= " ++ upper] (betweenText column lower upper) := by
  have hstand : StandIn [" >= " ++ lower, " <= " ++ upper] _ := .cons column (.cons (" AND " ++ column) (.nil ""))
  simpa [betweenText, String.append_assoc] using hstand

theorem StandIn.timeValue (dialect : Dialect) (p : Precision) (t : Instant) :
    StandIn ["'" ++ p.grain.text t ++ "'"] (timeValue dialect p t) := by
  have hvalue : ∃ lead tail, Macro.timeValue dialect p t = lead ++ ("'" ++ p.grain.text t ++ "'") ++ tail := by
    cases dialect with
    | clickHouse =>
      cases p with
      | seconds => exact ⟨"toDateTime(", ")", String.toList_inj.1 (by simp [Precision.grain, Grain.text])⟩
      | millis =>
        exact ⟨"toDateTime64(", ", 3)", String.toList_inj.1 (by simp [Precision.grain, Grain.text])⟩
    | generic => exact ⟨literalLead .generic p.grain, "", by
        rw [String.append_empty, ← literal_eq, ← literal_precision, timeValue_generic]⟩
  obtain ⟨lead, tail, hvalue⟩ := hvalue
  rw [hvalue]
  exact .cons lead (.nil tail)

/-- The bounds stand in the text of a macro, the lower one before the upper one. -/
theorem boundTexts_standIn {i : Invocation} {r : Time.Range} {filter : TimeFilter}
    (h : timeFilterText dialect i r filter = .ok text) : StandIn (boundTexts dialect r filter) text := by
  cases filter with
  | range p =>
    cases hcolumn : i.arg 0 with
    | error e => simp [timeFilterText, hcolumn, bind, Except.bind] at h
    | ok column =>
      simp only [timeFilterText, hcolumn, bind, Except.bind, pure, Except.pure, Except.ok.injEq, literal_precision] at h
      exact h ▸ ((StandIn.bounds _ _ _).behind _).before _
  | date =>
    cases hcolumn : i.arg 0 with
    | error e => simp [timeFilterText, hcolumn, bind, Except.bind] at h
    | ok column =>
      simp only [timeFilterText, hcolumn, bind, Except.bind, pure, Except.pure, Except.ok.injEq] at h
      exact h ▸ ((StandIn.bounds _ _ _).behind _).before _
  | dateTime =>
    cases hdate : i.arg 0 with
    | error e => simp [timeFilterText, hdate, bind, Except.bind] at h
    | ok date =>
      cases htime : i.arg 1 with
      | error e => simp [timeFilterText, hdate, htime, bind, Except.bind] at h
      | ok time =>
        simp only [timeFilterText, hdate, htime, bind, Except.bind, pure, Except.pure, Except.ok.injEq] at h
        exact h ▸ ((((StandIn.bounds _ _ _).behind _).before _).append (StandIn.bounds _ _ _)).before _
  | start p => exact (Except.ok.inj h) ▸ StandIn.timeValue dialect p r.start
  | stop p => exact (Except.ok.inj h) ▸ StandIn.timeValue dialect p r.stop

/-- **Time literals denote the bounds.** For a range in the years 0 to 9999, the literals of its bounds are quoted
texts of one width for each precision. Such a text is read back as the civil time of the bound rounded down to the
precision, and a leap second as second 60. The literal of the start does not sort after that of the end, and so they
stand in every text of a macro. -/
theorem literals_denote_bounds (dialect : Dialect) (r : Time.Range)
    (hstart : 0 ≤ r.start.date.year ∧ r.start.date.year ≤ 9999)
    (hstop : 0 ≤ r.stop.date.year ∧ r.stop.date.year ≤ 9999) :
    (∀ g : Grain, ∀ t ∈ [r.start, r.stop],
      literal dialect g t = literalLead dialect g ++ ("'" ++ g.text t ++ "'") ∧ (g.text t).length = g.width ∧
      ∃ f, Timestamp.strictFields.run (g.timestamp t).toList = .ok (f, []) ∧
        Timestamp.IsCivil f (g.floor t) ∧ f.instant = .ok (g.floor t)) ∧
    (∀ g, literal dialect g r.start ≤ literal dialect g r.stop) ∧
    ∀ i filter text, timeFilterText dialect i r filter = .ok text → StandIn (boundTexts dialect r filter) text := by
  refine ⟨fun g t ht => ?_, fun g => ?_, fun i filter text h => boundTexts_standIn h⟩
  · have hyear : 0 ≤ t.date.year ∧ t.date.year ≤ 9999 := by
      obtain rfl | rfl : t = r.start ∨ t = r.stop := by simpa using ht
      · exact hstart
      · exact hstop
    have hfloor : 0 ≤ (g.floor t).date.year ∧ (g.floor t).date.year ≤ 9999 := by rwa [g.date_floor]
    exact ⟨literal_eq dialect g t, g.length_text hyear, _, g.strictFields_timestamp hyear,
      (g.floor t).isCivil_civil, (g.floor t).instant_civil hfloor⟩
  · rw [literal_eq, literal_eq, String.append_assoc, String.append_assoc]
    exact append_le _ (append_le _ (Instant.text_append_le g _ hstart hstop r.start_le_stop))

/-- From the middle of a leap second to the end of its year: the literals of the start are `2016-12-31`,
`2016-12-31 23:59:60` and `2016-12-31 23:59:60.500`. -/
theorem leap_second_literals :
    ∃ r : Time.Range, r.start.isLeap = true ∧
      [literal .clickHouse .day r.start, literal .generic .second r.start, literal .clickHouse .milli r.start] =
        ["'2016-12-31'", "TIMESTAMP '2016-12-31 23:59:60'", "'2016-12-31 23:59:60.500'"] ∧
      (0 ≤ r.start.date.year ∧ r.start.date.year ≤ 9999) ∧ (0 ≤ r.stop.date.year ∧ r.stop.date.year ≤ 9999) ∧
      (∀ g, literal .generic g r.start ≤ literal .generic g r.stop) ∧
      ∃ f, Timestamp.strictFields.run (Grain.timestamp .second r.start).toList = .ok (f, []) ∧ f.second = 60 := by
  let r : Time.Range := ⟨⟨1483228799, 1500000000, by decide, by decide, by decide, by decide⟩,
    ⟨1483228800, 0, by decide, by decide, by decide, by decide⟩, by decide⟩
  have hstart : 0 ≤ r.start.date.year ∧ r.start.date.year ≤ 9999 := by decide
  have hstop : 0 ≤ r.stop.date.year ∧ r.stop.date.year ≤ 9999 := by decide
  obtain ⟨hread, hle, -⟩ := literals_denote_bounds .generic r hstart hstop
  obtain ⟨-, -, f, hf, hcivil, -⟩ := hread .second r.start (by simp)
  have hsecond : f.second = 60 := hcivil.leap.2 (by decide)
  exact ⟨r, by decide, by decide, hstart, hstop, hle, f, hf, hsecond⟩

end SqlTemplate.Macro
