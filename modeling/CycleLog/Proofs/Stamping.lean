import CycleLog.Proofs.Calendar
import CycleLog.Clock.Stamp
import Mathlib.Data.Rat.Floor

/-!
# What a stamp says

A stamp is read back as a date and a time of day (`readStamp?`), and counted in minutes from the beginning
of 1970 by the calendar (`Moment.minutes`). For a local year of four digits this gives the local minute of
the instant. Digits of a fixed number are ordered as the numbers are (`fixedDigits_lt_iff`), so stamps are
ordered as the moments that they show (`Moment.minutes_lt_of_text_lt`).
-/

namespace CycleLog.Clock
set_option autoImplicit false

/-! ## Digits -/

/-- The last digits of a number, as many as asked for. -/
def fixedDigits : Nat → Nat → List Char
  | 0, _ => []
  | w + 1, n => fixedDigits w (n / 10) ++ [Nat.digitChar (n % 10)]

def digit? (c : Char) : Option Nat := if c.isDigit then some (c.toNat - '0'.toNat) else none

/-- The number that digits show. -/
def number? (cs : List Char) : Option Nat := cs.foldlM (fun n c => (digit? c).map (10 * n + ·)) 0

theorem length_fixedDigits (w n : Nat) : (fixedDigits w n).length = w := by
  induction w generalizing n with
  | zero => rfl
  | succ w ih => rw [fixedDigits, List.length_append, ih, List.length_singleton]

theorem fixedDigits_zero (w : Nat) : fixedDigits w 0 = List.replicate w '0' := by
  induction w with
  | zero => rfl
  | succ w ih =>
    rw [fixedDigits, Nat.zero_div, ih, List.replicate_succ']
    rfl

theorem digit?_digitChar {n : Nat} (h : n < 10) : digit? (Nat.digitChar n) = some n := by
  interval_cases n <;> rfl

theorem number?_fixedDigits {w n : Nat} (h : n < 10 ^ w) : number? (fixedDigits w n) = some n := by
  induction w generalizing n with
  | zero =>
    obtain rfl : n = 0 := by simpa using h
    rfl
  | succ w ih =>
    have hfront : number? (fixedDigits w (n / 10)) = some (n / 10) := ih (by omega)
    unfold number? at hfront ⊢
    rw [fixedDigits, List.foldlM_append, hfront]
    simp [digit?_digitChar (Nat.mod_lt n (by decide : 0 < 10)), Nat.div_add_mod]

/-- A number with zeros in front shows all its digits. -/
theorem toList_padded {w n : Nat} (h : n < 10 ^ (w + 1)) :
    (padded (w + 1) n).toList = fixedDigits (w + 1) n := by
  have htext (k : Nat) : (padded k n).toList =
      List.replicate (k - (Nat.toDigits 10 n).length) '0' ++ Nat.toDigits 10 n := by
    simp [padded, ← String.length_toList]
  rw [htext]
  clear htext
  induction w generalizing n with
  | zero =>
    have hn : n < 10 := by simpa using h
    rw [Nat.toDigits_of_lt_base hn, fixedDigits, Nat.mod_eq_of_lt hn]
    rfl
  | succ w ih =>
    rw [fixedDigits]
    by_cases hn : n < 10
    · rw [Nat.toDigits_of_lt_base hn, Nat.div_eq_of_lt hn, Nat.mod_eq_of_lt hn, fixedDigits_zero]
      rfl
    · rw [Nat.toDigits_of_base_le (by decide) (by omega), ← ih (by omega), List.length_append,
        List.length_singleton, Nat.add_sub_add_right, List.append_assoc]

/-! ## The order of digits -/

theorem append_lt_iff {a b u v : List Char} (h : a.length = b.length) :
    a ++ u < b ++ v ↔ a < b ∨ a = b ∧ u < v := by
  induction a generalizing b with
  | nil =>
    obtain rfl := List.length_eq_zero_iff.mp h.symm
    simp
  | cons c a ih =>
    cases b with
    | nil => cases h
    | cons d b =>
      rw [List.cons_append, List.cons_append, List.cons_lt_cons_iff, List.cons_lt_cons_iff,
        ih (Nat.succ.inj h), List.cons.injEq]
      tauto

theorem digitChar_lt_iff {m n : Nat} (hm : m < 10) (hn : n < 10) :
    Nat.digitChar m < Nat.digitChar n ↔ m < n := by
  interval_cases m <;> interval_cases n <;> decide

theorem fixedDigits_inj {w m n : Nat} (hm : m < 10 ^ w) (hn : n < 10 ^ w) :
    fixedDigits w m = fixedDigits w n ↔ m = n := by
  refine ⟨fun h => ?_, congrArg _⟩
  have hnumber := number?_fixedDigits hm
  rw [h, number?_fixedDigits hn] at hnumber
  exact (Option.some.inj hnumber).symm

/-- So many digits are ordered as the numbers that they show. -/
theorem fixedDigits_lt_iff {w m n : Nat} (hm : m < 10 ^ w) (hn : n < 10 ^ w) :
    fixedDigits w m < fixedDigits w n ↔ m < n := by
  induction w generalizing m n with
  | zero =>
    obtain rfl : m = 0 := by simpa using hm
    obtain rfl : n = 0 := by simpa using hn
    simp [fixedDigits]
  | succ w ih =>
    have hm' : m / 10 < 10 ^ w := by omega
    have hn' : n / 10 < 10 ^ w := by omega
    have hlast : [Nat.digitChar (m % 10)] < [Nat.digitChar (n % 10)] ↔ m % 10 < n % 10 := by
      rw [List.cons_lt_cons_iff, digitChar_lt_iff (Nat.mod_lt m (by decide)) (Nat.mod_lt n (by decide))]
      simp
    rw [fixedDigits, fixedDigits,
      append_lt_iff ((length_fixedDigits _ _).trans (length_fixedDigits _ _).symm), ih hm' hn',
      fixedDigits_inj hm' hn', hlast]
    omega

/-! ## Moments -/

/-- A date and a time of day. -/
structure Moment where
  date : Date
  hour : Nat
  minute : Nat

namespace Moment

/-- A moment of the calendar, in a year of at most four digits. -/
structure Proper (x : Moment) : Prop where
  date : x.date.Proper
  lastYear : x.date.year ≤ 9999
  lastHour : x.hour < 24
  lastMinute : x.minute < 60

/-- The minutes from the beginning of 1970, counted by the calendar. -/
def minutes (x : Moment) : Int :=
  ((x.date.dayNumber : Int) - daysBefore 1970) * 1440 + (x.hour * 60 + x.minute : Nat)

/-- How a moment is written. -/
def text (x : Moment) : List Char :=
  fixedDigits 4 x.date.year.toNat ++ '-' :: (fixedDigits 2 x.date.month ++ '-' ::
    (fixedDigits 2 x.date.day ++ ' ' :: (fixedDigits 2 x.hour ++ ':' :: fixedDigits 2 x.minute)))

instance (x : Moment) : Decidable x.Proper :=
  decidable_of_iff (x.date.Proper ∧ x.date.year ≤ 9999 ∧ x.hour < 24 ∧ x.minute < 60)
    ⟨fun ⟨h₁, h₂, h₃, h₄⟩ => ⟨h₁, h₂, h₃, h₄⟩, fun ⟨h₁, h₂, h₃, h₄⟩ => ⟨h₁, h₂, h₃, h₄⟩⟩

/-- Reads a moment that is written so, if the calendar has it. -/
def read? : List Char → Option Moment
  | [y₁, y₂, y₃, y₄, '-', m₁, m₂, '-', d₁, d₂, ' ', h₁, h₂, ':', n₁, n₂] => do
    let year ← number? [y₁, y₂, y₃, y₄]
    let month ← number? [m₁, m₂]
    let day ← number? [d₁, d₂]
    let hour ← number? [h₁, h₂]
    let minute ← number? [n₁, n₂]
    let x : Moment := ⟨⟨year, month, day⟩, hour, minute⟩
    if x.Proper then some x else none
  | _ => none

section Fields
variable {x : Moment}

theorem Proper.year_lt (h : x.Proper) : x.date.year.toNat < 10 ^ 4 := by
  have := h.lastYear
  omega

theorem Proper.month_lt (h : x.Proper) : x.date.month < 10 ^ 2 :=
  Nat.lt_of_le_of_lt h.date.lastMonth (by decide)

theorem Proper.day_lt (h : x.Proper) : x.date.day < 10 ^ 2 :=
  Nat.lt_of_le_of_lt (h.date.lastDay.trans (monthDays_le _ h.date.firstMonth h.date.lastMonth))
    (by decide)

theorem Proper.hour_lt (h : x.Proper) : x.hour < 10 ^ 2 := h.lastHour.trans (by decide)

theorem Proper.minute_lt (h : x.Proper) : x.minute < 10 ^ 2 := h.lastMinute.trans (by decide)

end Fields

/-- What is written is read back. -/
theorem read?_text {x : Moment} (h : x.Proper) : read? x.text = some x := by
  have hyear : ((x.date.year.toNat : Nat) : Int) = x.date.year := Int.toNat_of_nonneg h.date.year
  have hread : read? x.text = (do
      let year ← number? (fixedDigits 4 x.date.year.toNat)
      let month ← number? (fixedDigits 2 x.date.month)
      let day ← number? (fixedDigits 2 x.date.day)
      let hour ← number? (fixedDigits 2 x.hour)
      let minute ← number? (fixedDigits 2 x.minute)
      let x : Moment := ⟨⟨year, month, day⟩, hour, minute⟩
      if x.Proper then some x else none) := rfl
  rw [hread, number?_fixedDigits h.year_lt, number?_fixedDigits h.month_lt,
    number?_fixedDigits h.day_lt, number?_fixedDigits h.hour_lt, number?_fixedDigits h.minute_lt]
  simp only [Option.bind_eq_bind, Option.bind_some, hyear]
  exact if_pos h

/-- Moments are written in their order. -/
theorem minutes_lt_of_text_lt {x y : Moment} (hx : x.Proper) (hy : y.Proper) (h : x.text < y.text) :
    x.minutes < y.minutes := by
  have hsplit {w m n : Nat} (hm : m < 10 ^ w) (hn : n < 10 ^ w) {c : Char} {u v : List Char} :
      fixedDigits w m ++ c :: u < fixedDigits w n ++ c :: v ↔ m < n ∨ m = n ∧ u < v := by
    rw [append_lt_iff ((length_fixedDigits _ _).trans (length_fixedDigits _ _).symm),
      fixedDigits_lt_iff hm hn, fixedDigits_inj hm hn, List.cons_lt_cons_iff]
    simp
  unfold text at h
  rw [hsplit hx.year_lt hy.year_lt, hsplit hx.month_lt hy.month_lt, hsplit hx.day_lt hy.day_lt,
    hsplit hx.hour_lt hy.hour_lt, fixedDigits_lt_iff hx.minute_lt hy.minute_lt] at h
  have hxHour := hx.lastHour
  have hxMinute := hx.lastMinute
  have hyears := Int.toNat_of_nonneg hx.date.year
  have hyears' := Int.toNat_of_nonneg hy.date.year
  have hlater (hdate : x.date.Earlier y.date) : x.minutes < y.minutes := by
    have hless := hdate.dayNumber_lt hx.date
    unfold minutes
    omega
  rcases h with hyear | ⟨hyear, hmonth | ⟨hmonth, hday | ⟨hday, htime⟩⟩⟩
  · exact hlater (.inl (by omega))
  · exact hlater (.inr ⟨by omega, .inl hmonth⟩)
  · exact hlater (.inr ⟨by omega, .inr ⟨hmonth, hday⟩⟩)
  · have hdate : x.date.dayNumber = y.date.dayNumber := by
      rw [Date.dayNumber, Date.dayNumber, hyear, hmonth, hday]
    unfold minutes
    omega

/-- The moment of a minute counted from the beginning of 1970. -/
def ofMinutes (m : Int) : Moment :=
  ⟨Date.ofDays (m / 1440), (m % 1440).toNat / 60, (m % 1440).toNat % 60⟩

/-- The beginning of a year. -/
def newYear (y : Nat) : Moment := ⟨⟨y, 1, 1⟩, 0, 0⟩

theorem minutes_newYear (y : Nat) :
    (newYear y).minutes = ((daysBefore y : Int) - daysBefore 1970) * 1440 := by
  have hday : (newYear y).date.dayNumber = daysBefore y := rfl
  rw [minutes, hday]
  simp only [newYear]
  omega

theorem minutes_ofMinutes {m : Int} (h : (newYear 0).minutes ≤ m) :
    (ofMinutes m).date.Proper ∧ (ofMinutes m).minutes = m := by
  rw [minutes_newYear, daysBefore] at h
  have hdate : (ofMinutes m).date.Proper := proper_ofDays (by omega)
  have hcount : m / 1440 = ((ofMinutes m).date.dayNumber : Int) - daysBefore 1970 :=
    (toDays_ofDays (m / 1440)).symm.trans hdate.toDays_eq
  refine ⟨hdate, ?_⟩
  rw [minutes, ← hcount, ofMinutes]
  dsimp only
  omega

/-- The minutes from the year 0 up to the year 9999 are those of moments of the calendar. -/
theorem proper_ofMinutes {m : Int} (hfirst : (newYear 0).minutes ≤ m)
    (hlast : m < (newYear 10000).minutes) : (ofMinutes m).Proper := by
  obtain ⟨hdate, hminutes⟩ := minutes_ofMinutes hfirst
  refine ⟨hdate, ?_, ?_, ?_⟩
  · by_contra hyear
    have hdays : daysBefore 10000 ≤ daysBefore (ofMinutes m).date.year.toNat :=
      daysBefore_le (by omega)
    rw [minutes_newYear] at hlast
    rw [minutes, Date.dayNumber] at hminutes
    omega
  · rw [ofMinutes]
    dsimp only
    omega
  · exact Nat.mod_lt _ (by decide)

end Moment

theorem toList_minuteText {m : Int} (h : (Moment.ofMinutes m).Proper) :
    (minuteText m).toList = (Moment.ofMinutes m).text := by
  have hyear : (yearText (Moment.ofMinutes m).date.year).toList =
      fixedDigits 4 (Moment.ofMinutes m).date.year.toNat := by
    have hnonneg := h.date.year
    have habs : (Moment.ofMinutes m).date.year.natAbs = (Moment.ofMinutes m).date.year.toNat := by
      omega
    rw [yearText, if_neg (by omega), habs]
    exact toList_padded h.year_lt
  have htwo {n : Nat} (hn : n < 10 ^ 2) : (padded 2 n).toList = fixedDigits 2 n := toList_padded hn
  have hmonth := htwo h.month_lt
  have hday := htwo h.day_lt
  have hhour := htwo h.hour_lt
  have hminute := htwo h.minute_lt
  have htext : minuteText m = yearText (Moment.ofMinutes m).date.year ++ "-" ++
      padded 2 (Moment.ofMinutes m).date.month ++ "-" ++ padded 2 (Moment.ofMinutes m).date.day ++
      " " ++ padded 2 (Moment.ofMinutes m).hour ++ ":" ++ padded 2 (Moment.ofMinutes m).minute := rfl
  rw [htext, Moment.text]
  simp only [String.toList_append, hyear, hmonth, hday, hhour, hminute]
  simp

/-! ## Instants -/

namespace Instant

/-- The seconds since the beginning of 1970. -/
def seconds (t : Instant) : ℚ := t.nanos / second

def later (t : Instant) (s : Int) : Instant := ⟨t.nanos + s * second⟩

/-- What a clock shows that is ahead by some hours, in seconds since the beginning of 1970. -/
def localSeconds (t : Instant) (hours : Int) : ℚ := t.seconds + 3600 * hours

/-- The local year has at most four digits and no sign. -/
def InPlainYears (t : Instant) (hours : Int) : Prop :=
  60 * ((Moment.newYear 0).minutes : ℚ) ≤ t.localSeconds hours ∧
    t.localSeconds hours < 60 * ((Moment.newYear 10000).minutes : ℚ)

theorem localMinute_eq_floor (t : Instant) (hours : Int) :
    t.localMinute hours = ⌊t.localSeconds hours / 60⌋ := by
  have hquotient : t.localSeconds hours / 60 =
      ((t.nanos + hours * 3600 * second : Int) : ℚ) / ((60 * 1000000000 : Nat) : ℚ) := by
    unfold localSeconds seconds second
    push_cast
    ring
  rw [hquotient, Rat.floor_intCast_div_natCast]
  rfl

theorem localMinute_eq_add (t : Instant) (hours : Int) :
    t.localMinute hours = ⌊t.seconds / 60⌋ + 60 * hours := by
  have hquotient : t.localSeconds hours / 60 = t.seconds / 60 + ((60 * hours : Int) : ℚ) := by
    unfold localSeconds
    push_cast
    ring
  rw [localMinute_eq_floor, hquotient, Int.floor_add_intCast]

theorem localMinute_succ (t : Instant) (hours : Int) :
    t.localMinute (hours + 1) = (t.later 3600).localMinute hours := by
  unfold localMinute later
  congr 1
  ring

theorem localMinute_le {t u : Instant} (h : t.nanos ≤ u.nanos) (hours : Int) :
    t.localMinute hours ≤ u.localMinute hours :=
  Int.ediv_le_ediv (by decide) (Int.add_le_add_right h _)

theorem InPlainYears.proper {t : Instant} {hours : Int} (h : t.InPlainYears hours) :
    (Moment.ofMinutes (t.localMinute hours)).Proper := by
  obtain ⟨hfirst, hlast⟩ := h
  refine Moment.proper_ofMinutes ?_ ?_
  · rw [localMinute_eq_floor, Int.le_floor]
    linarith only [hfirst]
  · rw [localMinute_eq_floor, Int.floor_lt]
    linarith only [hlast]

end Instant

/-! ## Stamps -/

/-- Reads a stamp back, as the minutes since the beginning of 1970 of the date and time that it shows. -/
def readStamp? (s : String) : Option Int := (Moment.read? s.toList).map Moment.minutes

section Stamps
variable {t u : Instant} {hours : Int}

theorem minutes_of_inPlainYears (h : t.InPlainYears hours) :
    (Moment.ofMinutes (t.localMinute hours)).minutes = t.localMinute hours := by
  refine (Moment.minutes_ofMinutes ?_).2
  rw [Instant.localMinute_eq_floor, Int.le_floor]
  linarith only [h.1]

theorem readStamp?_stamp (h : t.InPlainYears hours) :
    readStamp? (stamp t hours) = some (t.localMinute hours) := by
  rw [readStamp?, stamp, toList_minuteText h.proper, Moment.read?_text h.proper, Option.map_some,
    minutes_of_inPlainYears h]

theorem stamp_eq_iff (ht : t.InPlainYears hours) (hu : u.InPlainYears hours) :
    stamp t hours = stamp u hours ↔ t.localMinute hours = u.localMinute hours := by
  refine ⟨fun h => ?_, congrArg minuteText⟩
  have hread := readStamp?_stamp ht
  rw [h, readStamp?_stamp hu] at hread
  exact (Option.some.inj hread).symm

theorem not_stamp_lt (ht : t.InPlainYears hours) (hu : u.InPlainYears hours) (h : t.nanos ≤ u.nanos) :
    ¬ stamp u hours < stamp t hours := by
  intro hless
  have htext : (Moment.ofMinutes (u.localMinute hours)).text <
      (Moment.ofMinutes (t.localMinute hours)).text := by
    rw [← toList_minuteText hu.proper, ← toList_minuteText ht.proper]
    exact hless
  have hminutes := Moment.minutes_lt_of_text_lt hu.proper ht.proper htext
  rw [minutes_of_inPlainYears hu, minutes_of_inPlainYears ht] at hminutes
  exact absurd (Instant.localMinute_le h hours) (Int.not_le.mpr hminutes)

end Stamps

/-- As long as the local year has four digits, a stamp is read back as the full minutes of the local time
since the beginning of 1970, by the calendar. So two instants have the same stamp just when they fall in
the same minute, and the stamp of a later one does not come first. An hour more on the clock is as an hour
later. -/
theorem stamp_shows_local_minute :
    (∀ (t : Instant) (hours : Int), t.InPlainYears hours →
      readStamp? (stamp t hours) = some ⌊(t.seconds + 3600 * hours) / 60⌋) ∧
    (∀ (t u : Instant) (hours : Int), t.InPlainYears hours → u.InPlainYears hours →
      (stamp t hours = stamp u hours ↔ ⌊t.seconds / 60⌋ = ⌊u.seconds / 60⌋)) ∧
    (∀ (t : Instant) (hours : Int), stamp t (hours + 1) = stamp (t.later 3600) hours) ∧
    ∀ (t u : Instant) (hours : Int), t.InPlainYears hours → u.InPlainYears hours →
      t.seconds ≤ u.seconds → ¬ stamp u hours < stamp t hours := by
  refine ⟨fun t hours h => ?_, fun t u hours ht hu => ?_, fun t hours => ?_, fun t u hours ht hu h => ?_⟩
  · rw [readStamp?_stamp h, t.localMinute_eq_floor]
    rfl
  · rw [stamp_eq_iff ht hu, t.localMinute_eq_add, u.localMinute_eq_add, Int.add_left_inj]
  · exact congrArg minuteText (t.localMinute_succ hours)
  · refine not_stamp_lt ht hu ?_
    unfold Instant.seconds at h
    have hscaled := (div_le_div_iff_of_pos_right (by norm_num [Instant.second])).mp h
    exact_mod_cast hscaled

/-- Half a second before 1900 by universal time, on a clock nine hours ahead. -/
theorem stamp_shows_local_minute_before1900 :
    let t := Instant.ofSeconds (-2208988800) (-500000000)
    t.InPlainYears 9 ∧ stamp t 9 = "1900-01-01 08:59" ∧
    readStamp? "1900-01-01 08:59" = some ⌊(t.seconds + 3600 * (9 : Int)) / 60⌋ := by
  intro t
  have hfirst : (Moment.newYear 0).minutes = -719528 * 1440 := by
    rw [Moment.minutes_newYear, daysBefore_epoch, daysBefore]
    rfl
  have hlast : (Moment.newYear 10000).minutes = (3652425 - 719528) * 1440 := by
    have hdays := daysBefore_eq 10000
    rw [Moment.minutes_newYear, daysBefore_epoch]
    omega
  have hplain : t.InPlainYears 9 := by
    rw [Instant.InPlainYears, hfirst, hlast]
    norm_num [t, Instant.localSeconds, Instant.seconds, Instant.ofSeconds, Instant.second]
  have hstamp : stamp t 9 = "1900-01-01 08:59" := by decide +kernel
  have hread := stamp_shows_local_minute.1 t 9 hplain
  rw [hstamp] at hread
  exact ⟨hplain, hstamp, hread⟩

end CycleLog.Clock
