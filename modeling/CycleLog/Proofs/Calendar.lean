import CycleLog.Clock.Date
import Mathlib.Tactic.IntervalCases
import Mathlib.Tactic.Linarith

/-!
# The Gregorian calendar

`IsLeap` and the lengths of the months say which dates there are and how many days lie before a date,
counted from the beginning of the year 0 (`dayNumber`). `Date.toDays` counts the same days
(`toDays_eq`), and `Date.ofDays` is the date of a count (`toDays_ofDays`, `proper_ofDays`). Both go by
years that begin in March and eras of four hundred years; a day of an era is taken apart into its
century, its four years, its year and its place in it (`EraDay`), which is where leap years are seen.
-/

namespace CycleLog.Clock
set_option autoImplicit false

/-! ## Years and months -/

/-- Every fourth year, but of the full centuries only every fourth. -/
def IsLeap (y : Nat) : Prop := y % 4 = 0 ∧ (y % 100 ≠ 0 ∨ y % 400 = 0)

instance (y : Nat) : Decidable (IsLeap y) := inferInstanceAs (Decidable (_ ∧ _))

def leapDay (y : Nat) : Nat := if IsLeap y then 1 else 0

def yearDays (y : Nat) : Nat := 365 + leapDay y

/-- The days from the beginning of the year 0 to the beginning of a year. -/
def daysBefore : Nat → Nat
  | 0 => 0
  | y + 1 => daysBefore y + yearDays y

def monthLengths (y : Nat) : List Nat :=
  [31, 28 + leapDay y, 31, 30, 31, 30, 31, 31, 30, 31, 30, 31]

def monthDays (y month : Nat) : Nat := (monthLengths y).getD (month - 1) 0

/-- The days of the months before, within the year. -/
def monthStart (y month : Nat) : Nat := ((monthLengths y).take (month - 1)).sum

theorem leapDay_le (y : Nat) : leapDay y ≤ 1 := by
  unfold leapDay
  split <;> omega

theorem leapDay_eq (y : Nat) :
    leapDay y + (y + 3) / 4 + (y + 100) / 100 + (y + 399) / 400 =
      (y + 4) / 4 + (y + 99) / 100 + (y + 400) / 400 := by
  unfold leapDay
  split
  · next h =>
    obtain ⟨hfour, hcentury⟩ := h
    omega
  · next h =>
    have hnot : y % 4 ≠ 0 ∨ y % 100 = 0 ∧ y % 400 ≠ 0 := by
      unfold IsLeap at h
      omega
    omega

theorem daysBefore_eq (y : Nat) :
    daysBefore y + (y + 99) / 100 = 365 * y + (y + 3) / 4 + (y + 399) / 400 := by
  induction y with
  | zero => rfl
  | succ y ih =>
    have hleap := leapDay_eq y
    calc daysBefore (y + 1) + (y + 100) / 100
        = daysBefore y + 365 + (leapDay y + (y + 100) / 100) := by
          rw [daysBefore, yearDays, ← Nat.add_assoc, ← Nat.add_assoc]
      _ = 365 * (y + 1) + (y + 4) / 4 + (y + 400) / 400 := by
          linarith only [ih, hleap]

theorem daysBefore_le {y z : Nat} (h : y ≤ z) : daysBefore y ≤ daysBefore z := by
  induction h with
  | refl => exact Nat.le_refl _
  | step _ ih => exact Nat.le_trans ih (Nat.le_add_right _ _)

theorem daysBefore_epoch : daysBefore 1970 = 719528 := by
  have h := daysBefore_eq 1970
  omega

namespace Date

/-- A date of the calendar, from the year 0 on. -/
structure Proper (x : Date) : Prop where
  year : 0 ≤ x.year
  firstMonth : 1 ≤ x.month
  lastMonth : x.month ≤ 12
  firstDay : 1 ≤ x.day
  lastDay : x.day ≤ monthDays x.year.toNat x.month

instance (x : Date) : Decidable x.Proper :=
  decidable_of_iff (0 ≤ x.year ∧ 1 ≤ x.month ∧ x.month ≤ 12 ∧ 1 ≤ x.day ∧
      x.day ≤ monthDays x.year.toNat x.month)
    ⟨fun ⟨h₁, h₂, h₃, h₄, h₅⟩ => ⟨h₁, h₂, h₃, h₄, h₅⟩, fun ⟨h₁, h₂, h₃, h₄, h₅⟩ => ⟨h₁, h₂, h₃, h₄, h₅⟩⟩

/-- The days from the beginning of the year 0 to a date. -/
def dayNumber (x : Date) : Nat :=
  daysBefore x.year.toNat + monthStart x.year.toNat x.month + (x.day - 1)

end Date

/-! ## Years that begin in March -/

/-- The days from the first of March of the year 0 to that of a year. -/
def marchDays (y : Int) : Int := 365 * y + y / 4 - y / 100 + y / 400

theorem marchDays_era (y : Int) :
    y / 400 * eraDays + (y % 400 * 365 + y % 400 / 4 - y % 400 / 100) = marchDays y := by
  have hfour : y / 4 = 100 * (y / 400) + y % 400 / 4 := by omega
  have hcentury : y / 100 = 4 * (y / 400) + y % 400 / 100 := by omega
  unfold marchDays eraDays
  omega

theorem marchDays_pred (y : Nat) : marchDays ((y : Int) - 1) = daysBefore y - 366 := by
  have hfour : ((y : Int) - 1) / 4 = ((y + 3) / 4 : Nat) - 1 := by omega
  have hcentury : ((y : Int) - 1) / 100 = ((y + 99) / 100 : Nat) - 1 := by omega
  have hera : ((y : Int) - 1) / 400 = ((y + 399) / 400 : Nat) - 1 := by omega
  have hdays : (daysBefore y : Int) + ((y + 99) / 100 : Nat) =
      365 * y + ((y + 3) / 4 : Nat) + ((y + 399) / 400 : Nat) := by
    exact_mod_cast daysBefore_eq y
  rw [marchDays, hfour, hcentury, hera]
  linarith only [hdays]

theorem marchDays_natCast (y : Nat) : marchDays y = daysBefore y + leapDay y - 1 := by
  have h := marchDays_pred (y + 1)
  rw [daysBefore, yearDays] at h
  push_cast at h
  rw [Int.add_sub_cancel] at h
  linarith only [h]

theorem marchDays_step (y : Int) :
    marchDays y + 365 ≤ marchDays (y + 1) ∧ marchDays (y + 1) ≤ marchDays y + 366 := by
  unfold marchDays
  omega

/-! ## The day of an era -/

/-- A day of an era by its century, the four years in it, the year of these and the day of that year. The
last year of four has one more day, but not the last of a century, unless it is the last of the era. -/
structure EraDay (c q s n : Int) : Prop where
  century : 0 ≤ c ∧ c ≤ 3
  fours : 0 ≤ q ∧ q ≤ 24
  year : 0 ≤ s ∧ s ≤ 3
  first : 0 ≤ n
  last : n ≤ 364 ∨ n = 365 ∧ s = 3 ∧ (q ≤ 23 ∨ c = 3)

theorem exists_eraDay {d : Int} (hfirst : 0 ≤ d) (hlast : d < eraDays) :
    ∃ c q s n, EraDay c q s n ∧ d = 36524 * c + 1461 * q + 365 * s + n := by
  unfold eraDays at hlast
  obtain ⟨c, e, hc0, hc3, rfl, he0, he⟩ : ∃ c e : Int, 0 ≤ c ∧ c ≤ 3 ∧ d = 36524 * c + e ∧ 0 ≤ e ∧
      (e < 36524 ∨ e = 36524 ∧ c = 3) :=
    ⟨min (d / 36524) 3, d - 36524 * min (d / 36524) 3, by omega, by omega, by omega, by omega, by omega⟩
  obtain ⟨s, n, hs0, hs3, hn0, heq, hn⟩ : ∃ s n : Int, 0 ≤ s ∧ s ≤ 3 ∧ 0 ≤ n ∧
      e % 1461 = 365 * s + n ∧ (n ≤ 364 ∨ n = 365 ∧ s = 3) :=
    ⟨min (e % 1461 / 365) 3, e % 1461 - 365 * min (e % 1461 / 365) 3, by omega, by omega, by omega,
      by omega, by omega⟩
  exact ⟨c, e / 1461, s, n, ⟨⟨hc0, hc3⟩, by omega, ⟨hs0, hs3⟩, hn0, by omega⟩, by omega⟩

theorem EraDay.year_eq {c q s n d : Int} (h : EraDay c q s n)
    (hd : d = 36524 * c + 1461 * q + 365 * s + n) :
    (d - d / 1460 + d / 36524 - d / 146096) / 365 = 100 * c + 4 * q + s := by
  obtain ⟨hc, hq, hs, hn0, hn⟩ := h
  have hfour : d / 1460 = 25 * c + q + (24 * c + q + 365 * s + n) / 1460 := by omega
  have hcentury : d / 36524 - d / 146096 = c := by
    have hwithin : 1461 * q + 365 * s + n ≤ 36523 ∨ 1461 * q + 365 * s + n = 36524 ∧ c = 3 := by
      omega
    rcases hwithin with h | h <;> omega
  -- what is taken off besides the full years stays below the days of the year
  have hrest : 0 ≤ n - (24 * c + q + 365 * s + n) / 1460 ∧
      n - (24 * c + q + 365 * s + n) / 1460 ≤ 364 := by omega
  omega

/-- Where the year of a day of an era begins. -/
theorem EraDay.marchDays_eq {c q s n : Int} (h : EraDay c q s n) (era : Int) :
    marchDays (100 * c + 4 * q + s + era * 400) = era * eraDays + 36524 * c + 1461 * q + 365 * s := by
  obtain ⟨hc, hq, hs, -, -⟩ := h
  have hfour : (100 * c + 4 * q + s + era * 400) / 4 = 100 * era + 25 * c + q := by omega
  have hcentury : (100 * c + 4 * q + s + era * 400) / 100 = 4 * era + c := by omega
  have hera : (100 * c + 4 * q + s + era * 400) / 400 = era := by omega
  rw [marchDays, hfour, hcentury, hera, eraDays]
  linarith only

/-- The next year begins behind the day. -/
theorem EraDay.lt_marchDays {c q s n : Int} (h : EraDay c q s n) (era : Int) :
    era * eraDays + 36524 * c + 1461 * q + 365 * s + n <
      marchDays (100 * c + 4 * q + s + era * 400 + 1) := by
  rcases h.last with hn | ⟨rfl, rfl, hq⟩
  · have hstart := h.marchDays_eq era
    have hstep := (marchDays_step (100 * c + 4 * q + s + era * 400)).1
    linarith only [hn, hstart, hstep]
  · -- a leap day: the next year is the first of four, and the first of a century only behind the era
    obtain ⟨hc, hfours, -, -, -⟩ := h
    rcases lt_or_eq_of_le hfours.2 with hless | rfl
    · have hnext : EraDay c (q + 1) 0 0 := ⟨hc, by omega, by decide, le_refl 0, .inl (by decide)⟩
      have hstart := hnext.marchDays_eq era
      rw [show 100 * c + 4 * q + 3 + era * 400 + 1 = 100 * c + 4 * (q + 1) + 0 + era * 400 by
        linarith only, hstart]
      linarith only
    · obtain rfl : c = 3 := by omega
      have hnext : EraDay 0 0 0 0 := ⟨by decide, by decide, by decide, le_refl 0, .inl (by decide)⟩
      have hstart := hnext.marchDays_eq (era + 1)
      rw [show 100 * 3 + 4 * 24 + 3 + era * 400 + 1 = 100 * 0 + 4 * 0 + 0 + (era + 1) * 400 by
        linarith only, hstart, eraDays]
      linarith only

/-- The date of a day of a year that begins in March. -/
def ofMarch (y n : Int) : Date :=
  let m := (5 * n + 2) / 153
  let month := if m < 10 then m + 3 else m - 9
  ⟨y + (if month ≤ 2 then 1 else 0), month.toNat, (n - (153 * m + 2) / 5 + 1).toNat⟩

theorem ofDays_eq_ofMarch {days d y : Int} (hd : (days + epochShift) % eraDays = d)
    (hy : (d - d / 1460 + d / 36524 - d / 146096) / 365 = y) :
    Date.ofDays days =
      ofMarch (y + (days + epochShift) / eraDays * 400) (d - (365 * y + y / 4 - y / 100)) := by
  subst hd hy
  rfl

/-- A day lies in one of the years that begin in March, and its date is a date of that year. -/
theorem exists_march (days : Int) : ∃ y, marchDays y ≤ days + epochShift ∧
    days + epochShift < marchDays (y + 1) ∧
    Date.ofDays days = ofMarch y (days + epochShift - marchDays y) := by
  have hera : (days + epochShift) / eraDays * eraDays + (days + epochShift) % eraDays =
      days + epochShift := Int.ediv_mul_add_emod _ _
  obtain ⟨c, q, s, n, hday, hsum⟩ := exists_eraDay (Int.emod_nonneg (days + epochShift) (by decide))
    (Int.emod_lt_of_pos (days + epochShift) (by decide))
  have hdate := ofDays_eq_ofMarch rfl (hday.year_eq hsum)
  generalize (days + epochShift) / eraDays = era at hera hdate
  have hstart := hday.marchDays_eq era
  have hnext := hday.lt_marchDays era
  have hn : days + epochShift - marchDays (100 * c + 4 * q + s + era * 400) = n := by
    linarith only [hera, hsum, hstart]
  have hdayOfYear : (days + epochShift) % eraDays - (365 * (100 * c + 4 * q + s) +
      (100 * c + 4 * q + s) / 4 - (100 * c + 4 * q + s) / 100) = n := by
    have hfour : (100 * c + 4 * q + s) / 4 = 25 * c + q := by have := hday.year; omega
    have hcentury : (100 * c + 4 * q + s) / 100 = c := by have := hday.year; have := hday.fours; omega
    rw [hsum, hfour, hcentury]
    linarith only
  refine ⟨100 * c + 4 * q + s + era * 400, by linarith only [hn, hday.first],
    by linarith only [hera, hsum, hnext], ?_⟩
  rw [hdate, hdayOfYear, hn]

/-! ## Dates -/

theorem Date.toDays_eq_march (x : Date) :
    x.toDays = marchDays (if x.month ≤ 2 then x.year - 1 else x.year) +
      ((153 * (if 2 < x.month then (x.month : Int) - 3 else x.month + 9) + 2) / 5 + x.day - 1) -
      epochShift := by
  rw [Date.toDays, ← marchDays_era]
  linarith only

/-- The months from March on begin where they should. -/
theorem month_spec {n : Int} (hn0 : 0 ≤ n) (hn : n ≤ 365) : 0 ≤ (5 * n + 2) / 153 ∧
    (5 * n + 2) / 153 ≤ 11 ∧ (153 * ((5 * n + 2) / 153) + 2) / 5 ≤ n ∧
    n < (153 * ((5 * n + 2) / 153 + 1) + 2) / 5 := by
  omega

theorem toDays_ofMarch (y : Int) {n : Int} (hn0 : 0 ≤ n) (hn : n ≤ 365) :
    (ofMarch y n).toDays = marchDays y + n - epochShift := by
  obtain ⟨hm0, hm11, hmn, hnm⟩ := month_spec hn0 hn
  rw [Date.toDays_eq_march, ofMarch]
  dsimp only
  generalize (5 * n + 2) / 153 = m at *
  have hday : ((n - (153 * m + 2) / 5 + 1).toNat : Int) = n - (153 * m + 2) / 5 + 1 := by omega
  rw [hday]
  by_cases hm : m < 10
  · have hmonth : ((m + 3).toNat : Int) = m + 3 := by omega
    rw [if_pos hm, if_neg (by omega : ¬ m + 3 ≤ 2), if_neg (by omega : ¬ (m + 3).toNat ≤ 2),
      if_pos (by omega : 2 < (m + 3).toNat), hmonth]
    rw [Int.add_sub_cancel, add_zero]
    linarith only
  · have hmonth : ((m - 9).toNat : Int) = m - 9 := by omega
    rw [if_neg hm, if_pos (by omega : m - 9 ≤ 2), if_pos (by omega : (m - 9).toNat ≤ 2),
      if_neg (by omega : ¬ 2 < (m - 9).toNat), hmonth, Int.add_sub_cancel, Int.sub_add_cancel]
    linarith only

/-- The date of a day is the date on which that day is counted. -/
theorem toDays_ofDays (days : Int) : (Date.ofDays days).toDays = days := by
  obtain ⟨y, hfirst, hlast, hdate⟩ := exists_march days
  have hstep := (marchDays_step y).2
  rw [hdate, toDays_ofMarch y (by linarith only [hfirst]) (by linarith only [hlast, hstep])]
  linarith only

/-- Where a month begins, by the months from March on. -/
theorem monthStart_eq (y : Nat) {month : Nat} (hfirst : 1 ≤ month) (hlast : month ≤ 12) :
    monthStart y month =
      if 2 < month then 59 + leapDay y + (153 * (month - 3) + 2) / 5 else 31 * (month - 1) := by
  obtain ⟨m, rfl⟩ := Nat.exists_eq_add_of_le' hfirst
  have hm : m < 12 := by omega
  interval_cases m <;> simp [monthStart, monthLengths] <;> omega

/-- The days to a date, counted by the calendar. -/
theorem Date.Proper.toDays_eq {x : Date} (h : x.Proper) :
    x.toDays = (x.dayNumber : Int) - daysBefore 1970 := by
  have hyear : ((x.year.toNat : Nat) : Int) = x.year := Int.toNat_of_nonneg h.year
  have hday : ((x.day - 1 : Nat) : Int) = x.day - 1 := Int.ofNat_sub h.firstDay
  rw [toDays_eq_march, dayNumber, monthStart_eq _ h.firstMonth h.lastMonth, daysBefore_epoch,
    epochShift]
  by_cases hmonth : 2 < x.month
  · have hstart := marchDays_natCast x.year.toNat
    rw [hyear] at hstart
    rw [if_pos hmonth, if_pos hmonth, if_neg (by omega : ¬ x.month ≤ 2), hstart]
    push_cast [hday, Int.ofNat_sub (by omega : 3 ≤ x.month)]
    linarith only
  · have hstart := marchDays_pred x.year.toNat
    rw [hyear] at hstart
    have hlength : (153 * ((x.month : Int) + 9) + 2) / 5 = 306 + 31 * ((x.month - 1 : Nat) : Int) := by
      have := h.firstMonth
      omega
    rw [if_neg hmonth, if_neg hmonth, if_pos (by omega : x.month ≤ 2), hstart, hlength]
    push_cast [hday]
    linarith only

theorem monthDays_march (y : Nat) {m : Nat} (hm : m < 10) :
    (monthDays y (m + 3) : Int) = (153 * ((m : Int) + 1) + 2) / 5 - (153 * (m : Int) + 2) / 5 := by
  interval_cases m <;> rfl

theorem neg_one_le_of_march {y z : Int} (hz : -60 ≤ z) (h : z < marchDays (y + 1)) : -1 ≤ y := by
  unfold marchDays at h
  omega

/-- From the year 0 on, the date of a day is a date of the calendar. -/
theorem proper_ofDays {days : Int} (h : -(daysBefore 1970 : Int) ≤ days) :
    (Date.ofDays days).Proper := by
  obtain ⟨y, hfirst, hlast, hdate⟩ := exists_march days
  have hz : -60 ≤ days + epochShift := by
    rw [daysBefore_epoch] at h
    unfold epochShift
    omega
  have hy := neg_one_le_of_march hz hlast
  have hstep := (marchDays_step y).2
  rw [hdate]
  generalize hn : days + epochShift - marchDays y = n
  have hn0 : 0 ≤ n := by linarith only [hn, hfirst]
  have hnlast : n < marchDays (y + 1) - marchDays y := by linarith only [hn, hlast]
  obtain ⟨hm0, hm11, hmn, hnm⟩ := month_spec hn0 (by linarith only [hnlast, hstep])
  unfold ofMarch
  dsimp only
  generalize (5 * n + 2) / 153 = m at *
  obtain ⟨m, rfl⟩ := Int.eq_ofNat_of_zero_le hm0
  by_cases hm : m < 10
  · -- from March on
    have hy0 : 0 ≤ y := by
      by_contra hneg
      obtain rfl : y = -1 := by omega
      have hstart : marchDays (-1) = -366 := by decide
      omega
    have hmonth : ((m : Int) + 3).toNat = m + 3 := by omega
    rw [if_pos (by omega : (m : Int) < 10), if_neg (by omega : ¬ (m : Int) + 3 ≤ 2), hmonth, add_zero]
    constructor <;> dsimp only
    case lastDay =>
      have hlength := monthDays_march y.toNat hm
      omega
    all_goals omega
  · -- January and February, which belong to the next year
    rw [if_neg (by omega : ¬ (m : Int) < 10), if_pos (by omega : (m : Int) - 9 ≤ 2)]
    have hyear : (((y + 1).toNat : Nat) : Int) = y + 1 := Int.toNat_of_nonneg (by omega)
    have hlength := marchDays_natCast (y + 1).toNat
    have hstart := marchDays_pred (y + 1).toNat
    rw [hyear] at hlength hstart
    rw [Int.add_sub_cancel] at hstart
    constructor <;> dsimp only
    case lastDay =>
      obtain rfl | rfl : m = 10 ∨ m = 11 := by omega
      · change (n - 306 + 1).toNat ≤ 31
        omega
      · change (n - 337 + 1).toNat ≤ 28 + leapDay (y + 1).toNat
        omega
    all_goals omega

/-! ## The order of the dates -/

theorem monthDays_le (y : Nat) {month : Nat} (hfirst : 1 ≤ month) (hlast : month ≤ 12) :
    monthDays y month ≤ 31 := by
  have hleap := leapDay_le y
  obtain ⟨m, rfl⟩ := Nat.exists_eq_add_of_le' hfirst
  have hm : m < 12 := by omega
  interval_cases m <;> simp [monthDays, monthLengths]
  omega

theorem monthStart_succ (y m : Nat) :
    monthStart y (m + 2) = monthStart y (m + 1) + monthDays y (m + 1) := by
  unfold monthStart monthDays
  rw [show m + 2 - 1 = m + 1 from rfl, Nat.add_sub_cancel, List.take_add_one, List.sum_append,
    List.getD_eq_getElem?_getD]
  cases (monthLengths y)[m]? <;> simp

theorem monthStart_le (y : Nat) {m k : Nat} (h : m ≤ k) :
    monthStart y (m + 1) ≤ monthStart y (k + 1) := by
  induction h with
  | refl => exact le_refl _
  | step _ ih => exact ih.trans (Nat.le.intro (monthStart_succ y _).symm)

theorem monthStart_end (y : Nat) : monthStart y 13 = yearDays y := by
  simp only [monthStart, monthLengths, yearDays, List.take, List.sum_cons, List.sum_nil]
  omega

/-- A day stands in front of the months that follow. -/
theorem Date.Proper.lt_monthStart {x : Date} (h : x.Proper) {month : Nat} (hmonth : x.month < month) :
    monthStart x.year.toNat x.month + (x.day - 1) < monthStart x.year.toNat month := by
  obtain ⟨m, hm⟩ := Nat.exists_eq_add_of_le' h.firstMonth
  obtain ⟨k, rfl⟩ := Nat.exists_eq_add_of_le' (Nat.one_le_of_lt hmonth)
  have hlast := h.lastDay
  have hfirst := h.firstDay
  have hle := monthStart_le x.year.toNat (by omega : m + 1 ≤ k)
  rw [monthStart_succ] at hle
  rw [hm] at hlast ⊢
  omega

/-- The first of two dates by year, month and day. -/
def Date.Earlier (x y : Date) : Prop :=
  x.year < y.year ∨ x.year = y.year ∧ (x.month < y.month ∨ x.month = y.month ∧ x.day < y.day)

theorem Date.Earlier.dayNumber_lt {x y : Date} (h : x.Earlier y) (hx : x.Proper) :
    x.dayNumber < y.dayNumber := by
  unfold dayNumber
  rcases h with hyear | ⟨hyear, hmonth | ⟨hmonth, hday⟩⟩
  · have hrest := hx.lt_monthStart (Nat.lt_succ_of_le hx.lastMonth)
    rw [monthStart_end] at hrest
    have hyears : daysBefore (x.year.toNat + 1) ≤ daysBefore y.year.toNat :=
      daysBefore_le (by have := hx.year; omega)
    rw [daysBefore] at hyears
    omega
  · have hrest := hx.lt_monthStart hmonth
    rw [hyear] at hrest ⊢
    omega
  · have hfirst := hx.firstDay
    rw [hyear, hmonth]
    omega

end CycleLog.Clock
