/-!
# Calendar dates

Dates of the Gregorian calendar, carried on backwards without end. `ofDays` gives the date that lies
a number of days after the first of January 1970, and `toDays` that number. Both count years from
March, so that a leap day is the last day of its year.
-/

namespace CycleLog.Clock
set_option autoImplicit false

structure Date where
  year : Int
  month : Nat
  day : Nat
deriving DecidableEq, Repr

/-! ## Days -/

/-- The days from the first of March of the year 0 to the first of January 1970. -/
def epochShift : Int := 719468

/-- The days in four hundred years. -/
def eraDays : Int := 146097

namespace Date

def ofDays (days : Int) : Date :=
  let z := days + epochShift
  let era := z / eraDays
  let d := z % eraDays
  let y := (d - d / 1460 + d / 36524 - d / 146096) / 365
  let dayOfYear := d - (365 * y + y / 4 - y / 100)
  let m := (5 * dayOfYear + 2) / 153
  let day := dayOfYear - (153 * m + 2) / 5 + 1
  let month := if m < 10 then m + 3 else m - 9
  ⟨y + era * 400 + (if month ≤ 2 then 1 else 0), month.toNat, day.toNat⟩

def toDays (x : Date) : Int :=
  let y := if x.month ≤ 2 then x.year - 1 else x.year
  let era := y / 400
  let yearOfEra := y % 400
  let m : Int := if 2 < x.month then x.month - 3 else x.month + 9
  let dayOfYear := (153 * m + 2) / 5 + x.day - 1
  let d := yearOfEra * 365 + yearOfEra / 4 - yearOfEra / 100 + dayOfYear
  era * eraDays + d - epochShift

end Date
end CycleLog.Clock
