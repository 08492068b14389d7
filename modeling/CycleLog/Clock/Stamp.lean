import CycleLog.Clock.Date

/-!
# Time stamps

A stamp shows an instant as the date and the minute at a place whose clock differs from universal
time by whole hours. A year has four digits, or a minus sign and at least three.
-/

namespace CycleLog.Clock
set_option autoImplicit false

/-- A moment, as nanoseconds since the beginning of 1970. -/
structure Instant where
  nanos : Int
deriving DecidableEq, Repr

namespace Instant

/-- The nanoseconds of one second. -/
def second : Int := 1000000000

def ofSeconds (seconds nanos : Int) : Instant := ⟨seconds * second + nanos⟩

/-- The moments that have a date from the year -9999 to the year 9999 everywhere. -/
def inRange (t : Instant) : Bool :=
  -377705023201 * second ≤ t.nanos && t.nanos < 253402207201 * second

/-- The minutes since the beginning of 1970 on a clock that is ahead by some hours. -/
def localMinute (t : Instant) (hours : Int) : Int :=
  (t.nanos + hours * 3600 * second) / (60 * second)

end Instant

/-- How far a clock may differ from universal time, in hours. -/
def isOffset (hours : Int) : Bool := -25 ≤ hours && hours ≤ 25

/-! ## Text -/

/-- A number with zeros in front, up to a number of digits. -/
def padded (width : Nat) (n : Nat) : String :=
  let s := toString n
  String.ofList (List.replicate (width - s.length) '0') ++ s

def yearText (year : Int) : String :=
  if year < 0 then "-" ++ padded 3 year.natAbs else padded 4 year.natAbs

/-- The stamp of a minute counted from the beginning of 1970. -/
def minuteText (minute : Int) : String :=
  let date := Date.ofDays (minute / 1440)
  let rest := (minute % 1440).toNat
  yearText date.year ++ "-" ++ padded 2 date.month ++ "-" ++ padded 2 date.day ++ " " ++
    padded 2 (rest / 60) ++ ":" ++ padded 2 (rest % 60)

def stamp (t : Instant) (hours : Int) : String := minuteText (t.localMinute hours)

end CycleLog.Clock
