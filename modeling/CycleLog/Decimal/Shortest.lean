import CycleLog.Decimal.Binary64

/-!
# The shortest decimal of a binary number

`shortest` gives the decimal `digits * 10 ^ exponent` with the fewest digits among those that read
back as a given positive number, and the nearest of these. A decimal reads back when it lies between
the midpoints to the two neighbouring numbers; a midpoint itself counts when the significand is
even.
-/

namespace CycleLog.Decimal
set_option autoImplicit false

/-- A decimal `digits * 10 ^ exponent`. -/
structure Expansion where
  digits : Nat
  exponent : Int
deriving DecidableEq, Repr

/-- The stretch of decimals that read back as one number: `low` to `high` around `mid`, in units of
`2 ^ power`. -/
structure Interval where
  low : Nat
  mid : Nat
  high : Nat
  power : Int
  closed : Bool

def Binary64.interval (x : Binary64) : Interval :=
  let m := x.significand
  let below := if x.fraction = 0 ∧ 1 < x.biased then 1 else 2
  ⟨4 * m - below, 4 * m, 4 * m + 2, x.power - 2, m % 2 == 0⟩

/-! ## One grid -/

/-- Factors `(p, q)` with which `d * 10 ^ k` and `n * 2 ^ e` compare as `d * p` and `n * q`. -/
def factors (k e : Int) : Nat × Nat :=
  (Nat.pow 10 k.toNat * twoTo (-e).toNat, Nat.pow 10 (-k).toNat * twoTo e.toNat)

def Interval.holds (v : Interval) (p q d : Nat) : Bool :=
  if v.closed then v.low * q ≤ d * p && d * p ≤ v.high * q
  else v.low * q < d * p && d * p < v.high * q

/-- The multiple of `10 ^ k` in the interval that is nearest to its middle, if one of the two
multiples around the middle is in it; of two equally near ones the even multiple. -/
def Interval.onGrid (v : Interval) (k : Int) : Option Nat :=
  let (p, q) := factors k v.power
  let d := v.mid * q / p
  let under := v.mid * q - d * p
  let above := (d + 1) * p - v.mid * q
  match v.holds p q d && d != 0, v.holds p q (d + 1) with
  | true, true =>
    some (if under < above then d else if above < under then d + 1
      else if d % 2 = 0 then d else d + 1)
  | true, false => some d
  | false, true => some (d + 1)
  | false, false => none

/-! ## The search -/

/-- An exponent `k` with `10 ^ k` at or below the middle of the interval, close to it. -/
def Interval.magnitude (v : Interval) : Int :=
  let guess := ((Nat.log2 v.mid : Int) + v.power) * 30103 / 100000
  let fits := fun (k : Int) => let (p, q) := factors k v.power; decide (p ≤ v.mid * q)
  if fits (guess + 1) then guess + 1 else if fits guess then guess else guess - 1

/-- Drops the zeros at the end of the digits. -/
def Expansion.stripped (digits : Nat) (exponent : Int) : Nat → Expansion
  | 0 => ⟨digits, exponent⟩
  | fuel + 1 =>
    if digits ≠ 0 ∧ digits % 10 = 0 then stripped (digits / 10) (exponent + 1) fuel
    else ⟨digits, exponent⟩

/-- Tries finer and finer grids. -/
def Interval.search (v : Interval) (k : Int) : Nat → Expansion
  | 0 => ⟨v.mid, v.power⟩
  | fuel + 1 =>
    match v.onGrid k with
    | some d => Expansion.stripped d k 20
    | none => v.search (k - 1) fuel

/-- The shortest decimal that reads back as the number without its sign. -/
def Binary64.shortest (x : Binary64) : Expansion :=
  if x.significand = 0 then ⟨0, 0⟩ else x.interval.search x.interval.magnitude 18

end CycleLog.Decimal
