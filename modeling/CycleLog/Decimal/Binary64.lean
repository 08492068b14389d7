/-!
# Binary floating point

A double-precision number is kept as its sixty-four bits, so that two numbers are equal exactly when
they are the same. `parts` splits a finite one into sign, integer significand and power of two.
-/

namespace CycleLog.Decimal
set_option autoImplicit false

/-- A power of two. -/
def twoTo (n : Nat) : Nat := Nat.pow 2 n

structure Binary64 where
  bits : UInt64
deriving DecidableEq, Repr

namespace Binary64

def ofFloat (x : Float) : Binary64 := ⟨x.toBits⟩

def toFloat (x : Binary64) : Float := Float.ofBits x.bits

def negative (x : Binary64) : Bool := x.bits.toNat ≥ twoTo 63

/-- The eleven bits of the exponent. -/
def biased (x : Binary64) : Nat := x.bits.toNat / twoTo 52 % twoTo 11

/-- The fifty-two bits behind the exponent. -/
def fraction (x : Binary64) : Nat := x.bits.toNat % twoTo 52

/-- A finite number without its sign is `significand * 2 ^ power`. -/
def significand (x : Binary64) : Nat := if x.biased = 0 then x.fraction else twoTo 52 + x.fraction

def power (x : Binary64) : Int := (if x.biased = 0 then 1 else (x.biased : Int)) - 1075

def isFinite (x : Binary64) : Bool := x.biased < 2047

/-! ## From a decimal -/

def tenTo (k : Nat) : Float := Float.ofScientific 1 false k

/-- `f * 10 ^ exponent`. Powers of ten up to the three hundred and eighth are applied in one step,
and a smaller exponent is worked off by dividing; nothing stands for a number out of range. -/
def scaled? (f : Float) (exponent : Int) : Option Float :=
  if 0 ≤ exponent then
    if exponent ≤ 308 then
      let r := f * tenTo exponent.toNat
      if r.isInf then none else some r
    else if f == 0 then some f
    else none
  else if -308 ≤ exponent then some (f / tenTo (-exponent).toNat)
  else if f == 0 then some f
  else scaled? (f / tenTo 308) (exponent + 308)
termination_by (-exponent).toNat
decreasing_by omega

/-- The number that `significand * 10 ^ exponent` reads as: the significand is rounded first. -/
def ofDecimal? (significand : UInt64) (exponent : Int) : Option Binary64 :=
  (scaled? significand.toFloat exponent).map ofFloat

/-- The number nearest to `digits * 10 ^ exponent`. -/
def nearest (digits : Nat) (exponent : Int) : Binary64 :=
  if digits = 0 then ofFloat 0
  else if 400 < exponent then ofFloat (1 / 0)
  else if exponent < -(400 + (Nat.log2 digits : Int)) then ofFloat 0
  else ofFloat (Float.ofScientific digits (decide (exponent < 0)) exponent.natAbs)

def negated (x : Binary64) : Binary64 := ⟨x.bits ^^^ 0x8000000000000000⟩

end Binary64
end CycleLog.Decimal
