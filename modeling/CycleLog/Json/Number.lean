import CycleLog.Json.Value

/-!
# Numbers in JSON text

A number without fraction and exponent that fits into sixty-four bits is an integer, all others are
binary floating point; `-0` is the negative zero. Digits are collected into a significand as long as
it fits into sixty-four bits: what integer digits are left over raise the exponent, and fraction
digits left over are dropped.
-/

namespace CycleLog.Json
set_option autoImplicit false

open Decimal

/-- The integers of sixty-four bits without sign lie below this. -/
def wordBound : Nat := twoTo 64

/-- The integers of sixty-four bits with sign lie below this, and reach down to its negative. -/
def signedBound : Nat := twoTo 63

/-- The digits at the front, and what follows. -/
def digits (cs : List Char) : List Char × List Char := cs.span Char.isDigit

def digitValue (c : Char) : Nat := c.toNat - '0'.toNat

def naturalOf (ds : List Char) : Nat := ds.foldl (fun n c => 10 * n + digitValue c) 0

/-- Collects digits into a significand below `wordBound`; the digits that no longer fit are left. -/
def collect (n : Nat) : List Char → Nat × List Char
  | [] => (n, [])
  | c :: r =>
    if 10 * n + digitValue c < wordBound then collect (10 * n + digitValue c) r else (n, c :: r)

/-- The parts of a number as written. -/
structure Numeral where
  minus : Bool
  whole : List Char
  fraction : List Char
  exponent : Int
  /-- Whether there is neither a fraction nor an exponent. -/
  plain : Bool

/-! ## The parts -/

/-- An exponent behind `e`: a sign if there is one, and digits. -/
def exponentPart (cs : List Char) : Option (Int × List Char) :=
  let (minus, r) := match cs with
    | '+' :: r => (false, r)
    | '-' :: r => (true, r)
    | r => (false, r)
  match digits r with
  | ([], _) => none
  | (ds, r) => some (if minus then -(naturalOf ds : Int) else naturalOf ds, r)

/-- Fraction digits, and what follows; a point needs a digit behind it. -/
def fractionPart (cs : List Char) : Option (List Char × List Char) :=
  match cs with
  | '.' :: r =>
    match digits r with
    | ([], _) => none
    | (ds, r) => some (ds, r)
  | r => some ([], r)

def numeral (cs : List Char) : Option (Numeral × List Char) := do
  let (minus, r) := match cs with
    | '-' :: r => (true, r)
    | r => (false, r)
  let (whole, r) := digits r
  match whole with
  | [] => none
  | '0' :: _ :: _ => none
  | _ =>
    let (fraction, r) ← fractionPart r
    match r with
    | 'e' :: r | 'E' :: r =>
      let (e, r) ← exponentPart r
      some (⟨minus, whole, fraction, e, false⟩, r)
    | r => some (⟨minus, whole, fraction, 0, fraction.isEmpty⟩, r)

/-! ## The value -/

def Numeral.real? (n : Numeral) : Option Value := do
  let (s, left) := collect 0 n.whole
  let (t, dropped) := collect s n.fraction
  let shift := (left.length : Int) - (n.fraction.length - dropped.length : Nat)
  let x ← Binary64.ofDecimal? (UInt64.ofNat t) (n.exponent + shift)
  some (.real (if n.minus then x.negated else x))

/-- Nothing for a number out of range. -/
def Numeral.value? (n : Numeral) : Option Value :=
  let k := naturalOf n.whole
  if n.plain ∧ ¬ n.minus ∧ k < wordBound then some (.int k)
  else if n.plain ∧ n.minus ∧ k ≠ 0 ∧ k ≤ signedBound then some (.int (-(k : Int)))
  else n.real?

end CycleLog.Json
