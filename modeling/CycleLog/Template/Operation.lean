import CycleLog.Template.Basic
import CycleLog.Text.Scan

/-!
# Operators in templates

What the operators of expressions do with data. An operator that a pair of data has no meaning for,
and an integer result beyond a hundred and twenty-eight bits, is a fault.
-/

namespace CycleLog.Template
set_option autoImplicit false

open Decimal

/-- Why a template cannot be rendered. -/
inductive Fault where
  /-- A member or item of what has no value. -/
  | undefinedBase
  | unknownFilter (name : String)
  | unknownTest (name : String)
  | unknownFunction (name : String)
  | notCallable
  | badOperands
  | badArguments
  | notIterable
  | missingTemplate
  /-- Calls are nested too deep. -/
  | tooDeep
deriving DecidableEq, Repr

def isInRange (n : Int) : Bool := -(twoTo 127 : Int) ≤ n && n < twoTo 127

def ofInt (n : Int) : Except Fault Datum :=
  if isInRange n then .ok (.int n) else .error .badOperands

def ofFloat (x : Float) : Datum := .real (Binary64.ofFloat x)

/-- A function of two numbers: one for integers, one for all others. -/
def arithmetic (onInts : Int → Int → Except Fault Datum) (onFloats : Float → Float → Float)
    (a b : Datum) : Except Fault Datum :=
  match a.int?, b.int? with
  | some m, some n => onInts m n
  | _, _ =>
    match a.float?, b.float? with
    | some x, some y => .ok (ofFloat (onFloats x y))
    | _, _ => .error .badOperands

def add (a b : Datum) : Except Fault Datum :=
  match a.elements?, b.elements? with
  | some vs, some ws => .ok (.list (vs ++ ws))
  | _, _ =>
    match a.text?, b.text? with
    | some s, some t => .ok (.text (s ++ t))
    | _, _ => arithmetic (fun m n => ofInt (m + n)) (· + ·) a b

/-- A text or a list so many times in a row. -/
def timesOver (a : Datum) (n : Int) : Except Fault Datum :=
  if n < 0 ∨ 100000 < n then .error .badOperands
  else
    match a with
    | .text s | .markup s => .ok (.text (String.join (List.replicate n.toNat s)))
    | .list vs | .tuple _ vs => .ok (.list (List.replicate n.toNat vs).flatten)
    | _ => .error .badOperands

def mul (a b : Datum) : Except Fault Datum :=
  match a, b with
  | .text _, .int n | .markup _, .int n | .list _, .int n | .tuple _ _, .int n => timesOver a n
  | .int n, .text _ | .int n, .markup _ | .int n, .list _ | .int n, .tuple _ _ => timesOver b n
  | _, _ => arithmetic (fun m n => ofInt (m * n)) (· * ·) a b

def div (a b : Datum) : Except Fault Datum :=
  match a.float?, b.float? with
  | some x, some y => .ok (ofFloat (x / y))
  | _, _ => .error .badOperands

/-- The quotient of floating-point numbers with a remainder that is not negative. -/
def floorQuotient (x y : Float) : Float :=
  let q := (x / y)
  let q := if q < 0 then q.ceil else q.floor
  let r := x - q * y
  if r < 0 then (if y > 0 then q - 1 else q + 1) else q

def floatRemainder (x y : Float) : Float :=
  let q := x / y
  x - (if q < 0 then q.ceil else q.floor) * y

def floorDiv (a b : Datum) : Except Fault Datum :=
  arithmetic (fun m n => if n = 0 then .error .badOperands else ofInt (m / n)) floorQuotient a b

def rem (a b : Datum) : Except Fault Datum :=
  arithmetic (fun m n => if n = 0 then .error .badOperands else ofInt (m % n)) floatRemainder a b

def powInts (m n : Int) : Except Fault Datum :=
  if n < 0 then .error .badOperands
  else if m.natAbs ≤ 1 then ofInt (Int.pow m (n.toNat % 2 + if n = 0 then 0 else 2))
  else if 127 < n then .error .badOperands
  else ofInt (Int.pow m n.toNat)

def neg : Datum → Except Fault Datum
  | .int n => ofInt (-n)
  | .real x => .ok (.real x.negated)
  | _ => .error .badOperands

def within (a b : Datum) : Except Fault Datum :=
  match b with
  | .undefined => .ok (.bool false)
  | .text s | .markup s => .ok (.bool (Text.occursIn a.printed.toList s.toList))
  | .list vs | .tuple _ vs => .ok (.bool (vs.any (·.same a)))
  | .record _ | .cursor _ _ _ _ => .ok (.bool (b.member? a).isSome)
  | _ => .error .badOperands

def Operator.apply : Operator → Datum → Datum → Except Fault Datum
  | .add, a, b => Template.add a b
  | .sub, a, b => arithmetic (fun m n => ofInt (m - n)) (· - ·) a b
  | .mul, a, b => Template.mul a b
  | .div, a, b => Template.div a b
  | .floorDiv, a, b => Template.floorDiv a b
  | .rem, a, b => Template.rem a b
  | .pow, a, b => arithmetic powInts Float.pow a b
  | .concat, a, b => .ok (.text (a.printed ++ b.printed))
  | .eq, a, b => .ok (.bool (a.same b))
  | .ne, a, b => .ok (.bool (!a.same b))
  | .lt, a, b => .ok (.bool (a.less b))
  | .le, a, b => .ok (.bool (!b.less a))
  | .gt, a, b => .ok (.bool (b.less a))
  | .ge, a, b => .ok (.bool (!a.less b))
  | .within, a, b => Template.within a b

/-! ## Slices -/

/-- The items at the places `start`, `start + step`, … below `stop`. -/
def everyNth {α : Type} (step : Nat) : Nat → List α → List α
  | _, [] => []
  | 0, x :: xs => x :: everyNth step (step - 1) xs
  | k + 1, _ :: xs => everyNth step k xs

/-- A bound of a slice; a negative one counts from the end. -/
def bound (length : Nat) (n : Int) : Nat :=
  if n < 0 then (n + length).toNat else min n.toNat length

/-- A part of a slice that may be left out. -/
def sliceInt? : Datum → Except Fault (Option Int)
  | .none => .ok none
  | d =>
    match d.int? with
    | some n => .ok (some n)
    | none => .error .badOperands

/-- The items from `start` down to the one behind `stop`, `step` places apart. -/
def backwards {α : Type} (xs : List α) (start stop : Option Int) (step : Nat) : List α :=
  let first := min (bound xs.length (start.getD xs.length)) (xs.length - 1)
  let kept := match stop with
    | none => xs.take (first + 1)
    | some n => (xs.take (first + 1)).drop (bound xs.length n + 1)
  everyNth step 0 kept.reverse

def sliceItems {α : Type} (xs : List α) (start stop step : Datum) : Except Fault (List α) := do
  let start ← sliceInt? start
  let stop ← sliceInt? stop
  let step ← sliceInt? step
  match step.getD 1 with
  | .ofNat 0 => .error .badOperands
  | .ofNat n =>
    let lo := bound xs.length (start.getD 0)
    let hi := bound xs.length (stop.getD xs.length)
    .ok (everyNth n 0 ((xs.take hi).drop lo))
  | .negSucc n => .ok (backwards xs start stop (n + 1))

def slice (d start stop step : Datum) : Except Fault Datum :=
  match d with
  | .undefined | .none => .ok (.list [])
  | .text s | .markup s =>
    (sliceItems s.toList start stop step).map fun cs => .text (String.ofList cs)
  | .list vs | .tuple _ vs => (sliceItems vs start stop step).map .list
  | _ => .error .badOperands

end CycleLog.Template
