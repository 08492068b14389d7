import CycleLog.Template.Operation
import CycleLog.Json.Reader

/-!
# Data as numbers

Rounding, and the number that a text or a truth value stands for.
-/

namespace CycleLog.Template
set_option autoImplicit false

open Decimal

/-- A number rounded to so many places, halves away from zero. -/
def roundedTo (x : Float) (places : Int) : Float :=
  let f := Float.pow 10 (Float.ofInt places)
  (x * f).round / f

/-- A text read as a decimal number. -/
def numberOf? (cs : List Char) : Option Json.Numeral :=
  match Json.numeral (match cs with | '+' :: r => r | r => r) with
  | some (n, []) => some n
  | _ => none

def toInt (d : Datum) : Except Fault Datum :=
  match d with
  | .undefined | .none => .ok (.int 0)
  | .real x => ofInt (if x.toFloat < 0 then -(Int.ofNat (-x.toFloat).toUInt64.toNat)
      else Int.ofNat x.toFloat.toUInt64.toNat)
  | .text s | .markup s =>
    match numberOf? s.toList with
    | some n =>
      let k : Int := Json.naturalOf n.whole
      if n.plain ∨ n.exponent = 0 then ofInt (if n.minus then -k else k) else .error .badArguments
    | none => .error .badArguments
  | d => match d.int? with
    | some n => .ok (.int n)
    | none => .error .badArguments

def toReal (d : Datum) : Except Fault Datum :=
  match d with
  | .undefined | .none => .ok (ofFloat 0)
  | .text s | .markup s =>
    match (numberOf? s.toList).bind (·.real?) with
    | some (.real x) => .ok (.real x)
    | _ => .error .badArguments
  | d => match d.float? with
    | some x => .ok (ofFloat x)
    | none => .error .badArguments

def absolute : Datum → Except Fault Datum
  | .int n => ofInt n.natAbs
  | .real x => .ok (if x.negative then .real x.negated else .real x)
  | _ => .error .badArguments

end CycleLog.Template
