import CycleLog.Decimal.Shortest

/-!
# Written forms of a number

A `Layout` says how the shortest decimal of a number is written: where the point may stand before
an exponent is used, and how the exponent looks.
-/

namespace CycleLog.Decimal
set_option autoImplicit false

structure Layout where
  /-- The point stands in the text when it follows the first digit by more than `least` places. -/
  least : Int
  /-- The point stands in the text when it follows the first digit by at most `most` places. -/
  most : Int
  /-- What marks a positive exponent. -/
  plus : String
  /-- Whether a whole number ends with `.0`. -/
  point : Bool
  infinity : String

/-- JSON data: `100.0`, `0.00001`, `1e-7`, `1e+16`. -/
def Layout.json : Layout := ⟨-5, 16, "+", true, "inf"⟩

/-- A value that a template prints: always in full, `0.0000001`. -/
def Layout.plain : Layout := ⟨-400, 400, "", true, "inf"⟩

/-- A value inside a list that a template prints: `1e16`, `0.00001`. -/
def Layout.listed : Layout := ⟨-5, 16, "", true, "inf"⟩

/-! ## Writing -/

def zeros (n : Nat) : List Char := List.replicate n '0'

/-- A decimal without its sign. -/
def Layout.written (l : Layout) (d : Expansion) : List Char :=
  let ds := (toString d.digits).toList
  let place := (ds.length : Int) + d.exponent
  if 0 ≤ d.exponent ∧ place ≤ l.most then
    ds ++ zeros d.exponent.toNat ++ (if l.point then ['.', '0'] else [])
  else if 0 < place ∧ place ≤ l.most then
    ds.take place.toNat ++ '.' :: ds.drop place.toNat
  else if l.least < place ∧ place ≤ 0 then
    '0' :: '.' :: zeros (-place).toNat ++ ds
  else
    let e := place - 1
    let mark := if 0 ≤ e then l.plus else "-"
    let head := match ds with
      | [] => []
      | [c] => [c]
      | c :: r => c :: '.' :: r
    head ++ 'e' :: mark.toList ++ (toString e.natAbs).toList

def Layout.text (l : Layout) (x : Binary64) : String :=
  let sign := if x.negative then "-" else ""
  if x.isFinite then sign ++ String.ofList (l.written x.shortest)
  else if x.fraction = 0 then sign ++ l.infinity
  else "NaN"

end CycleLog.Decimal
