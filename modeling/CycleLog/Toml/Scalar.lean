import CycleLog.Toml.Text
import CycleLog.Json.Number

/-!
# Numbers and times in TOML

An integer has to fit into sixty-four bits with sign. A date, a time of day or both are checked
against the calendar and kept as a value with one member.
-/

namespace CycleLog.Toml
set_option autoImplicit false

open Json (Value)
open Decimal

/-! ## Digits -/

/-- Digits in base `base`, where an underscore may stand between two of them. -/
def digitsIn (base : Nat) (cs : List Char) : Option (List Nat × List Char) :=
  let digit? (c : Char) : Option Nat := (Json.hexValue? c).filter (· < base)
  let isPart (c : Char) : Bool := c == '_' || (digit? c).isSome
  let run := cs.takeWhile isPart
  let doubled := (run.zip (run.drop 1)).any fun (a, b) => a == '_' && b == '_'
  if run.isEmpty || run.head? == some '_' || run.getLast? == some '_' || doubled then none
  else some (run.filterMap digit?, cs.dropWhile isPart)

def ofDigits (base : Nat) (ds : List Nat) : Nat := ds.foldl (fun n d => base * n + d) 0

def inRange (n : Int) : Option Value :=
  if -(Json.signedBound : Int) ≤ n ∧ n < Json.signedBound then some (.int n) else none

/-! ## Numbers -/

def baseInteger (base : Nat) (cs : List Char) : Option (Value × List Char) := do
  let (ds, r) ← digitsIn base cs
  (inRange (ofDigits base ds)).map (·, r)

/-- An exponent, if there is one. -/
def exponent? (cs : List Char) : Option (Option Int × List Char) :=
  let signed (r : List Char) : Option (Option Int × List Char) := do
    let (minus, r) := match r with
      | '-' :: r => (true, r)
      | '+' :: r => (false, r)
      | r => (false, r)
    let (ds, r) ← digitsIn 10 r
    let n : Int := ofDigits 10 ds
    some (some (if minus then -n else n), r)
  match cs with
  | 'e' :: r | 'E' :: r => signed r
  | r => some (none, r)

/-- An integer or a decimal number, without its sign. -/
def unsigned (minus : Bool) (cs : List Char) : Option (Value × List Char) :=
  let real (x : Binary64) : Value := .real (if minus then x.negated else x)
  match cs with
  | 'i' :: 'n' :: 'f' :: r => some (real (Binary64.ofFloat (1 / 0)), r)
  | 'n' :: 'a' :: 'n' :: r => some (real (Binary64.ofFloat (0 / 0)), r)
  | _ => do
    let (whole, r) ← digitsIn 10 cs
    if whole.length > 1 ∧ whole.head? = some 0 then none
    let (fraction, r) ← match r with
      | '.' :: r => (digitsIn 10 r).map fun (ds, r) => (some ds, r)
      | r => some (none, r)
    let (e, r) ← exponent? r
    match fraction, e with
    | none, none =>
      let n : Int := ofDigits 10 whole
      (inRange (if minus then -n else n)).map (·, r)
    | _, _ =>
      let f := fraction.getD []
      let x := Binary64.nearest (ofDigits 10 (whole ++ f)) (e.getD 0 - f.length)
      if x.isFinite then some (real x, r) else none

def number? : List Char → Option (Value × List Char)
  | '0' :: 'x' :: r => baseInteger 16 r
  | '0' :: 'o' :: r => baseInteger 8 r
  | '0' :: 'b' :: r => baseInteger 2 r
  | '-' :: r => unsigned true r
  | '+' :: r => unsigned false r
  | r => unsigned false r

/-! ## Dates and times -/

/-- Exactly so many digits. -/
def fixedDigits (n : Nat) (cs : List Char) : Option (Nat × List Char) :=
  let ds := cs.take n
  if ds.length = n ∧ ds.all Char.isDigit then some (Json.naturalOf ds, cs.drop n) else none

def beginsDigit (cs : List Char) : Bool := cs.head?.any Char.isDigit

/-- Drops one given character. -/
def expect (c : Char) : List Char → Option (List Char)
  | d :: r => if c = d then some r else none
  | [] => none

def daysIn (year month : Nat) : Nat :=
  if month = 2 then
    if year % 4 = 0 ∧ (year % 100 ≠ 0 ∨ year % 400 = 0) then 29 else 28
  else if month = 4 ∨ month = 6 ∨ month = 9 ∨ month = 11 then 30
  else 31

/-- Drops a date. -/
def date? (cs : List Char) : Option (List Char) := do
  let (y, r) ← fixedDigits 4 cs
  let r ← expect '-' r
  let (m, r) ← fixedDigits 2 r
  let r ← expect '-' r
  let (d, r) ← fixedDigits 2 r
  if 1 ≤ m ∧ m ≤ 12 ∧ 1 ≤ d ∧ d ≤ daysIn y m then some r else none

/-- Drops a time of day. -/
def time? (cs : List Char) : Option (List Char) := do
  let (h, r) ← fixedDigits 2 cs
  let r ← expect ':' r
  let (m, r) ← fixedDigits 2 r
  let r ← expect ':' r
  let (s, r) ← fixedDigits 2 r
  if 23 < h ∨ 59 < m ∨ 60 < s then none
  match r with
  | '.' :: r => if beginsDigit r then some (r.dropWhile Char.isDigit) else none
  | r => some r

/-- Drops the distance from universal time. -/
def zone? : List Char → Option (List Char)
  | 'Z' :: r | 'z' :: r => some r
  | '+' :: r | '-' :: r => do
    let (h, r) ← fixedDigits 2 r
    let r ← expect ':' r
    let (m, r) ← fixedDigits 2 r
    if h ≤ 23 ∧ m ≤ 59 then some r else none
  | r => some r

def moment? (cs : List Char) : Option (List Char) :=
  match date? cs with
  | none => time? cs
  | some r =>
    match r with
    | 'T' :: t | 't' :: t => (time? t).bind zone?
    | ' ' :: t => if beginsDigit t then (time? t).bind zone? else some r
    | r => some r

/-- Whether the text goes on as a date or a time of day. -/
def beginsMoment (cs : List Char) : Bool :=
  (cs.take 4).all Char.isDigit && (cs.drop 4).head? == some '-' ||
    (cs.take 2).all Char.isDigit && (cs.drop 2).head? == some ':'

def scalar? (cs : List Char) : Option (Value × List Char) :=
  match cs with
  | 't' :: 'r' :: 'u' :: 'e' :: r => some (.bool true, r)
  | 'f' :: 'a' :: 'l' :: 's' :: 'e' :: r => some (.bool false, r)
  | _ =>
    if beginsMoment cs then
      (moment? cs).map fun r =>
        (.object [("moment", .text (String.ofList (cs.take (cs.length - r.length))))], r)
    else number? cs

end CycleLog.Toml
