import CycleLog.Template.Argument
import CycleLog.Template.Numeric
import CycleLog.Template.Sequence
import CycleLog.Template.Test
import CycleLog.Template.Wording

/-!
# Filters

The filters and functions that templates can name. Each takes a value and arguments; an argument too
many and one that is missing are faults.
-/

namespace CycleLog.Template
set_option autoImplicit false

open Text Decimal

/-! ## Filters -/

/-- The filters that name no other filter. -/
def simpleFilter (name : String) (d : Datum) (a : Args) : Except Fault Datum := do
  let plain (r : Except Fault Datum) : Except Fault Datum := do
    a.empty
    r
  let onText (f : List Char → List Char) : Except Fault Datum :=
    plain (.ok (.text (String.ofList (f d.printed.toList))))
  match name with
  | "upper" => onText fun cs => cs.flatMap upperForm
  | "lower" => onText (lowered [])
  | "title" => onText (titled true)
  | "capitalize" => onText capitalized
  | "replace" =>
    let (old, new) ← a.two
    let old ← required old
    let new ← required new
    let cs := d.printed.toList
    .ok (.text (String.ofList (replaced old.printed.toList new.printed.toList (cs.length + 1) cs)))
  | "length" | "count" => plain (lengthOf d)
  | "items" =>
    match d.members? with
    | some ms => plain (.ok (.list (memberPairs ms)))
    | none => .error .badArguments
  | "dictsort" =>
    match d.members?, ← a.byName ["by", "case_sensitive", "reverse"] with
    | some ms, [order, exact, rev] =>
      let place : Datum := .int (if order.same (.text "value") then 1 else 0)
      let vs := sortedBy (fun v => sortKey .undefined exact (v.item place)) (memberPairs ms)
      .ok (.list (if rev.isTrue then vs.reverse else vs))
    | _, _ => .error .badArguments
  | "reverse" => plain (reversed d)
  | "trim" =>
    let chars ← a.one
    let chars := match chars with
      | .undefined | .none => none
      | c => some c.printed.toList
    .ok (.text (String.ofList (trimmedOf chars d.printed.toList)))
  | "join" =>
    let sep ← a.one
    joined d sep.printed
  | "split" =>
    let sep ← a.one
    let cs := d.printed.toList
    let parts := match sep with
      | .undefined | .none => wordsOf [] cs
      | s => if s.printed.isEmpty then [[]] ++ cs.map (fun c => [c]) ++ [[]]
        else partsBy s.printed.toList (cs.length + 1) [] cs
    .ok (.list (parts.map fun p => .text (String.ofList p)))
  | "lines" =>
    plain (.ok (.list ((lines d.printed.toList).map fun l => .text (String.ofList l))))
  | "default" | "d" =>
    let (other, lax) ← a.two
    let other := match other with
      | .undefined => .text ""
      | o => o
    .ok (if d matches .undefined then other else if lax.isTrue && !d.isTrue then other else d)
  | "round" =>
    let places ← a.one
    match d, (orElse places (.int 0)).int? with
    | .int n, some _ => .ok (.int n)
    | .real x, some p => .ok (ofFloat (roundedTo x.toFloat p))
    | _, _ => .error .badArguments
  | "abs" => plain (absolute d)
  | "int" =>
    let other ← a.one
    match toInt d, other with
    | .ok n, _ => .ok n
    | .error e, .undefined => .error e
    | .error _, o => .ok o
  | "float" =>
    let other ← a.one
    match toReal d, other with
    | .ok x, _ => .ok x
    | .error e, .undefined => .error e
    | .error _, o => .ok o
  | "attr" =>
    let key ← required (← a.one)
    .ok (d.item key)
  | "first" =>
    match d with
    | .undefined | .none => .error .badArguments
    | d => do
      let vs ← sequence d
      plain (.ok (vs.headD .undefined))
  | "last" =>
    if d.text?.isSome || d.elements?.isSome then do
      let vs ← sequence d
      plain (.ok (vs.getLastD .undefined))
    else .error .badArguments
  | "min" => do
    let vs ← sequence d
    plain (.ok (match vs with
      | [] => .undefined
      | v :: vs => vs.foldl (fun m w => if w.less m then w else m) v))
  | "max" => do
    let vs ← sequence d
    plain (.ok (match vs with
      | [] => .undefined
      | v :: vs => vs.foldl (fun m w => if w.less m then m else w) v))
  | "sort" =>
    match ← a.byName ["reverse", "attribute", "case_sensitive"] with
    | [rev, key, exact] =>
      let vs ← sequence d
      let vs := sortedBy (sortKey key exact) vs
      .ok (.list (if rev.isTrue then vs.reverse else vs))
    | _ => .error .badArguments
  | "list" => do
    let vs ← sequence d
    plain (.ok (.list vs))
  | "bool" => plain (.ok (.bool d.isTrue))
  | "batch" =>
    let (n, fill) ← a.two
    match n.int? with
    | some n =>
      if n ≤ 0 then .error .badArguments
      else
        let vs ← sequence d
        .ok (.list (batches n.toNat fill (vs.length + 1) vs))
    | none => .error .badArguments
  | "slice" =>
    let (n, fill) ← a.two
    match n.int? with
    | some (.ofNat n) =>
      if n = 0 then .error .badArguments
      else
        let vs ← sequence d
        .ok (.list (slices n fill vs))
    | _ => .error .badArguments
  | "indent" =>
    match ← a.positional 3 with
    | [width, first, blank] =>
      match width.int? with
      | some n => .ok (.text (indented n.toNat first.isTrue blank.isTrue d.printed))
      | none => .error .badArguments
    | _ => .error .badArguments
  | "unique" =>
    match ← a.byName ["case_sensitive", "attribute"] with
    | [exact, key] =>
      let vs ← sequence d
      .ok (.list (distinct (sortKey key exact) [] vs))
    | _ => .error .badArguments
  | "groupby" =>
    let named := a.named.filter fun p => p.1 != "default" && p.1 != "case_sensitive"
    let path ← match a.given, named with
      | [path], [] | [], [("attribute", path)] => .ok path
      | _, _ => .error .badArguments
    let other := (a.named.lookup "default").getD .undefined
    let exact := ((a.named.lookup "case_sensitive").getD (.bool false)).isTrue
    let vs ← sequence d
    .ok (grouped (memberOr · path other) (if exact then id else caseless) vs)
  | "chain" => if a.named.isEmpty then chained (d :: a.given) else .error .badArguments
  | "zip" =>
    if a.named.isEmpty then do
      let vss ← (d :: a.given).mapM sequence
      .ok (.list (zipped vss))
    else .error .badArguments
  | "pprint" => plain (.ok (.text d.spread))
  | "string" => plain (.ok (.text d.printed))
  | "sum" => do
    let vs ← sequence d
    let s ← sumOf vs
    plain (.ok s)
  | "safe" => plain (.ok (.markup d.printed))
  | "escape" | "e" =>
    plain (.ok (match d with
      | .markup s => .markup s
      | d => .markup (escapedText d.printed)))
  | _ => .error (.unknownFilter name)

/-- Whether an item passes the test that the arguments name; without a name it has to be true. -/
def passesArgs (d : Datum) (given : List Datum) : Except Fault Bool :=
  match given with
  | [] => .ok d.isTrue
  | name :: rest => passes name.printed d ⟨rest, []⟩

/-- The filters that apply a test or another filter to each item, and all others. -/
def applyFilter (name : String) (d : Datum) (a : Args) : Except Fault Datum := do
  match name with
  | "select" =>
    let vs ← sequence d
    .ok (.list (← vs.filterM fun v => passesArgs v a.given))
  | "reject" =>
    let vs ← sequence d
    .ok (.list (← vs.filterM fun v => (passesArgs v a.given).map (!·)))
  | "selectattr" =>
    let vs ← sequence d
    .ok (.list (← vs.filterM fun v =>
      passesArgs (memberAt v (a.given.headD .undefined)) (a.given.drop 1)))
  | "rejectattr" =>
    let vs ← sequence d
    .ok (.list (← vs.filterM fun v =>
      (passesArgs (memberAt v (a.given.headD .undefined)) (a.given.drop 1)).map (!·)))
  | "map" =>
    let vs ← sequence d
    match a.given, a.named.lookup "attribute" with
    | [], some key =>
      let other := (a.named.lookup "default").getD .undefined
      .ok (.list (vs.map (memberOr · key other)))
    | f :: rest, none => (vs.mapM fun v => simpleFilter f.printed v ⟨rest, a.named⟩).map .list
    | _, _ => .error .badArguments
  | _ => simpleFilter name d a

/-! ## Functions -/

/-- The integers from `start` below `stop`, by steps. -/
def rangeFrom (start step : Int) : Nat → List Datum
  | 0 => []
  | n + 1 => .int start :: rangeFrom (start + step) step n

def range (given : List Datum) : Except Fault Datum := do
  let (start, stop, step) ← match given.map (·.int?) with
    | [some stop] => .ok ((0 : Int), stop, (1 : Int))
    | [some start, some stop] => .ok (start, stop, 1)
    | [some start, some stop, some step] => .ok (start, stop, step)
    | _ => .error .badArguments
  if step = 0 then .error .badArguments
  else
    let count :=
      if 0 < step then ((stop - start + step - 1) / step).toNat
      else ((start - stop - step - 1) / (-step)).toNat
    if 100000 < count then .error .badArguments else .ok (.list (rangeFrom start step count))

/-- The functions that are always there. `debug` shows its arguments; without any it would show the inner state of
the engine, which is no part of a template's values. -/
def applyFunction (name : String) (a : Args) : Except Fault Datum :=
  match name with
  | "debug" =>
    match a.named, a.given with
    | [], [d] => .ok (.text d.spread)
    | [], d :: ds => .ok (.text (Datum.list (d :: ds)).spread)
    | _, _ => .error .badArguments
  | "range" => if a.named.isEmpty then range a.given else .error .badArguments
  | "dict" | "namespace" =>
    let named := a.named.map fun (k, v) => (Datum.text k, v)
    match a.given with
    | [] => .ok (Datum.recordOf named)
    | [.record ms] => .ok (Datum.recordOf (ms ++ named))
    | _ => .error .badArguments
  | _ => .error (.unknownFunction name)

end CycleLog.Template
