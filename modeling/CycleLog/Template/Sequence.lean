import CycleLog.Template.Operation
import CycleLog.Text.Case

/-!
# Sequences of data

The items of a sequence put into another order or into groups, joined, summed or made distinct.
-/

namespace CycleLog.Template
set_option autoImplicit false

open Text

/-- The items of a sequence. -/
def sequence (d : Datum) : Except Fault (List Datum) :=
  match d.items? with
  | some vs => .ok vs
  | none => .error .notIterable

def lengthOf : Datum → Except Fault Datum
  | .text s | .markup s => .ok (.ofNat s.length)
  | .undefined | .none => .error .badArguments
  | d => (sequence d).map fun vs => .ofNat vs.length

/-- The form of a value that decides its place when case does not count. -/
def caseless (d : Datum) : Datum :=
  match d.text? with
  | some s => .text (lowerText s)
  | none => d

/-- A member named by a path with points. -/
def memberAt (d : Datum) (path : Datum) : Datum :=
  match path with
  | .text s => (s.splitOn ".").foldl (fun d part =>
      match part.toNat? with
      | some n => d.item (.ofNat n)
      | none => (d.named? part).getD .undefined) d
  | k => d.item k

/-- What an item is compared by: a member of it if one is named, and without its case unless case
counts. -/
def sortKey (member exact v : Datum) : Datum :=
  let v := if member matches .undefined then v else memberAt v member
  if exact.isTrue then v else caseless v

def sortedBy (key : Datum → Datum) (vs : List Datum) : List Datum :=
  vs.mergeSort fun v w => !(key w).less (key v)

/-- A member by its path, or another value where there is none. -/
def memberOr (v path other : Datum) : Datum :=
  match memberAt v path with
  | .undefined => other
  | w => w

/-- Neighbours together whose keys have the same form, each group with the key of its last item. -/
def groups (key form : Datum → Datum) : List Datum → List (Datum × List Datum)
  | [] => []
  | v :: vs =>
    match groups key form vs with
    | (k, ws) :: gs =>
      if (form (key v)).same (form k) then (k, v :: ws) :: gs else (key v, [v]) :: (k, ws) :: gs
    | [] => [(key v, [v])]

/-- The items in groups of one key each, in the order of the keys. -/
def grouped (key form : Datum → Datum) (vs : List Datum) : Datum :=
  .list ((groups key form (sortedBy (fun v => form (key v)) vs)).map fun (k, ws) =>
    .tuple ["grouper", "list"] [k, .list ws])

def distinct (key : Datum → Datum) : List Datum → List Datum → List Datum
  | _, [] => []
  | seen, d :: ds =>
    if seen.any (·.same (key d)) then distinct key seen ds
    else d :: distinct key (key d :: seen) ds

/-- Groups of so many items; the last one may be filled up. -/
def batches (n : Nat) (fill : Datum) : Nat → List Datum → List Datum
  | 0, _ => []
  | fuel + 1, ds =>
    if ds.isEmpty then []
    else
      let group := ds.take n
      let pad := if fill.same .undefined then [] else List.replicate (n - group.length) fill
      .list (group ++ pad) :: batches n fill fuel (ds.drop n)

def sumOf (ds : List Datum) : Except Fault Datum :=
  ds.foldlM (fun acc d => add acc d) (.int 0)

def joined (d : Datum) (sep : String) : Except Fault Datum :=
  match d with
  | .undefined | .none => .ok (.text "")
  | d => (sequence d).map fun vs => .text (String.intercalate sep (vs.map (·.printed)))

/-- The items that stand in the same place of several sequences, as far as all of them go. -/
def zipped (vss : List (List Datum)) : List Datum :=
  let n := (vss.map List.length).min?.getD 0
  (List.range n).map fun i => .list (vss.map fun vs => vs.getD i .undefined)

/-- Several sequences in a row; of records the members of all, where the last one counts. -/
def chained (ds : List Datum) : Except Fault Datum :=
  match ds.mapM Datum.members? with
  | some mss => .ok (Datum.recordOf mss.flatten)
  | none => (ds.mapM sequence).map fun vss => .list vss.flatten

def reversed : Datum → Except Fault Datum
  | .text s | .markup s => .ok (.text (String.ofList s.toList.reverse))
  | d => (sequence d).map fun vs => .list vs.reverse

/-- Each member as a list of its key and its value. -/
def memberPairs (ms : List (Datum × Datum)) : List Datum := ms.map fun (k, v) => .list [k, v]

/-- So many groups of almost the same length, the longer ones first; a shorter one may be filled
up. -/
def slices (count : Nat) (fill : Datum) (ds : List Datum) : List Datum :=
  let least := ds.length / count
  let longer := ds.length % count
  (List.range count).map fun i =>
    let start := i * least + min i longer
    let group := (ds.drop start).take (if i < longer then least + 1 else least)
    .list (if i < longer || fill matches .undefined then group else group ++ [fill])

end CycleLog.Template
