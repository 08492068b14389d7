import CycleLog.Decimal.Layout
import CycleLog.Text.Quoted

/-!
# Values in a template

A `Datum` is what an expression of a template stands for. `printed` is the text that it puts into
the output, `inspected` the form that it has as an item of a list, and `spread` that form over several
lines. `compare` orders all data: by kind first, where numbers and truth values count as one kind.
-/

namespace CycleLog.Template
set_option autoImplicit false

open Decimal Text

inductive Datum where
  /-- What a name without value stands for. -/
  | undefined
  | none
  | bool (b : Bool)
  | int (n : Int)
  | real (x : Binary64)
  | text (s : String)
  /-- A text that is not to be escaped. -/
  | markup (s : String)
  | list (items : List Datum)
  /-- A list whose items go by names too. -/
  | tuple (names : List String) (items : List Datum)
  | record (members : List (Datum × Datum))
  /-- A function that is always there. -/
  | function (name : String)
  /-- A body that the template has given a name, as the number of its definition. -/
  | routine (name : String) (index : Nat)
  /-- The state of a loop at one of its items: its number among the loops begun so far, the number of
  recursive loops around it, the place of the item, and all items. -/
  | cursor (loop depth place : Nat) (items : List Datum)
deriving Repr, Inhabited

namespace Datum

def ofNat (n : Nat) : Datum := .int n

def ofChar (c : Char) : Datum := .text (String.singleton c)

def text? : Datum → Option String
  | .text s | .markup s => some s
  | _ => Option.none

/-- A truth value counts as zero or one. -/
def int? : Datum → Option Int
  | .bool b => some (if b then 1 else 0)
  | .int n => some n
  | _ => Option.none

def float? : Datum → Option Float
  | .bool b => some (if b then 1 else 0)
  | .int n => some (Float.ofInt n)
  | .real x => some x.toFloat
  | _ => Option.none

def isTrue : Datum → Bool
  | .undefined | .none => false
  | .bool b => b
  | .int n => n != 0
  | .real x => x.toFloat != 0
  | .text s | .markup s => !s.isEmpty
  | .list vs | .tuple _ vs => !vs.isEmpty
  | .record ms => !ms.isEmpty
  | .function _ | .routine _ _ | .cursor _ _ _ _ => true

def elements? : Datum → Option (List Datum)
  | .list vs | .tuple _ vs => some vs
  | _ => Option.none

/-- What the state of a loop tells at the item in that place. -/
def cursorMembers (depth place : Nat) (items : List Datum) : List (Datum × Datum) :=
  let n := items.length
  let item (k : Nat) : Datum := items.getD k .undefined
  [(.text "index0", .ofNat place), (.text "index", .ofNat (place + 1)), (.text "length", .ofNat n),
   (.text "revindex", .ofNat (n - place)), (.text "revindex0", .ofNat (n - place - 1)),
   (.text "first", .bool (place == 0)), (.text "last", .bool (place + 1 == n)),
   (.text "depth", .ofNat (depth + 1)), (.text "depth0", .ofNat depth),
   (.text "previtem", if place = 0 then .undefined else item (place - 1)),
   (.text "nextitem", item (place + 1))]

def members? : Datum → Option (List (Datum × Datum))
  | .record ms => some ms
  | .cursor _ depth place items => some (cursorMembers depth place items)
  | _ => Option.none

/-! ## Printing -/

def boolText (b : Bool) : String := if b then "True" else "False"

/-- The form of a datum without parts inside a list. -/
def inspectedScalar : Datum → List Char
  | .undefined => "undefined".toList
  | .none => "None".toList
  | .bool b => (boolText b).toList
  | .int n => (toString n).toList
  | .real x => (Layout.listed.text x).toList
  | .text s | .markup s => quotedList s.toList
  | .function name => name.toList
  | .routine name _ => "<macro ".toList ++ name.toList ++ ['>']
  | .cursor _ _ place items =>
    "<loop ".toList ++ (toString place).toList ++ ['/'] ++ (toString items.length).toList ++ ['>']
  | _ => []

/-- The beginning of a line, four blanks in for each level; nothing where there are no lines. -/
def lineStart : Option Nat → List Char
  | some level => '\n' :: List.replicate (4 * level) ' '
  | Option.none => []

/-- What stands behind a part. -/
def partEnd (level : Option Nat) (isLast : Bool) : List Char :=
  if level.isSome then [','] else if isLast then [] else [',', ' ']

/-- Parts in brackets; the closing one stands on a line of its own unless there are none. -/
def bracketed (level : Option Nat) (opening closing : Char) (parts : List Char) : List Char :=
  opening :: parts ++ (if parts.isEmpty then [] else lineStart level) ++ [closing]

mutual

def written (level : Option Nat) : Datum → List Char
  | .list vs | .tuple _ vs => bracketed level '[' ']' (writtenItems (level.map (· + 1)) vs)
  | .record ms => bracketed level '\x7b' '\x7d' (writtenMembers (level.map (· + 1)) ms)
  | d => inspectedScalar d

def writtenItems (level : Option Nat) : List Datum → List Char
  | [] => []
  | d :: ds =>
    lineStart level ++ written level d ++ partEnd level ds.isEmpty ++ writtenItems level ds

def writtenMembers (level : Option Nat) : List (Datum × Datum) → List Char
  | [] => []
  | (k, v) :: ms =>
    lineStart level ++ written level k ++ [':', ' '] ++ written level v ++
      partEnd level ms.isEmpty ++ writtenMembers level ms

end

def inspected (d : Datum) : String := String.ofList (written Option.none d)

def spread (d : Datum) : String := String.ofList (written (some 0) d)

def printed : Datum → String
  | .undefined => ""
  | .real x => Layout.plain.text x
  | .text s | .markup s => s
  | d => d.inspected

/-! ## Order -/

/-- The place of a kind among the kinds. -/
def rank : Datum → Nat
  | .undefined => 0
  | .none => 1
  | .bool _ => 2
  | .int _ | .real _ => 3
  | .text _ | .markup _ => 4
  | .list _ | .tuple _ _ => 6
  | .record _ | .cursor _ _ _ _ => 7
  | .function _ | .routine _ _ => 9

/-- Truth values and numbers by value, texts by code points; nothing for other data. -/
def compareScalars (a b : Datum) : Option Ordering :=
  match a.text?, b.text? with
  | some s, some t => some (Ord.compare s t)
  | _, _ =>
    match a.int?, b.int? with
    | some m, some n => some (Ord.compare m n)
    | _, _ =>
      match a.float?, b.float? with
      | some x, some y => some (if x < y then .lt else if x == y then .eq else .gt)
      | _, _ => Option.none

mutual

def compare : Datum → Datum → Ordering
  | .list vs, .list ws | .list vs, .tuple _ ws | .tuple _ vs, .list ws | .tuple _ vs, .tuple _ ws =>
    compareItems vs ws
  | .record ms, .record ns => compareMembers ms ns
  | a, b => (compareScalars a b).getD (Ord.compare a.rank b.rank)

def compareItems : List Datum → List Datum → Ordering
  | [], [] => .eq
  | [], _ :: _ => .lt
  | _ :: _, [] => .gt
  | v :: vs, w :: ws => (compare v w).then (compareItems vs ws)

def compareMembers : List (Datum × Datum) → List (Datum × Datum) → Ordering
  | [], [] => .eq
  | [], _ :: _ => .lt
  | _ :: _, [] => .gt
  | (k, v) :: ms, (l, w) :: ns =>
    ((compare k l).then (compare v w)).then (compareMembers ms ns)

end

def same (a b : Datum) : Bool := compare a b == .eq

def less (a b : Datum) : Bool := compare a b == .lt

/-! ## Members and items -/

def member? (d : Datum) (key : Datum) : Option Datum :=
  match d, key with
  | .tuple names vs, .text n | .tuple names vs, .markup n => (names.zip vs).lookup n
  | d, key => d.members?.bind fun ms => (ms.find? fun m => same m.1 key).map (·.2)

def named? (d : Datum) (name : String) : Option Datum := d.member? (.text name)

/-- Puts a member into its place, and in place of a member of the same key. -/
def insert (key value : Datum) : List (Datum × Datum) → List (Datum × Datum)
  | [] => [(key, value)]
  | m :: ms =>
    match compare key m.1 with
    | .lt => (key, value) :: m :: ms
    | .eq => (key, value) :: ms
    | .gt => m :: insert key value ms

def recordOf (ms : List (Datum × Datum)) : Datum :=
  .record (ms.foldl (fun acc m => insert m.1 m.2 acc) [])

/-- What a loop runs over: items, characters, keys. -/
def items? : Datum → Option (List Datum)
  | .undefined | .none => some []
  | .text s | .markup s => some (s.toList.map ofChar)
  | d => d.elements?.or (d.members?.map fun ms => ms.map (·.1))

/-- The place that an index means in a sequence of that length; a negative one counts from the
end. -/
def place? (n : Int) (length : Nat) : Option Nat :=
  let k := if n < 0 then n + length else n
  if 0 ≤ k ∧ k < length then some k.toNat else Option.none

/-- An item by its index or key. -/
def item (d key : Datum) : Datum :=
  match d.elements?, d.text?, key with
  | some vs, _, .int n => ((place? n vs.length).bind fun k => vs[k]?).getD .undefined
  | _, some s, .int n =>
    let cs := s.toList
    (((place? n cs.length).bind fun k => cs[k]?).map ofChar).getD .undefined
  | _, _, k => (d.member? k).getD .undefined

end Datum
end CycleLog.Template
