/-!
# Tables over code points

A property of characters is kept as the code points at which it changes, in increasing order.
`Boundaries` is such a list for a yes/no property, which holds from an odd-numbered boundary to the
next one; a `LabelTable` gives each stretch a label. Both are written as run lengths.
-/

namespace CycleLog.Text
set_option autoImplicit false

/-! ## Counting the boundaries at or below a code point -/

/-- The number of entries at or below `n`, when the entries are in increasing order. -/
def countUpTo (starts : Array Nat) (n : Nat) : Nat :=
  narrow 0 starts.size 32
where
  /-- Halves the stretch that holds the answer, at most `fuel` times. -/
  narrow (lo hi : Nat) : Nat → Nat
    | 0 => lo
    | fuel + 1 =>
      if lo < hi then
        let mid := (lo + hi) / 2
        if starts.getD mid 0 ≤ n then narrow (mid + 1) hi fuel else narrow lo mid fuel
      else lo

/-! ## Yes/no properties -/

structure Boundaries where
  starts : Array Nat

/-- Reads blank-separated run lengths, beginning with a run outside the property. -/
def Boundaries.ofRuns (text : String) : Boundaries :=
  let step := fun (acc : Array Nat × Nat × Nat) (c : Char) =>
    let (starts, at_, run) := acc
    if c == ' ' then (starts.push (at_ + run), at_ + run, 0)
    else (starts, at_, run * 10 + (c.toNat - '0'.toNat))
  let (starts, at_, run) := text.toList.foldl step (#[], 0, 0)
  ⟨starts.push (at_ + run)⟩

def Boundaries.has (b : Boundaries) (c : Char) : Bool :=
  countUpTo b.starts c.toNat % 2 == 1

/-- Whether a code point lies in one of a few stretches, each given by its first and its last. -/
def within (stretches : List (Nat × Nat)) (n : Nat) : Bool :=
  stretches.any fun s => s.1 ≤ n && n ≤ s.2

/-! ## Labelled stretches -/

structure LabelTable where
  starts : Array Nat
  labels : Array String

/-- Reads labels, each followed by the length of its run. -/
def LabelTable.ofRuns (text : String) : LabelTable :=
  let close := fun (t : LabelTable) (at_ : Nat) (label : List Char) =>
    LabelTable.mk (t.starts.push at_) (t.labels.push (String.ofList label.reverse))
  let step := fun (acc : LabelTable × Nat × List Char × Nat) (c : Char) =>
    let (t, at_, label, run) := acc
    if c.isDigit then (t, at_, label, run * 10 + (c.toNat - '0'.toNat))
    else if run == 0 then (t, at_, c :: label, 0)
    else (close t at_ label, at_ + run, [c], 0)
  let (t, at_, label, _) := text.toList.foldl step (⟨#[], #[]⟩, 0, [], 0)
  close t at_ label

/-- The label of the stretch that holds code point `n`. -/
def LabelTable.label (t : LabelTable) (n : Nat) : String :=
  t.labels.getD (countUpTo t.starts n - 1) ""

end CycleLog.Text
