import CycleLog.Pattern.Basic

/-!
# Searching a text

`reach text p from_` gives the places that the pattern leads to from a set of places: a repetition
is followed until it leads to no new place. Places are kept in increasing order.
-/

namespace CycleLog.Pattern
set_option autoImplicit false

/-! ## Sets of places -/

/-- Puts a place among others, and does with the later ones what `rest` does. -/
def joinAt (x : Nat) (rest : List Nat → List Nat) : List Nat → List Nat
  | [] => x :: rest []
  | y :: ys =>
    if x < y then x :: rest (y :: ys)
    else if x = y then x :: rest ys
    else y :: joinAt x rest ys

/-- The places in either list. -/
def join : List Nat → List Nat → List Nat
  | [], ys => ys
  | x :: xs, ys => joinAt x (join xs) ys

/-- The places in the first list and not in the second. -/
def without : List Nat → List Nat → List Nat
  | [], _ => []
  | x :: xs, ys =>
    match ys.dropWhile (· < x) with
    | [] => x :: xs
    | y :: later => if x = y then without xs later else x :: without xs (y :: later)

/-! ## Following a pattern -/

/-- Follows `step` until it leads to no place that is not yet seen, or `fuel` times. -/
def closure (step : List Nat → List Nat) : Nat → List Nat → List Nat → List Nat
  | 0, seen, _ => seen
  | fuel + 1, seen, last =>
    match without (step last) seen with
    | [] => seen
    | new => closure step fuel (join seen new) new

def repeatedly (step : List Nat → List Nat) : Nat → List Nat → List Nat
  | 0, places => places
  | n + 1, places =>
    match step places with
    | [] => []
    | next => repeatedly step n next

def reach (text : Array Char) : Pattern → List Nat → List Nat
  | .empty, places => places
  | .one set, places =>
    places.filterMap fun i =>
      match text[i]? with
      | some c => if set.has c then some (i + 1) else none
      | none => none
  | .edge e, places => places.filter fun i => e.holds text i
  | .seq p q, places => reach text q (reach text p places)
  | .either p q, places => join (reach text p places) (reach text q places)
  | .repeated p least most, places =>
    let start := repeatedly (reach text p) least places
    let fuel := match most with
      | none => text.size + 1
      | some n => min (n - least) (text.size + 1)
    closure (reach text p) fuel start start

/-! ## Decisions -/

def found (p : Pattern) (text : String) : Bool :=
  let cs := text.toList.toArray
  !(reach cs p (List.range (cs.size + 1))).isEmpty

theorem mem_joinAt {x : Nat} {rest : List Nat → List Nat} {xs ys : List Nat} {i : Nat}
    (h : ∀ ys, i ∈ rest ys ↔ i ∈ xs ∨ i ∈ ys) :
    i ∈ joinAt x rest ys ↔ i = x ∨ i ∈ xs ∨ i ∈ ys := by
  induction ys with
  | nil => simp [joinAt, h]
  | cons y ys ih =>
    rw [joinAt]
    split
    · rw [List.mem_cons, h]
    · split
      · next heq =>
        rw [List.mem_cons, h, List.mem_cons, ← heq]
        grind
      · rw [List.mem_cons, ih, List.mem_cons]
        grind

theorem mem_join {xs ys : List Nat} {i : Nat} : i ∈ join xs ys ↔ i ∈ xs ∨ i ∈ ys := by
  induction xs generalizing ys with
  | nil => simp [join]
  | cons x xs ih => rw [join, mem_joinAt fun _ => ih, List.mem_cons, or_assoc]

theorem mem_of_mem_without {xs ys : List Nat} {i : Nat} (h : i ∈ without xs ys) : i ∈ xs := by
  induction xs generalizing ys with
  | nil => cases h
  | cons x xs ih =>
    rw [without] at h
    split at h
    · exact h
    · split at h
      · exact List.mem_cons_of_mem _ (ih h)
      · rcases List.mem_cons.mp h with rfl | h
        · exact List.mem_cons_self
        · exact List.mem_cons_of_mem _ (ih h)

theorem mem_without {xs ys : List Nat} {i : Nat} (h : i ∈ xs) (hn : i ∉ ys) :
    i ∈ without xs ys := by
  induction xs generalizing ys with
  | nil => cases h
  | cons x xs ih =>
    rw [without]
    have hlater : i ∉ ys.dropWhile (· < x) := fun hi => hn ((List.dropWhile_sublist _).subset hi)
    split
    · exact h
    · next y later heq =>
      rw [heq] at hlater
      split
      · next hxy =>
        rcases List.mem_cons.mp h with rfl | h
        · exact absurd (hxy ▸ List.mem_cons_self) hlater
        · exact ih h fun hi => hlater (List.mem_cons_of_mem _ hi)
      · rcases List.mem_cons.mp h with rfl | h
        · exact List.mem_cons_self
        · exact List.mem_cons_of_mem _ (ih h hlater)

end CycleLog.Pattern
