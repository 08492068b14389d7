import CycleLog.Decimal.Binary64

/-!
# JSON data

`Value` is a JSON document in memory. The members of an object are kept in the order of their keys,
each key once: `insertMember` keeps a list of members so, and a later member replaces an earlier one
of the same key.
-/

namespace CycleLog.Json
set_option autoImplicit false

open Decimal

inductive Value where
  | null
  | bool (b : Bool)
  /-- A number written as an integer that fits into sixty-four bits, with or without sign. -/
  | int (n : Int)
  | real (x : Binary64)
  | text (s : String)
  | list (items : List Value)
  | object (members : List (String × Value))
deriving Repr, Inhabited

abbrev Member := String × Value

/-! ## Equality -/

mutual

def Value.same : Value → Value → Bool
  | .null, .null => true
  | .bool a, .bool b => a == b
  | .int m, .int n => m == n
  | .real x, .real y => x == y
  | .text s, .text t => s == t
  | .list vs, .list ws => sameItems vs ws
  | .object ms, .object ns => sameMembers ms ns
  | _, _ => false

def sameItems : List Value → List Value → Bool
  | [], [] => true
  | v :: vs, w :: ws => v.same w && sameItems vs ws
  | _, _ => false

def sameMembers : List (String × Value) → List (String × Value) → Bool
  | [], [] => true
  | (k, v) :: ms, (l, w) :: ns => k == l && v.same w && sameMembers ms ns
  | _, _ => false

end

mutual

theorem Value.same_iff (v w : Value) : v.same w = true ↔ v = w := by
  cases v with
  | list vs => cases w <;> simp [Value.same, sameItems_iff vs]
  | object ms => cases w <;> simp [Value.same, sameMembers_iff ms]
  | _ => cases w <;> simp [Value.same]

theorem sameItems_iff (vs ws : List Value) : sameItems vs ws = true ↔ vs = ws := by
  cases vs with
  | nil => cases ws <;> simp [sameItems]
  | cons v vs => cases ws <;> simp [sameItems, Value.same_iff v, sameItems_iff vs]

theorem sameMembers_iff (ms ns : List (String × Value)) : sameMembers ms ns = true ↔ ms = ns := by
  cases ms with
  | nil => cases ns <;> simp [sameMembers]
  | cons m ms =>
    obtain ⟨k, v⟩ := m
    cases ns <;> simp [sameMembers, Value.same_iff v, sameMembers_iff ms, Prod.ext_iff, and_assoc]

end

instance : DecidableEq Value := fun v w => decidable_of_iff _ (Value.same_iff v w)

/-! ## Members in order -/

/-- Puts a member into its place, and in place of a member of the same key. -/
def insertMember (m : Member) : List Member → List Member
  | [] => [m]
  | n :: r =>
    if m.1 < n.1 then m :: n :: r
    else if m.1 = n.1 then m :: r
    else n :: insertMember m r

def ofMembers (ms : List Member) : List Member := ms.foldl (fun acc m => insertMember m acc) []

namespace Value

/-- An object with the given members, brought into order. -/
def make (ms : List Member) : Value := .object (ofMembers ms)

def ofNat (n : Nat) : Value := .int n

/-- The member of that key; nothing for what is no object. -/
def member? (v : Value) (key : String) : Option Value :=
  match v with
  | .object ms => ms.lookup key
  | _ => none

def text? : Value → Option String
  | .text s => some s
  | _ => none

def list? : Value → Option (List Value)
  | .list vs => some vs
  | _ => none

end Value

/-! ## Keys of a list of members -/

theorem lookup_member (k : String) (v : Value) (ms : List Member) (key : String) :
    List.lookup key ((k, v) :: ms) = if key = k then some v else List.lookup key ms := by
  by_cases h : key = k
  · simp [h]
  · have hb : (key == k) = false := by simpa using h
    simp [List.lookup_cons, h, hb]

theorem lookup_insertMember (k : String) (v : Value) (ms : List Member) (key : String) :
    (insertMember (k, v) ms).lookup key = if key = k then some v else ms.lookup key := by
  induction ms with
  | nil => simp [insertMember, lookup_member]
  | cons n r ih =>
    obtain ⟨l, w⟩ := n
    simp only [insertMember]
    split
    · simp [lookup_member]
    · split
      · next h =>
        subst h
        by_cases hk : key = k <;> simp [lookup_member, hk]
      · next h =>
        by_cases hk : key = k
        · subst hk
          simp [lookup_member, ih, h]
        · simp [lookup_member, ih, hk]

end CycleLog.Json
