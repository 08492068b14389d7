import CycleLog.Proofs.Tables

/-!
# Values along a path

What a value holds at the end of a path (`Value.at?`), and a value with one more value at the end of a
path (`Value.adding?`), which holds what it held at every path that parts from this one
(`at?_addedTo?_of_apart`).
-/

namespace CycleLog.Json
set_option autoImplicit false

/-! ## Values along a path -/

/-- Where a field stands: under its name in an object, or at its place in a list. -/
structure Slot where
  name : String
  place : Nat
deriving DecidableEq

def Value.slot? (p : Slot) : Value → Option Value
  | .object ms => ms.lookup p.name
  | .list vs => vs[p.place]?
  | _ => none

def Value.at? : List Slot → Value → Option Value
  | [], v => some v
  | p :: ps, v => (v.slot? p).bind (Value.at? ps)

theorem mem_insertMember_self (m : Member) (ms : List Member) : m ∈ insertMember m ms :=
  mem_of_lookup ((lookup_insertMember m.1 m.2 ms m.1).trans (if_pos rfl))

theorem Value.KeyedOnce.slot? {v u : Value} (hv : v.KeyedOnce) {p : Slot} (h : v.slot? p = some u) :
    u.KeyedOnce := by
  cases hv with
  | object _ hmembers => exact hmembers (p.name, u) (mem_of_lookup h)
  | list hitems => exact hitems u (List.mem_of_getElem? h)
  | null | bool | int | real | text => cases h

/-! ## Adding a value -/

/-- What is at hand with a value added at the end of a path, if there is none yet. Objects that the path
leads through are made where they are missing. -/
def addedTo? (u : Value) : List Slot → Option Value → Option Value
  | [], none => some u
  | [], some _ => none
  | p :: ps, v =>
    match v.getD (.object []) with
    | .object ms =>
      (addedTo? u ps (ms.lookup p.name)).map fun w => .object (insertMember (p.name, w) ms)
    | _ => none

def Value.adding? (v : Value) (path : List Slot) (u : Value) : Option Value := addedTo? u path (some v)

/-- Objects that lead to a value, with nothing beside it. -/
def Value.only (u : Value) : List Slot → Value
  | [] => u
  | p :: path => .object [(p.name, only u path)]

/-- The paths part at a name: neither leads through the end of the other. -/
def Slot.apart : List Slot → List Slot → Bool
  | p :: ps, q :: qs => p.name != q.name || apart ps qs
  | _, _ => false

section Adding
variable {u w : Value} {p : Slot} {path other : List Slot} {v : Option Value}

theorem addedTo?_cons (h : addedTo? u (p :: path) v = some w) :
    ∃ ms w', v.getD (.object []) = .object ms ∧ addedTo? u path (ms.lookup p.name) = some w' ∧
      w = .object (insertMember (p.name, w') ms) := by
  rw [addedTo?] at h
  split at h
  · next ms hms =>
    obtain ⟨w', hw', rfl⟩ := Option.map_eq_some_iff.mp h
    exact ⟨ms, w', hms, hw', rfl⟩
  · cases h

theorem at?_addedTo? (h : addedTo? u path v = some w) : w.at? path = some u := by
  induction path generalizing v w with
  | nil =>
    cases v with
    | none => exact h.symm
    | some _ => cases h
  | cons p path ih =>
    obtain ⟨ms, w', -, hw', rfl⟩ := addedTo?_cons h
    rw [Value.at?, Value.slot?, lookup_insertMember, if_pos rfl, Option.bind_some]
    exact ih hw'

theorem at?_addedTo?_of_apart (hapart : Slot.apart path other) (h : addedTo? u path v = some w) :
    w.at? other = v.bind (Value.at? other) := by
  induction path generalizing other v w with
  | nil => cases hapart
  | cons p path ih =>
    cases other with
    | nil => cases hapart
    | cons q other =>
      obtain ⟨ms, w', hms, hw', rfl⟩ := addedTo?_cons h
      have hv : v.bind (Value.at? (q :: other)) = (ms.lookup q.name).bind (Value.at? other) := by
        cases v with
        | none =>
          obtain rfl := Value.object.inj hms
          rfl
        | some v =>
          obtain rfl : v = .object ms := hms
          rfl
      rw [hv, Value.at?, Value.slot?, lookup_insertMember]
      by_cases hname : q.name = p.name
      · have hrest : Slot.apart path other := by simpa [Slot.apart, hname] using hapart
        rw [if_pos hname, hname]
        exact ih hrest hw'
      · rw [if_neg hname]

end Adding

end CycleLog.Json
