import CycleLog.Proofs.ReadBack
import CycleLog.Toml.Document

/-!
# Tables have each key once

No object in a TOML document has a key twice (`keyedOnce_of_read?`). Tables and the entries of a document
that is being read become objects by `Value.make`, which brings the members into order, so it suffices
that the values in them are made so (`Entry.KeyedOnce`); this is kept by all that changes a table
(`Table.within_keyedOnce`), and holds of every value that is read (`value?_keyedOnce`).
-/

namespace CycleLog
set_option autoImplicit false

/-! ## Values -/

namespace Json

/-- No object of the value has a key twice. -/
inductive Value.KeyedOnce : Value → Prop where
  | null : KeyedOnce .null
  | bool (b : Bool) : KeyedOnce (.bool b)
  | int (n : Int) : KeyedOnce (.int n)
  | real (x : Decimal.Binary64) : KeyedOnce (.real x)
  | text (s : String) : KeyedOnce (.text s)
  | list {vs : List Value} (items : ∀ v ∈ vs, KeyedOnce v) : KeyedOnce (.list vs)
  | object {ms : List Member} (keys : (ms.map Prod.fst).Nodup) (members : ∀ m ∈ ms, KeyedOnce m.2) :
    KeyedOnce (.object ms)

theorem mem_of_lookup {α : Type} {k : String} {a : α} {es : List (String × α)}
    (h : es.lookup k = some a) : (k, a) ∈ es := by
  obtain ⟨front, back, rfl, -⟩ := List.lookup_eq_some_iff.mp h
  simp

theorem InOrder.nodup_keys {ms : List Member} (h : InOrder ms) : (ms.map Prod.fst).Nodup :=
  List.pairwise_map.mpr (List.Pairwise.imp (fun hlt => ne_of_lt hlt) h)

theorem keyedOnce_make {ms : List Member} (h : ∀ m ∈ ms, m.2.KeyedOnce) :
    (Value.make ms).KeyedOnce := by
  obtain ⟨horder, hmem⟩ := foldl_insertMember_spec ms (List.Pairwise.nil : InOrder [])
  exact .object horder.nodup_keys fun n hn => h n ((hmem n hn).resolve_left List.not_mem_nil)

end Json

/-! ## Entries -/

namespace Toml

open Json (Value keyedOnce_make mem_of_lookup)

/-- The values in an entry have no key twice. -/
inductive Entry.KeyedOnce : Entry → Prop where
  | value {v : Value} (h : v.KeyedOnce) : KeyedOnce (.value v)
  | table (origin : Origin) {es : List (String × Entry)} (h : ∀ e ∈ es, KeyedOnce e.2) :
    KeyedOnce (.table origin es)
  | tables {rows : List (List (String × Entry))} (h : ∀ row ∈ rows, ∀ e ∈ row, KeyedOnce e.2) :
    KeyedOnce (.tables rows)

def Table.KeyedOnce (t : Table) : Prop := ∀ e ∈ t, e.2.KeyedOnce

theorem membersOf_eq_map (es : List (String × Entry)) :
    membersOf es = es.map fun e => (e.1, e.2.toValue) := by
  induction es with
  | nil => rfl
  | cons e es ih => rw [membersOf, ih, List.map_cons]

theorem rowsOf_eq_map (rows : List (List (String × Entry))) :
    rowsOf rows = rows.map fun row => Value.make (membersOf row) := by
  induction rows with
  | nil => rfl
  | cons row rows ih => rw [rowsOf, ih, List.map_cons]

theorem keyedOnce_membersOf {es : List (String × Entry)} (h : ∀ e ∈ es, e.2.toValue.KeyedOnce) :
    (Value.make (membersOf es)).KeyedOnce := by
  refine keyedOnce_make fun m hm => ?_
  rw [membersOf_eq_map] at hm
  obtain ⟨e, he, rfl⟩ := List.mem_map.mp hm
  exact h e he

theorem Entry.KeyedOnce.toValue {e : Entry} (h : e.KeyedOnce) : e.toValue.KeyedOnce := by
  induction h with
  | value h => exact h
  | table origin h ih => exact keyedOnce_membersOf ih
  | tables h ih =>
    refine .list fun v hv => ?_
    rw [rowsOf_eq_map, List.mem_reverse] at hv
    obtain ⟨row, hrow, rfl⟩ := List.mem_map.mp hv
    exact keyedOnce_membersOf (ih row hrow)

/-! ## Changes to a table -/

namespace Table

theorem keyedOnce_nil : Table.KeyedOnce [] := fun _ he => (List.not_mem_nil he).elim

theorem KeyedOnce.lookup {t : Table} (h : t.KeyedOnce) {k : String} {e : Entry}
    (he : List.lookup k t = some e) : e.KeyedOnce := h (k, e) (mem_of_lookup he)

theorem KeyedOnce.put {t : Table} (h : t.KeyedOnce) (k : String) {e : Entry} (he : e.KeyedOnce) :
    (t.put k e).KeyedOnce := by
  induction t with
  | nil =>
    intro f hf
    obtain rfl := List.mem_singleton.mp hf
    exact he
  | cons f t ih =>
    obtain ⟨hf, ht⟩ := List.forall_mem_cons.mp h
    rw [Table.put]
    split
    · exact List.forall_mem_cons.mpr ⟨he, ht⟩
    · exact List.forall_mem_cons.mpr ⟨hf, ih ht⟩

/-- A change that keeps what it is told of keeps the whole table. -/
theorem within_keyedOnce {fresh : Origin} {through : Origin → Bool}
    {change : Origin → Table → Option Table}
    (hchange : ∀ o t u, t.KeyedOnce → change o t = some u → u.KeyedOnce)
    {path : List String} {origin : Origin} {t u : Table} (ht : t.KeyedOnce)
    (h : within fresh through change origin path t = some u) : u.KeyedOnce := by
  induction path generalizing origin t u with
  | nil => exact hchange origin t u ht h
  | cons k ks ih =>
    rw [within] at h
    split at h
    · obtain ⟨inner, hinner, hu⟩ := Option.bind_eq_some_iff.mp h
      obtain rfl := Option.some.inj hu
      exact ht.put k (.table fresh (ih keyedOnce_nil hinner))
    · next o inner hlookup =>
      split at h
      · obtain ⟨inner', hinner, hu⟩ := Option.bind_eq_some_iff.mp h
        obtain rfl := Option.some.inj hu
        cases ht.lookup hlookup with
        | table _ hentries => exact ht.put k (.table o (ih hentries hinner))
      · cases h
    · next row rows hlookup =>
      obtain ⟨row', hrow, hu⟩ := Option.bind_eq_some_iff.mp h
      obtain rfl := Option.some.inj hu
      cases ht.lookup hlookup with
      | tables hrows =>
        obtain ⟨hfirst, hothers⟩ := List.forall_mem_cons.mp hrows
        exact ht.put k (.tables (List.forall_mem_cons.mpr ⟨ih hfirst hrow, hothers⟩))
    · cases h

theorem setNew_keyedOnce {k : String} {v : Value} (hv : v.KeyedOnce) {t u : Table}
    (ht : t.KeyedOnce) (h : setNew k v t = some u) : u.KeyedOnce := by
  unfold setNew at h
  split at h
  · obtain rfl := Option.some.inj h
    exact ht.put k (.value hv)
  · cases h

theorem set_keyedOnce {path : List String} {v : Value} (hv : v.KeyedOnce) {t u : Table}
    (ht : t.KeyedOnce) (h : t.set path v = some u) : u.KeyedOnce := by
  unfold set at h
  split at h
  · cases h
  · split at h
    · exact setNew_keyedOnce hv ht h
    · refine within_keyedOnce (fun o t u ht h => ?_) ht h
      split at h
      · exact setNew_keyedOnce hv ht h
      · cases h

theorem setIn_keyedOnce {opened path : List String} {v : Value} (hv : v.KeyedOnce) {t u : Table}
    (ht : t.KeyedOnce) (h : t.setIn opened path v = some u) : u.KeyedOnce :=
  within_keyedOnce (fun _ _ _ ht h => set_keyedOnce hv ht h) ht h

theorem begin_keyedOnce {path : List String} {t u : Table} (ht : t.KeyedOnce)
    (h : t.begin path = some u) : u.KeyedOnce := by
  unfold begin at h
  split at h
  · cases h
  · next k _ =>
    refine within_keyedOnce (fun o t u ht h => ?_) ht h
    split at h
    · obtain rfl := Option.some.inj h
      exact ht.put k (.table .opened keyedOnce_nil)
    · next inner hlookup =>
      obtain rfl := Option.some.inj h
      cases ht.lookup hlookup with
      | table _ hentries => exact ht.put k (.table .opened hentries)
    · cases h

theorem beginNext_keyedOnce {path : List String} {t u : Table} (ht : t.KeyedOnce)
    (h : t.beginNext path = some u) : u.KeyedOnce := by
  unfold beginNext at h
  split at h
  · cases h
  · next k _ =>
    refine within_keyedOnce (fun o t u ht h => ?_) ht h
    split at h
    · obtain rfl := Option.some.inj h
      exact ht.put k (.tables (List.forall_mem_singleton.mpr keyedOnce_nil))
    · next rows hlookup =>
      obtain rfl := Option.some.inj h
      cases ht.lookup hlookup with
      | tables hrows => exact ht.put k (.tables (List.forall_mem_cons.mpr ⟨keyedOnce_nil, hrows⟩))
    · cases h

end Table

/-! ## Values of a document -/

/-- Whatever value is given has no key twice. -/
def GivesKeyedOnce (x : Option (Value × List Char)) : Prop := ∀ v r, x = some (v, r) → v.KeyedOnce

theorem givesKeyedOnce_none : GivesKeyedOnce none := nofun

theorem givesKeyedOnce_some {v : Value} (h : v.KeyedOnce) (r : List Char) :
    GivesKeyedOnce (some (v, r)) := by
  rintro _ _ ⟨⟩
  exact h

theorem givesKeyedOnce_bind {α : Type} {x : Option α} {f : α → Option (Value × List Char)}
    (h : ∀ a, GivesKeyedOnce (f a)) : GivesKeyedOnce (x.bind f) := by
  intro v r heq
  obtain ⟨a, -, ha⟩ := Option.bind_eq_some_iff.mp heq
  exact h a v r ha

theorem givesKeyedOnce_map {α : Type} {x : Option α} {f : α → Value × List Char}
    (h : ∀ a, x = some a → (f a).1.KeyedOnce) : GivesKeyedOnce (x.map f) := by
  intro v r heq
  obtain ⟨a, ha, hf⟩ := Option.map_eq_some_iff.mp heq
  have hvalue := h a ha
  rwa [hf] at hvalue

theorem givesKeyedOnce_inRange (n : Int) (r : List Char) :
    GivesKeyedOnce ((inRange n).map (·, r)) := by
  refine givesKeyedOnce_map fun v hv => ?_
  unfold inRange at hv
  split at hv
  · obtain rfl := Option.some.inj hv
    exact .int n
  · cases hv

theorem givesKeyedOnce_unsigned (minus : Bool) (cs : List Char) :
    GivesKeyedOnce (unsigned minus cs) := by
  unfold unsigned
  dsimp only
  split
  · exact givesKeyedOnce_some (.real _) _
  · exact givesKeyedOnce_some (.real _) _
  · refine givesKeyedOnce_bind fun whole => ?_
    split
    · exact givesKeyedOnce_none
    · -- with a fraction or without, and then with an exponent or without
      split <;> refine givesKeyedOnce_bind fun fraction => givesKeyedOnce_bind fun e => ?_
      all_goals
        split
        · exact givesKeyedOnce_inRange _ _
        · split
          · exact givesKeyedOnce_some (.real _) _
          · exact givesKeyedOnce_none

theorem givesKeyedOnce_baseInteger (base : Nat) (cs : List Char) :
    GivesKeyedOnce (baseInteger base cs) :=
  givesKeyedOnce_bind fun _ => givesKeyedOnce_inRange _ _

theorem givesKeyedOnce_number? (cs : List Char) : GivesKeyedOnce (number? cs) := by
  unfold number?
  split
  · exact givesKeyedOnce_baseInteger 16 _
  · exact givesKeyedOnce_baseInteger 8 _
  · exact givesKeyedOnce_baseInteger 2 _
  · exact givesKeyedOnce_unsigned true _
  · exact givesKeyedOnce_unsigned false _
  · exact givesKeyedOnce_unsigned false _

theorem givesKeyedOnce_scalar? (cs : List Char) : GivesKeyedOnce (scalar? cs) := by
  unfold scalar?
  split
  · exact givesKeyedOnce_some (.bool true) _
  · exact givesKeyedOnce_some (.bool false) _
  · split
    · refine givesKeyedOnce_map fun r _ => ?_
      exact .object (by simp) (List.forall_mem_singleton.mpr (.text _))
    · exact givesKeyedOnce_number? cs

section Nested
variable {item : List Char → Option (Value × List Char)}

theorem keyedOnce_arrayItems (hitem : ∀ cs, GivesKeyedOnce (item cs)) {fuel : Nat} {cs r : List Char}
    {vs : List Value} (h : arrayItems item fuel cs = some (vs, r)) : ∀ v ∈ vs, v.KeyedOnce := by
  induction fuel generalizing cs vs r with
  | zero => cases h
  | succ fuel ih =>
    rw [arrayItems] at h
    obtain ⟨behind, -, h⟩ := Option.bind_eq_some_iff.mp h
    split at h
    · obtain ⟨rfl, -⟩ := Prod.mk.inj (Option.some.inj h)
      exact nofun
    · obtain ⟨⟨v, r₁⟩, hv, h⟩ := Option.bind_eq_some_iff.mp h
      obtain ⟨after, -, h⟩ := Option.bind_eq_some_iff.mp h
      split at h
      · obtain ⟨⟨ws, r₂⟩, hws, h⟩ := Option.bind_eq_some_iff.mp h
        obtain ⟨rfl, -⟩ := Prod.mk.inj (Option.some.inj h)
        exact List.forall_mem_cons.mpr ⟨hitem _ v r₁ hv, ih hws⟩
      · obtain ⟨rfl, -⟩ := Prod.mk.inj (Option.some.inj h)
        exact List.forall_mem_singleton.mpr (hitem _ v r₁ hv)
      · cases h

theorem keyedOnce_inlineMembers (hitem : ∀ cs, GivesKeyedOnce (item cs)) {fuel : Nat}
    {t u : Table} (ht : t.KeyedOnce) {cs r : List Char}
    (h : inlineMembers item fuel t cs = some (u, r)) : u.KeyedOnce := by
  induction fuel generalizing t cs with
  | zero => cases h
  | succ fuel ih =>
    rw [inlineMembers] at h
    obtain ⟨⟨path, r₁⟩, -, h⟩ := Option.bind_eq_some_iff.mp h
    obtain ⟨r₂, -, h⟩ := Option.bind_eq_some_iff.mp h
    obtain ⟨⟨v, r₃⟩, hv, h⟩ := Option.bind_eq_some_iff.mp h
    obtain ⟨t', hset, h⟩ := Option.bind_eq_some_iff.mp h
    have ht' := Table.set_keyedOnce (hitem _ v r₃ hv) ht hset
    split at h
    · exact ih ht' h
    · obtain ⟨rfl, -⟩ := Prod.mk.inj (Option.some.inj h)
      exact ht'
    · cases h

end Nested

theorem Table.KeyedOnce.toValue {t : Table} (h : t.KeyedOnce) :
    (Value.make (membersOf t)).KeyedOnce :=
  keyedOnce_membersOf fun e he => (h e he).toValue

theorem givesKeyedOnce_value? (depth : Nat) (cs : List Char) : GivesKeyedOnce (value? depth cs) := by
  induction depth generalizing cs with
  | zero =>
    unfold value?
    split
    · exact givesKeyedOnce_map fun _ _ => .text _
    · exact givesKeyedOnce_map fun _ _ => .text _
    · next h => cases h
    · next h => cases h
    · exact givesKeyedOnce_scalar? _
  | succ depth ih =>
    unfold value?
    split
    · exact givesKeyedOnce_map fun _ _ => .text _
    · exact givesKeyedOnce_map fun _ _ => .text _
    · next h =>
      obtain rfl := Nat.succ.inj h
      refine givesKeyedOnce_map fun found hfound => ?_
      exact .list (keyedOnce_arrayItems ih hfound)
    · next h =>
      obtain rfl := Nat.succ.inj h
      split
      · exact givesKeyedOnce_some Table.keyedOnce_nil.toValue _
      · refine givesKeyedOnce_map fun found hfound => ?_
        exact (keyedOnce_inlineMembers ih Table.keyedOnce_nil hfound).toValue
    · exact givesKeyedOnce_scalar? _

/-! ## Documents -/

theorem line_keyedOnce {d e : Reading} {cs r : List Char} (hd : d.table.KeyedOnce)
    (h : line d cs = some (e, r)) : e.table.KeyedOnce := by
  unfold line at h
  split at h
  · obtain ⟨⟨path, r₁⟩, -, h⟩ := Option.bind_eq_some_iff.mp h
    obtain ⟨r₂, -, h⟩ := Option.bind_eq_some_iff.mp h
    obtain ⟨r₃, -, h⟩ := Option.bind_eq_some_iff.mp h
    obtain ⟨t, ht, h⟩ := Option.bind_eq_some_iff.mp h
    obtain ⟨rfl, -⟩ := Prod.mk.inj (Option.some.inj h)
    exact Table.beginNext_keyedOnce hd ht
  · obtain ⟨⟨path, r₁⟩, -, h⟩ := Option.bind_eq_some_iff.mp h
    obtain ⟨r₂, -, h⟩ := Option.bind_eq_some_iff.mp h
    obtain ⟨t, ht, h⟩ := Option.bind_eq_some_iff.mp h
    obtain ⟨rfl, -⟩ := Prod.mk.inj (Option.some.inj h)
    exact Table.begin_keyedOnce hd ht
  · obtain ⟨⟨path, r₁⟩, -, h⟩ := Option.bind_eq_some_iff.mp h
    obtain ⟨r₂, -, h⟩ := Option.bind_eq_some_iff.mp h
    obtain ⟨⟨v, r₃⟩, hv, h⟩ := Option.bind_eq_some_iff.mp h
    obtain ⟨t, ht, h⟩ := Option.bind_eq_some_iff.mp h
    obtain ⟨rfl, -⟩ := Prod.mk.inj (Option.some.inj h)
    exact Table.setIn_keyedOnce (givesKeyedOnce_value? _ _ v r₃ hv) hd ht

theorem lines_keyedOnce {fuel : Nat} {d e : Reading} {cs : List Char} (hd : d.table.KeyedOnce)
    (h : lines fuel d cs = some e) : e.table.KeyedOnce := by
  induction fuel generalizing d cs with
  | zero => cases h
  | succ fuel ih =>
    rw [lines] at h
    obtain ⟨r, -, h⟩ := Option.bind_eq_some_iff.mp h
    split at h
    · obtain rfl := Option.some.inj h
      exact hd
    · obtain ⟨⟨d', r₁⟩, hline, h⟩ := Option.bind_eq_some_iff.mp h
      have hd' := line_keyedOnce hd hline
      obtain ⟨r₂, -, h⟩ := Option.bind_eq_some_iff.mp h
      split at h
      · obtain rfl := Option.some.inj h
        exact hd'
      · obtain ⟨r₃, -, h⟩ := Option.bind_eq_some_iff.mp h
        exact ih hd' h

/-- A document has each key once, in every table. -/
theorem keyedOnce_of_read? {s : String} {v : Value} (h : read? s = some v) : v.KeyedOnce := by
  obtain ⟨d, hd, h⟩ := Option.bind_eq_some_iff.mp h
  obtain rfl := Option.some.inj h
  exact (lines_keyedOnce Table.keyedOnce_nil hd).toValue

end Toml
end CycleLog
