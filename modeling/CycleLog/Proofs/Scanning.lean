import CycleLog.Text.Scan

/-!
# What the scanners take

Each scanner is described by how it splits a text: a run is a stretch of characters of one kind that
ends where the next character is of another one (`Stretch`), and a search ends at the first place where
the reader succeeds, behind a stretch where it does not (`Barren`).
-/

namespace CycleLog.Text
set_option autoImplicit false

/-! ## Stretches of one kind -/

/-- `w` holds characters of one kind only, and what follows does not begin with one. -/
structure Stretch (is : Char → Bool) (w r : List Char) : Prop where
  inside : ∀ c ∈ w, is c = true
  boundary : ∀ c ∈ r.head?, is c = false

section Stretch
variable {is : Char → Bool} {w r cs : List Char}

theorem Stretch.takeWhile_eq (h : Stretch is w r) : (w ++ r).takeWhile is = w := by
  have hr : r.takeWhile is = [] := by
    cases r with
    | nil => rfl
    | cons c r => simp [h.boundary c rfl]
  rw [List.takeWhile_append_of_pos h.inside, hr, List.append_nil]

theorem Stretch.dropWhile_eq (h : Stretch is w r) : (w ++ r).dropWhile is = r := by
  rw [List.dropWhile_append_of_pos h.inside]
  cases r with
  | nil => rfl
  | cons c r => simp [h.boundary c rfl]

theorem stretch_span (is : Char → Bool) (cs : List Char) :
    Stretch is (cs.takeWhile is) (cs.dropWhile is) where
  inside c hc := List.all_eq_true.mp List.all_takeWhile c hc
  boundary c hc := by
    have h := List.head?_dropWhile_not is cs
    rw [Option.mem_def.mp hc] at h
    simpa using h

theorem run?_eq_some_iff : run? is cs = some (w, r) ↔ cs = w ++ r ∧ w ≠ [] ∧ Stretch is w r := by
  unfold run?
  constructor
  · intro h
    split at h
    · cases h
    · next hne =>
      simp only [Option.some.injEq, Prod.mk.injEq] at h
      obtain ⟨rfl, rfl⟩ := h
      exact ⟨List.takeWhile_append_dropWhile.symm, hne, stretch_span is cs⟩
  · rintro ⟨rfl, hne, hs⟩
    rw [hs.takeWhile_eq, hs.dropWhile_eq]
    split
    · exact absurd rfl hne
    · rfl

theorem trimStart_append (h : Stretch isBlank w r) : trimStart (w ++ r) = r := h.dropWhile_eq

theorem blanks?_eq_run? (cs : List Char) : blanks? cs = (run? isBlank cs).map Prod.snd := by
  cases cs with
  | nil => rfl
  | cons c cs => cases hc : isBlank c <;> simp [blanks?, run?, trimStart, hc]

theorem blanks?_eq_some_iff : blanks? cs = some r ↔
    ∃ w, cs = w ++ r ∧ w ≠ [] ∧ Stretch isBlank w r := by
  rw [blanks?_eq_run?, Option.map_eq_some_iff]
  constructor
  · rintro ⟨⟨w, r⟩, h, rfl⟩
    exact ⟨w, run?_eq_some_iff.mp h⟩
  · rintro ⟨w, h⟩
    exact ⟨(w, r), run?_eq_some_iff.mpr h, rfl⟩

/-! ## What is left is an end of the text -/

theorem suffix_of_word? (h : word? w cs = some r) : r <:+ cs := by
  rw [word?_eq_some_iff.mp h]
  exact List.suffix_append w r

theorem suffix_of_run? (h : run? is cs = some (w, r)) : r <:+ cs := by
  rw [(run?_eq_some_iff.mp h).1]
  exact List.suffix_append w r

theorem trimStart_suffix (cs : List Char) : trimStart cs <:+ cs := List.dropWhile_suffix _

theorem suffix_of_blanks? (h : blanks? cs = some r) : r <:+ cs := by
  obtain ⟨w, rfl, -, -⟩ := blanks?_eq_some_iff.mp h
  exact List.suffix_append w r

/-! ## A character that may be left out -/

theorem skipOne_split (c : Char) (cs : List Char) :
    ∃ w, (w = [] ∨ w = [c]) ∧ cs = w ++ skipOne c cs := by
  cases cs with
  | nil => exact ⟨[], .inl rfl, rfl⟩
  | cons d cs =>
    by_cases h : c = d
    · exact ⟨[c], .inr rfl, by simp [skipOne, h]⟩
    · exact ⟨[], .inl rfl, by simp [skipOne, h]⟩

theorem skipOne_append {c : Char} (hw : w = [] ∨ w = [c]) (hr : r.head? ≠ some c) :
    skipOne c (w ++ r) = r := by
  rcases hw with rfl | rfl
  · cases r with
    | nil => rfl
    | cons d r =>
      have hd : c ≠ d := fun h => hr (congrArg some h.symm)
      simp [skipOne, hd]
  · simp [skipOne]

end Stretch

/-! ## Searches -/

section Search
variable {α : Type} {read : List Char → Option α}

/-- The reader succeeds at no place of `front`, where `rest` follows it. -/
def Barren (read : List Char → Option α) (front rest : List Char) : Prop :=
  ∀ a b, front = a ++ b → b ≠ [] → read (b ++ rest) = none

theorem barren_nil (rest : List Char) : Barren read [] rest := by
  intro a b hab hb
  exact absurd (List.append_eq_nil_iff.mp hab.symm).2 hb

theorem barren_cons {c : Char} {front rest : List Char} : Barren read (c :: front) rest ↔
    read (c :: (front ++ rest)) = none ∧ Barren read front rest := by
  constructor
  · intro h
    exact ⟨h [] (c :: front) rfl (List.cons_ne_nil _ _),
      fun a b hab => h (c :: a) b (by rw [hab, List.cons_append])⟩
  · rintro ⟨hc, h⟩ a b hab hb
    cases a with
    | nil =>
      obtain rfl : c :: front = b := hab
      exact hc
    | cons d a => exact h a b (List.cons.inj hab).2 hb

theorem barren_word {w front rest : List Char} (hfront : ¬ w <:+: front)
    (hrest : ∀ c ∈ rest.head?, c ∉ w.tail) : Barren (word? w) front rest := by
  rintro a b rfl hb
  rw [Option.eq_none_iff_forall_ne_some]
  intro r hr
  have hsplit := word?_eq_some_iff.mp hr
  rcases List.append_eq_append_iff.mp hsplit with ⟨behind, hw, hbehind⟩ | ⟨behind, hb', -⟩
  · cases behind with
    | nil =>
      rw [hw, List.append_nil] at hfront
      exact hfront (List.suffix_append a b).isInfix
    | cons c behind =>
      -- the word ends in what follows, so a later character of it stands at the front there
      have hc : c ∈ w.tail := by
        rw [hw, List.tail_append_of_ne_nil hb]
        simp
      exact hrest c (by rw [hbehind]; rfl) hc
  · rw [hb'] at hfront
    exact hfront ⟨a, behind, by rw [List.append_assoc]⟩

/-- A search gives what the reader gives at the first place where it succeeds. -/
theorem firstAt?_eq_some_iff {cs : List Char} {x : α} : firstAt? read cs = some x ↔
    ∃ front rest, cs = front ++ rest ∧ read rest = some x ∧ Barren read front rest := by
  induction cs with
  | nil =>
    constructor
    · intro h
      exact ⟨[], [], rfl, h, barren_nil _⟩
    · rintro ⟨front, rest, heq, hread, -⟩
      obtain ⟨rfl, rfl⟩ := List.append_eq_nil_iff.mp heq.symm
      exact hread
  | cons c cs ih =>
    rw [firstAt?]
    cases hc : read (c :: cs) with
    | some y =>
      constructor
      · intro h
        exact ⟨[], c :: cs, rfl, hc.trans h, barren_nil _⟩
      · rintro ⟨front, rest, heq, hread, hbarren⟩
        cases front with
        | nil =>
          obtain rfl : c :: cs = rest := heq
          exact hc.symm.trans hread
        | cons d front =>
          rw [heq, List.cons_append, (barren_cons.mp hbarren).1] at hc
          cases hc
    | none =>
      refine ih.trans ⟨?_, ?_⟩
      · rintro ⟨front, rest, rfl, hread, hbarren⟩
        exact ⟨c :: front, rest, rfl, hread, barren_cons.mpr ⟨hc, hbarren⟩⟩
      · rintro ⟨front, rest, heq, hread, hbarren⟩
        cases front with
        | nil =>
          obtain rfl : c :: cs = rest := heq
          rw [hread] at hc
          cases hc
        | cons d front =>
          rw [List.cons_append] at heq
          exact ⟨front, rest, (List.cons.inj heq).2, hread, (barren_cons.mp hbarren).2⟩

end Search
end CycleLog.Text
