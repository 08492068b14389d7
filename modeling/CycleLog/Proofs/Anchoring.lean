import CycleLog.Proofs.Parenthesizing
import CycleLog.Phase.FileKind

/-!
# Patterns tied to the beginning of a name

A pattern is tied to the beginning of a name by its text: an edge at which a text starts stands in front of it, and a
group is written around it. That gives what it says for a pattern that such a group holds (`Enclosable`). Then the
text reads as the edge with the pattern behind it (`readList_tiedText`), so the kind of a file depends on which of the
two patterns describes the beginning of its name (`FilePatterns.kind_iff_foundAtStart`). Of the texts that are
patterns on their own, no others are taken (`FilePatterns.make_iff_enclosable`).
-/

namespace CycleLog.Pattern
set_option autoImplicit false

open Leaves

/-! ## The reading of a pattern -/

/-- What is read of a pattern, up to a closing parenthesis that closes none of its groups. -/
def reading? (cs : List Char) : Option (Progress × Cursor) :=
  group? (cs.length + 1) ⟨.standard, [], cs⟩ .start

/-- The whole text is read. -/
def Whole (cs : List Char) : Prop := ∃ x, x ∈ reading? cs ∧ x.2.rest = []

/-- A closing parenthesis closes none of the groups of the pattern. -/
def ClosesEarly (cs : List Char) : Prop := ∃ x, x ∈ reading? cs ∧ x.2.rest ≠ []

/-- A closing parenthesis behind the pattern would stand in a comment. -/
def EndsInComment (cs : List Char) : Prop := Whole cs ∧ Whole (cs ++ [')'])

/-- The pattern in a group, behind the edge at which a text starts. -/
def tiedText (cs : List Char) : List Char := '^' :: '(' :: '?' :: ':' :: (cs ++ [')'])

/-- A group around a pattern holds the pattern as it is: no closing parenthesis of the pattern closes it, the one
behind the pattern does, and the bounds on nesting and size treat both alike. -/
structure Enclosable (fits : SizeLimit) (cs : List Char) : Prop where
  closed : ¬ ClosesEarly cs
  uncommented : ¬ EndsInComment cs
  nesting : ∀ x ∈ reading? cs, x.1.depth ≤ depthLimit → x.1.depth + 2 ≤ depthLimit
  size : fits (tiedText cs) = fits cs

instance (cs : List Char) : Decidable (Whole cs) :=
  inferInstanceAs (Decidable (∃ x, x ∈ reading? cs ∧ x.2.rest = []))

instance (cs : List Char) : Decidable (ClosesEarly cs) :=
  inferInstanceAs (Decidable (∃ x, x ∈ reading? cs ∧ x.2.rest ≠ []))

instance (cs : List Char) : Decidable (EndsInComment cs) :=
  inferInstanceAs (Decidable (Whole cs ∧ Whole (cs ++ [')'])))

instance (fits : SizeLimit) (cs : List Char) : Decidable (Enclosable fits cs) :=
  decidable_of_iff (¬ ClosesEarly cs ∧ ¬ EndsInComment cs ∧
      (∀ x ∈ reading? cs, x.1.depth ≤ depthLimit → x.1.depth + 2 ≤ depthLimit) ∧ fits (tiedText cs) = fits cs)
    ⟨fun h => ⟨h.1, h.2.1, h.2.2.1, h.2.2.2⟩, fun h => ⟨h.closed, h.uncommented, h.nesting, h.size⟩⟩

section Bounds
variable {fits : SizeLimit} {cs : List Char}

theorem readList_eq : readList? fits cs = (reading? cs).bind fun x =>
    if x.2.rest = [] ∧ x.1.depth ≤ depthLimit ∧ fits cs then some x.1.done else none := by
  rw [readList?, reading?]
  rfl

theorem readList_eq_some_iff {p : Pattern} : readList? fits cs = some p ↔
    ∃ x, reading? cs = some x ∧ x.2.rest = [] ∧ x.1.depth ≤ depthLimit ∧ fits cs ∧ x.1.done = p := by
  rw [readList_eq, Option.bind_eq_some_iff]
  refine exists_congr fun x => and_congr_right fun _ => ?_
  constructor
  · intro h
    split at h
    · next hx => exact ⟨hx.1, hx.2.1, hx.2.2, Option.some.inj h⟩
    · cases h
  · rintro ⟨hrest, hdepth, hsize, rfl⟩
    exact if_pos ⟨hrest, hdepth, hsize⟩

theorem readList_eq_none (h : reading? cs = none) : readList? fits cs = none := by
  rw [readList_eq, h]
  rfl

end Bounds

/-- More fuel does not change what is read. -/
theorem group_mono {fuel fuel' : Nat} (h : fuel ≤ fuel') {cur : Cursor} {g : Progress}
    {x : Progress × Cursor} (hx : group? fuel cur g = some x) : group? fuel' cur g = some x := by
  induction fuel generalizing fuel' cur g x with
  | zero => cases hx
  | succ fuel ih =>
    obtain ⟨fuel', rfl⟩ := Nat.exists_eq_succ_of_ne_zero (Nat.ne_of_gt (Nat.zero_lt_of_lt h))
    have hon {cur : Cursor} {g : Progress} {x : Progress × Cursor} (hx : group? fuel cur g = some x) :
        group? fuel' cur g = some x := ih (Nat.le_of_succ_le_succ h) hx
    cases hskip : cur.mode.skip cur.rest with
    | nil =>
      rw [group?_nil hskip] at hx ⊢
      exact hx
    | cons c r =>
      by_cases hclose : c = ')'
      · subst hclose
        rw [group?_close hskip] at hx ⊢
        exact hx
      by_cases hopen : c = '('
      · subst hopen
        rw [group?_open hskip] at hx ⊢
        obtain ⟨⟨o, r⟩, ho, hx⟩ := Option.bind_eq_some_iff.mp hx
        refine Option.bind_eq_some_iff.mpr ⟨(o, r), ho, ?_⟩
        cases o with
        | settings m => exact hon hx
        | group m names =>
          obtain ⟨y, hy, hx⟩ := Option.bind_eq_some_iff.mp hx
          refine Option.bind_eq_some_iff.mpr ⟨y, hon hy, ?_⟩
          rw [behindGroup?] at hx ⊢
          split at hx
          · exact hon hx
          · cases hx
      · rw [group?_part hskip hopen hclose] at hx ⊢
        obtain ⟨y, hy, hx⟩ := Option.bind_eq_some_iff.mp hx
        exact Option.bind_eq_some_iff.mpr ⟨y, hy, hon hx⟩

/-! ## The group around a pattern -/

/-- The edge in front of the group. -/
def edgeFirst : Progress := Progress.start.push (.edge .textStart) 0

theorem part_edge (r : List Char) : part? .standard .start '^' r = some (edgeFirst, r) := rfl

/-- What is read inside of the group. -/
def inside? (cs : List Char) : Option (Progress × Cursor) :=
  group? (cs.length + 4) ⟨.standard, [], cs ++ [')']⟩ .start

/-- The reading of the group and of what stands behind it. -/
theorem reading_tiedText (cs : List Char) :
    reading? (tiedText cs) = (inside? cs).bind (behindGroup? (cs.length + 4) .standard edgeFirst) := by
  have hlength : (tiedText cs).length + 1 = cs.length + 4 + 1 + 1 := by simp [tiedText]
  let cur : Cursor := ⟨.standard, [], '(' :: '?' :: ':' :: (cs ++ [')'])⟩
  have hopening : opening? cur ('?' :: ':' :: (cs ++ [')'])) = some (.group .standard [], cs ++ [')']) := rfl
  have hgroup : group? (cs.length + 4 + 1) cur edgeFirst =
      inner? (cs.length + 4) cur edgeFirst (.group .standard [], cs ++ [')']) := by
    rw [group?_open (r := '?' :: ':' :: (cs ++ [')'])) rfl, hopening, Option.bind_some]
  rw [reading?, hlength, group?_part (c := '^') rfl (by decide) (by decide), part_edge, Option.bind_some]
  exact hgroup

theorem inside_enclosed (cs : List Char) : Enclosed cs.length (reading? cs) (inside? cs) :=
  group_enclosed ⟨.standard, [], cs⟩ .start (Nat.lt_succ_self _) (by simp)

theorem inside_of_reading {cs : List Char} {x : Progress × Cursor}
    (h : reading? (cs ++ [')']) = some x) : inside? cs = some x :=
  group_mono (by simp) h

theorem depth_push_edge (p : Pattern) (d : Nat) : (edgeFirst.push p (d + 1)).depth = d + 2 := by
  simp [edgeFirst, Progress.start, Progress.push, Progress.depth, rowDepth]

section Group
variable {fits : SizeLimit} {cs : List Char} {x : Progress × Cursor}

/-- The parenthesis behind the pattern closes the group. -/
theorem readList_of_kept (h : inside? cs = some (tied x)) (hrest : x.2.rest = []) {p : Pattern} :
    readList? fits (tiedText cs) = some p ↔
      x.1.depth + 2 ≤ depthLimit ∧ fits (tiedText cs) ∧ p = .seq (.edge .textStart) x.1.done := by
  obtain ⟨g, mode, names, rest⟩ := x
  obtain rfl : rest = [] := hrest
  have hreading : reading? (tiedText cs) =
      some (edgeFirst.push g.done (g.depth + 1), ⟨.standard, names, []⟩) := by
    rw [reading_tiedText, h, Option.bind_some]
    change group? (cs.length + 4) ⟨.standard, names, []⟩ (edgeFirst.push g.done (g.depth + 1)) = _
    exact group_empty (Nat.succ_ne_zero _) _ _ _
  have hdone : (edgeFirst.push g.done (g.depth + 1)).done = .seq (.edge .textStart) g.done := rfl
  rw [readList_eq_some_iff, hreading]
  simp only [Option.some.injEq, exists_eq_left', depth_push_edge, hdone, true_and, eq_comm (a := p)]

/-- The group stays open. -/
theorem readList_of_open (h : ∀ x, inside? cs = some x → x.2.rest = []) :
    readList? fits (tiedText cs) = none := by
  refine readList_eq_none ?_
  rw [reading_tiedText]
  cases hx : inside? cs with
  | none => rfl
  | some x => simp only [Option.bind_some, behindGroup?, h x hx]

/-- Behind a pattern that is read to its end stands a parenthesis, unless the end lies in a comment. -/
theorem inside_of_reading_some (h : reading? cs = some x) :
    (reading? (cs ++ [')']) = some (tied x) ∧ inside? cs = some (tied x)) ∨
      (reading? (cs ++ [')']) = some x ∧ inside? cs = some x) := by
  have htied : Enclosed cs.length (reading? cs) (reading? (cs ++ [')'])) :=
    group_enclosed ⟨.standard, [], cs⟩ .start (Nat.lt_succ_self _) (by simp)
  rw [h] at htied
  generalize hy : reading? (cs ++ [')']) = y at htied
  cases htied with
  | kept _ => exact .inl ⟨rfl, inside_of_reading hy⟩
  | swallowed _ => exact .inr ⟨rfl, inside_of_reading hy⟩

theorem not_closesEarly_of_whole (h : reading? cs = some x) (hrest : x.2.rest = []) : ¬ ClosesEarly cs := by
  rintro ⟨y, hy, hopen⟩
  obtain rfl : x = y := Option.some.inj (h.symm.trans hy)
  exact hopen hrest

/-- A pattern that is read to its end is tied as it is just when the parenthesis behind it closes the group and the
bounds leave room for the group. -/
theorem readList_tiedText_of_whole (h : reading? cs = some x) (hrest : x.2.rest = []) {q : Pattern} :
    readList? fits (tiedText cs) = some q ↔
      ¬ EndsInComment cs ∧ x.1.depth + 2 ≤ depthLimit ∧ fits (tiedText cs) ∧
        q = .seq (.edge .textStart) x.1.done := by
  rcases inside_of_reading_some h with ⟨hbehind, hinside⟩ | ⟨hbehind, hinside⟩
  -- the parenthesis closes the group
  · have huncommented : ¬ EndsInComment cs := by
      rintro ⟨-, y, hy, hnil⟩
      obtain rfl : tied x = y := Option.some.inj (hbehind.symm.trans hy)
      exact List.append_ne_nil_of_right_ne_nil x.2.rest (List.cons_ne_nil ')' []) hnil
    rw [readList_of_kept hinside hrest]
    exact ⟨fun hroom => ⟨huncommented, hroom⟩, And.right⟩
  -- it lies in the comment at the end, so nothing closes the group
  · have hcommented : EndsInComment cs := ⟨⟨x, h, hrest⟩, x, hbehind, hrest⟩
    have hnone : readList? fits (tiedText cs) = none := by
      refine readList_of_open fun y hy => ?_
      obtain rfl : x = y := Option.some.inj (hinside.symm.trans hy)
      exact hrest
    rw [hnone]
    exact ⟨nofun, fun hclosed => absurd hcommented hclosed.1⟩

/-- A pattern is tied as it is just when a group around it holds it and nothing else. -/
theorem readList_tiedText_iff {p q : Pattern} (h : readList? fits cs = some p) :
    readList? fits (tiedText cs) = some q ↔ Enclosable fits cs ∧ q = .seq (.edge .textStart) p := by
  obtain ⟨x, hx, hrest, hdepth, hsize, rfl⟩ := readList_eq_some_iff.mp h
  rw [readList_tiedText_of_whole hx hrest]
  constructor
  · rintro ⟨huncommented, hroom, htied, rfl⟩
    have hnesting : ∀ y ∈ reading? cs, y.1.depth ≤ depthLimit → y.1.depth + 2 ≤ depthLimit := by
      intro y hy _
      obtain rfl : x = y := Option.some.inj (hx.symm.trans hy)
      exact hroom
    exact ⟨⟨not_closesEarly_of_whole hx hrest, huncommented, hnesting, htied.trans hsize.symm⟩, rfl⟩
  · rintro ⟨hencl, rfl⟩
    exact ⟨hencl.uncommented, hencl.nesting x hx hdepth, hencl.size.trans hsize, rfl⟩

/-- What is no pattern is none in such a group either. -/
theorem readList_tiedText_eq_none (h : readList? fits cs = none) (hencl : Enclosable fits cs) :
    readList? fits (tiedText cs) = none := by
  cases hx : reading? cs with
  | none =>
    refine readList_of_open fun y hy => ?_
    -- where the parenthesis makes a whole of the pattern, it closes no group any more
    have hinside := inside_enclosed cs
    rw [hx, hy] at hinside
    cases hinside with
    | used nothing => exact nothing
  | some x =>
    have hrest : x.2.rest = [] := Decidable.byContradiction fun hne => hencl.closed ⟨x, hx, hne⟩
    rw [Option.eq_none_iff_forall_ne_some]
    intro q hq
    obtain ⟨-, hdepth, hsize, -⟩ := (readList_tiedText_of_whole hx hrest).mp hq
    have hsome : readList? fits cs = some x.1.done :=
      readList_eq_some_iff.mpr ⟨x, hx, hrest, by omega, hencl.size.symm.trans hsize, rfl⟩
    cases h.symm.trans hsome

/-- The edge at which a text starts, with the pattern behind it. -/
theorem readList_tiedText (h : Enclosable fits cs) :
    readList? fits (tiedText cs) = (readList? fits cs).map (.seq (.edge .textStart) ·) := by
  cases hp : readList? fits cs with
  | none => exact readList_tiedText_eq_none hp h
  | some p => exact (readList_tiedText_iff hp).mpr ⟨h, rfl⟩

end Group

end CycleLog.Pattern

namespace CycleLog.Phase
set_option autoImplicit false

open Pattern

theorem toList_anchored (p : String) : (anchored p).toList = tiedText p.toList := by
  rw [anchored, String.toList_append, String.toList_append, tiedText]
  rfl

namespace FilePatterns
variable {fits : SizeLimit} {test source : String} {p : FilePatterns}

theorem make_eq_ok_iff : make test source fits = .ok p ↔
    read? fits (anchored test) = some p.test ∧ read? fits (anchored source) = some p.source := by
  rw [make]
  cases read? fits (anchored test) with
  | none => exact ⟨nofun, nofun⟩
  | some t =>
    cases read? fits (anchored source) with
    | none => exact ⟨nofun, nofun⟩
    | some s =>
      constructor
      · intro h
        cases h
        exact ⟨rfl, rfl⟩
      · rintro ⟨ht, hs⟩
        cases ht
        cases hs
        rfl

/-- Both patterns are tied as they are just when a group around each holds it and nothing else. -/
theorem make_iff_enclosable (ht : (read? fits test).isSome) (hs : (read? fits source).isSome) :
    (∃ p, make test source fits = .ok p) ↔ Enclosable fits test.toList ∧ Enclosable fits source.toList := by
  obtain ⟨t, ht⟩ := Option.isSome_iff_exists.mp ht
  obtain ⟨s, hs⟩ := Option.isSome_iff_exists.mp hs
  simp only [make_eq_ok_iff, read?, toList_anchored]
  constructor
  · rintro ⟨p, hp, hq⟩
    exact ⟨((readList_tiedText_iff ht).mp hp).1, ((readList_tiedText_iff hs).mp hq).1⟩
  · rintro ⟨hencl, hencl'⟩
    exact ⟨⟨_, _⟩, (readList_tiedText_iff ht).mpr ⟨hencl, rfl⟩, (readList_tiedText_iff hs).mpr ⟨hencl', rfl⟩⟩

theorem make_of_enclosable (ht : Enclosable fits test.toList) (hs : Enclosable fits source.toList) :
    make test source fits = .ok p ↔
      ∃ t s, read? fits test = some t ∧ read? fits source = some s ∧
        p = ⟨.seq (.edge .textStart) t, .seq (.edge .textStart) s⟩ := by
  simp only [make_eq_ok_iff, read?, toList_anchored, readList_tiedText ht, readList_tiedText hs,
    Option.map_eq_some_iff]
  constructor
  · rintro ⟨⟨t, ht, hp⟩, s, hs, hq⟩
    exact ⟨t, s, ht, hs, by rw [hp, hq]⟩
  · rintro ⟨t, s, ht, hs, rfl⟩
    exact ⟨⟨t, ht, rfl⟩, s, hs, rfl⟩

theorem found_tied {t : Pattern} {cs : String} (h : read? fits cs = some t) (name : String) :
    (Pattern.seq (.edge .textStart) t).found name = true ↔ FoundAtStart t name.toList.toArray := by
  have hproper : (Pattern.seq (.edge .textStart) t).Proper := ⟨trivial, proper_of_read h⟩
  rw [found_iff hproper, found_tied_iff]

/-- Of two patterns that a group holds, file patterns are made just when both are patterns, and then the kind of a
file depends on which of them describes the beginning of its name. -/
theorem kind_iff_foundAtStart (ht : Enclosable fits test.toList) (hs : Enclosable fits source.toList) :
    ((∃ p, make test source fits = .ok p) ↔ (read? fits test).isSome ∧ (read? fits source).isSome) ∧
      ∀ p, make test source fits = .ok p →
        ∃ t s, read? fits test = some t ∧ read? fits source = some s ∧
          ∀ name : String,
            (p.kind? name = some .test ↔ FoundAtStart t name.toList.toArray) ∧
              (p.kind? name = some .source ↔
                ¬ FoundAtStart t name.toList.toArray ∧ FoundAtStart s name.toList.toArray) ∧
              (p.kind? name = none ↔
                ¬ FoundAtStart t name.toList.toArray ∧ ¬ FoundAtStart s name.toList.toArray) := by
  simp only [make_of_enclosable ht hs]
  constructor
  · constructor
    · rintro ⟨_, t, s, ht, hs, -⟩
      exact ⟨ht ▸ rfl, hs ▸ rfl⟩
    · rintro ⟨ht, hs⟩
      obtain ⟨t, ht⟩ := Option.isSome_iff_exists.mp ht
      obtain ⟨s, hs⟩ := Option.isSome_iff_exists.mp hs
      exact ⟨_, t, s, ht, hs, rfl⟩
  · rintro _ ⟨t, s, ht, hs, rfl⟩
    refine ⟨t, s, ht, hs, fun name => ?_⟩
    have htest := found_tied ht name
    have hsource := found_tied hs name
    simp only [kind?, ← htest, ← hsource]
    cases (Pattern.seq (.edge .textStart) t).found name <;>
      cases (Pattern.seq (.edge .textStart) s).found name <;> simp

theorem kind_iff_foundAtStart_ofStandard :
    Enclosable .estimated ".*Test\\.java$".toList ∧ Enclosable .estimated ".*\\.java$".toList ∧
      ∃ p t, make ".*Test\\.java$" ".*\\.java$" .estimated = .ok p ∧
        read? .estimated ".*Test\\.java$" = some t ∧
        (p.kind? "RollTest.java" = some .test ↔ FoundAtStart t "RollTest.java".toList.toArray) := by
  have ht : Enclosable .estimated ".*Test\\.java$".toList := by decide +kernel
  have hs : Enclosable .estimated ".*\\.java$".toList := by decide +kernel
  have h := kind_iff_foundAtStart ht hs
  obtain ⟨p, hp⟩ := h.1.mpr (by decide +kernel)
  obtain ⟨t, s, hread, -, hkind⟩ := h.2 p hp
  exact ⟨ht, hs, p, t, hp, hread, (hkind "RollTest.java").1⟩

/-- A pattern that closes the group early is none on its own, but is taken, and found behind the beginning; and
one that ends in a comment is a pattern on its own, but is not taken. -/
theorem kind_ofTextBehindGroup :
    (read? .estimated "Test)|(?:Spec" = none ∧
      ∃ p, make "Test)|(?:Spec" ".*" .estimated = .ok p ∧ p.kind? "MySpec" = some .test) ∧
    (read? .estimated "(?x) a # c").isSome ∧ (read? .estimated ".").isSome ∧
      make "(?x) a # c" "." .estimated = .error (.testFile "(?x) a # c") := by
  have hearly : ∃ t, t ∈ read? .estimated (anchored "Test)|(?:Spec") ∧ t.found "MySpec" = true := by
    decide +kernel
  have hany : (read? .estimated (anchored ".*")).isSome := by decide +kernel
  have hcomment : read? .estimated (anchored "(?x) a # c") = none := by decide +kernel
  obtain ⟨t, ht, hfound⟩ := hearly
  obtain ⟨s, hs⟩ := Option.isSome_iff_exists.mp hany
  refine ⟨⟨by decide +kernel, ⟨t, s⟩, make_eq_ok_iff.mpr ⟨ht, hs⟩, if_pos hfound⟩, by decide +kernel,
    by decide +kernel, ?_⟩
  rw [make, hcomment]

end FilePatterns

end CycleLog.Phase
