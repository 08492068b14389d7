import CycleLog.Pattern.Search

/-!
# A search finds what a pattern matches

`reach` leads from a set of places to those where a match of the pattern ends (`mem_reach`). A repetition
is a number of rounds (`matches_repeated_iff`). No round leads back, and one that does not lead on can be
left out, so as many rounds as the text is long lead wherever any number does (`Rounds.shorten`); and
the search goes on round by round until nothing new comes up (`mem_closure`).
-/

namespace CycleLog.Pattern
set_option autoImplicit false

/-! ## Rounds -/

/-- That many steps lead from one place to the other. -/
def Rounds (step : Nat → Nat → Prop) : Nat → Nat → Nat → Prop
  | 0, i, j => i = j
  | n + 1, i, j => ∃ k, step i k ∧ Rounds step n k j

section Rounds
variable {step : Nat → Nat → Prop}

theorem rounds_add {m n i j : Nat} :
    Rounds step (m + n) i j ↔ ∃ k, Rounds step m i k ∧ Rounds step n k j := by
  induction m generalizing i with
  | zero => simp [Rounds]
  | succ m ih =>
    rw [Nat.succ_add, Rounds]
    constructor
    · rintro ⟨k, hk, h⟩
      obtain ⟨l, hl, h⟩ := ih.mp h
      exact ⟨l, ⟨k, hk, hl⟩, h⟩
    · rintro ⟨l, ⟨k, hk, hl⟩, h⟩
      exact ⟨k, hk, ih.mpr ⟨l, hl, h⟩⟩

/-- A step never leads back, nor out of the text. -/
def Advances (size : Nat) (step : Nat → Nat → Prop) : Prop :=
  ∀ i j, step i j → i = j ∨ i < j ∧ j ≤ size

theorem Rounds.advances {size n i j : Nat} (hstep : Advances size step) (h : Rounds step n i j) :
    i = j ∨ i < j ∧ j ≤ size := by
  induction n generalizing i with
  | zero => exact .inl h
  | succ n ih =>
    obtain ⟨k, hk, h⟩ := h
    have hfirst := hstep i k hk
    have hrest := ih h
    omega

/-- Rounds that do not lead on can be left out. -/
theorem Rounds.shorten {size n i j : Nat} (hstep : Advances size step) (h : Rounds step n i j) :
    ∃ m, m ≤ n ∧ m ≤ size ∧ Rounds step m i j := by
  have hshort : ∃ m, m ≤ n ∧ m ≤ j - i ∧ Rounds step m i j := by
    induction n generalizing i with
    | zero => exact ⟨0, Nat.le_refl _, Nat.zero_le _, h⟩
    | succ n ih =>
      obtain ⟨k, hk, h⟩ := h
      obtain ⟨m, hmn, hmj, hm⟩ := ih h
      rcases hstep i k hk with rfl | ⟨hik, -⟩
      · exact ⟨m, by omega, hmj, hm⟩
      · have hkj := h.advances hstep
        exact ⟨m + 1, by omega, by omega, k, hk, hm⟩
  obtain ⟨m, hmn, hmj, hm⟩ := hshort
  have hij := h.advances hstep
  exact ⟨m, hmn, by omega, hm⟩

end Rounds

/-! ## Following a step -/

section Following
variable {follow : List Nat → List Nat} {step : Nat → Nat → Prop}

/-- `follow` leads from each place in a list where a step leads from it. -/
def Follows (follow : List Nat → List Nat) (step : Nat → Nat → Prop) : Prop :=
  ∀ places j, j ∈ follow places ↔ ∃ i ∈ places, step i j

theorem mem_repeatedly (h : Follows follow step) {n : Nat} {places : List Nat} {j : Nat} :
    j ∈ repeatedly follow n places ↔ ∃ i ∈ places, Rounds step n i j := by
  induction n generalizing places with
  | zero => simp [repeatedly, Rounds]
  | succ n ih =>
    have hnext : (∃ k ∈ follow places, Rounds step n k j) ↔
        ∃ i ∈ places, Rounds step (n + 1) i j := by
      constructor
      · rintro ⟨k, hk, hr⟩
        obtain ⟨i, hi, hs⟩ := (h places k).mp hk
        exact ⟨i, hi, k, hs, hr⟩
      · rintro ⟨i, hi, k, hs, hr⟩
        exact ⟨k, (h places k).mpr ⟨i, hi, hs⟩, hr⟩
    rw [← hnext, repeatedly]
    split
    · next hnil => simp [hnil]
    · exact ih

/-- A step from a seen place leads to a seen one, unless the place is among the last. -/
def SeenFrom (step : Nat → Nat → Prop) (seen last : List Nat) : Prop :=
  ∀ i ∈ seen, ∀ j, step i j → i ∈ last ∨ j ∈ seen

theorem mem_of_rounds {seen : List Nat} (hseen : ∀ i ∈ seen, ∀ j, step i j → j ∈ seen) {n i j : Nat}
    (hi : i ∈ seen) (h : Rounds step n i j) : j ∈ seen := by
  induction n generalizing i with
  | zero => exact (h : i = j) ▸ hi
  | succ n ih =>
    obtain ⟨k, hk, h⟩ := h
    exact ih (hseen i hi k hk) h

/-- Rounds from the seen places, and one round less from those together with the places to which one round
leads. -/
theorem rounds_from_join {seen last new : List Nat} (hseen : SeenFrom step seen last)
    (hround : ∀ i ∈ last, ∀ k, step i k → k ∈ seen ∨ k ∈ new)
    (hback : ∀ k ∈ new, ∃ i ∈ seen, step i k) {fuel j : Nat} :
    (∃ i ∈ join seen new, ∃ n ≤ fuel, Rounds step n i j) ↔
      ∃ i ∈ seen, ∃ n ≤ fuel + 1, Rounds step n i j := by
  constructor
  · rintro ⟨i, hi, n, hn, hr⟩
    rcases mem_join.mp hi with hi | hi
    · exact ⟨i, hi, n, by omega, hr⟩
    · obtain ⟨k, hk, hs⟩ := hback i hi
      exact ⟨k, hk, n + 1, by omega, i, hs, hr⟩
  · rintro ⟨i, hi, n, hn, hr⟩
    cases n with
    | zero => exact ⟨i, mem_join.mpr (.inl hi), 0, Nat.zero_le _, hr⟩
    | succ n =>
      obtain ⟨k, hk, hr⟩ := hr
      have hjoin : k ∈ join seen new := by
        refine mem_join.mpr ?_
        rcases hseen i hi k hk with hi | hk'
        · exact hround i hi k hk
        · exact .inl hk'
      exact ⟨k, hjoin, n, by omega, hr⟩

/-- The closure holds the places to which at most so many rounds lead from a seen one. -/
theorem mem_closure (h : Follows follow step) {fuel : Nat} {seen last : List Nat}
    (hlast : last ⊆ seen) (hseen : SeenFrom step seen last) {j : Nat} :
    j ∈ closure follow fuel seen last ↔ ∃ i ∈ seen, ∃ n ≤ fuel, Rounds step n i j := by
  induction fuel generalizing seen last with
  | zero => simp [closure, Rounds]
  | succ fuel ih =>
    rw [closure]
    -- what a round from the last places leads to is seen or new
    have hround : ∀ i ∈ last, ∀ k, step i k → k ∈ seen ∨ k ∈ without (follow last) seen := by
      intro i hi k hk
      by_cases hmem : k ∈ seen
      · exact .inl hmem
      · exact .inr (mem_without ((h last k).mpr ⟨i, hi, hk⟩) hmem)
    split
    · next hnil =>
      have hclosed : ∀ i ∈ seen, ∀ k, step i k → k ∈ seen := by
        intro i hi k hk
        rcases hseen i hi k hk with hi | hk'
        · refine (hround i hi k hk).resolve_right ?_
          rw [hnil]
          exact List.not_mem_nil
        · exact hk'
      constructor
      · intro hj
        exact ⟨j, hj, 0, Nat.zero_le _, rfl⟩
      · rintro ⟨i, hi, n, -, hr⟩
        exact mem_of_rounds hclosed hi hr
    · have hback : ∀ k ∈ without (follow last) seen, ∃ i ∈ seen, step i k := by
        intro k hk
        obtain ⟨i, hi, hs⟩ := (h last k).mp (mem_of_mem_without hk)
        exact ⟨i, hlast hi, hs⟩
      generalize without (follow last) seen = new at hround hback
      rw [ih (fun k hk => mem_join.mpr (.inr hk)) ?_]
      · exact rounds_from_join hseen hround hback
      · intro i hi k hk
        rcases mem_join.mp hi with hi | hi
        · refine .inr (mem_join.mpr ?_)
          rcases hseen i hi k hk with hi | hk'
          · exact hround i hi k hk
          · exact .inl hk'
        · exact .inl hi

end Following

/-! ## What a pattern matches -/

section Matches
variable {text : Array Char}

theorem Matches.advances {p : Pattern} : Advances text.size (Matches text p) := by
  intro i j h
  induction h with
  | empty | edge | stop => exact .inl rfl
  | @one set i c at_ _ =>
    have hi : i < text.size := (Array.getElem?_eq_some_iff.mp at_).choose
    omega
  | seq _ _ hleft hright => omega
  | left _ h | right _ h => exact h
  | again _ _ _ hfirst hrest => omega

/-- A number of rounds within the bounds of a repetition. -/
def Within (least : Nat) (most : Option Nat) (n : Nat) : Prop :=
  least ≤ n ∧ ∀ m, most = some m → n ≤ m

theorem Rounds.matches {p : Pattern} {n least : Nat} {most : Option Nat} {i j : Nat}
    (h : Rounds (Matches text p) n i j) (hn : Within least most n) :
    Matches text (.repeated p least most) i j := by
  induction n generalizing i least most with
  | zero =>
    obtain rfl : least = 0 := Nat.le_zero.mp hn.1
    obtain rfl : i = j := h
    exact .stop
  | succ n ih =>
    obtain ⟨k, hk, h⟩ := h
    refine .again ?_ hk (ih h ⟨by have := hn.1; omega, ?_⟩)
    · rintro rfl
      have := hn.2 0 rfl
      omega
    · rintro m hm
      obtain ⟨m, rfl, rfl⟩ := Option.map_eq_some_iff.mp hm
      have := hn.2 m rfl
      omega

theorem Matches.rounds {q : Pattern} {i j : Nat} (h : Matches text q i j) :
    ∀ p least most, q = .repeated p least most → (∀ m, most = some m → least ≤ m) →
      ∃ n, Within least most n ∧ Rounds (Matches text p) n i j := by
  induction h with
  | empty | one | edge | seq | left | right => intro _ _ _ heq; cases heq
  | stop =>
    rintro p least most ⟨⟩ -
    exact ⟨0, ⟨Nat.le_refl _, fun _ _ => Nat.zero_le _⟩, rfl⟩
  | @again p least most i j k more first rest _ ih =>
    rintro _ _ _ ⟨⟩ hproper
    have hpred : ∀ m, most.map (· - 1) = some m → least - 1 ≤ m := by
      intro m hm
      obtain ⟨m, rfl, rfl⟩ := Option.map_eq_some_iff.mp hm
      have := hproper m rfl
      omega
    obtain ⟨n, hn, hr⟩ := ih p (least - 1) (most.map (· - 1)) rfl hpred
    refine ⟨n + 1, ⟨by have := hn.1; omega, ?_⟩, j, first, hr⟩
    rintro m rfl
    have hm := hn.2 (m - 1) rfl
    have hne : m ≠ 0 := fun h => more (congrArg some h)
    omega

/-- Every repetition may end: it has to occur no more often than it may. -/
def Proper : Pattern → Prop
  | .empty | .one _ | .edge _ => True
  | .seq p q | .either p q => p.Proper ∧ q.Proper
  | .repeated p least most => p.Proper ∧ ∀ m, most = some m → least ≤ m

theorem matches_repeated_iff {p : Pattern} {least : Nat} {most : Option Nat}
    (h : ∀ m, most = some m → least ≤ m) {i j : Nat} :
    Matches text (.repeated p least most) i j ↔
      ∃ n, Within least most n ∧ Rounds (Matches text p) n i j :=
  ⟨fun hm => hm.rounds p least most rfl h, fun ⟨_, hn, hr⟩ => hr.matches hn⟩

/-- How many rounds a search in a text of that size makes behind those that a repetition has to make. -/
def spare (size least : Nat) : Option Nat → Nat
  | none => size + 1
  | some most => min (most - least) (size + 1)

theorem reach_repeated {p : Pattern} {least : Nat} {most : Option Nat} {places : List Nat} :
    reach text (.repeated p least most) places =
      closure (reach text p) (spare text.size least most)
        (repeatedly (reach text p) least places) (repeatedly (reach text p) least places) := by
  cases most <;> rfl

/-- As many rounds as the text is long suffice behind those that a repetition has to make. -/
theorem rounds_within_iff {step : Nat → Nat → Prop} {size : Nat} (hstep : Advances size step)
    {least : Nat} {most : Option Nat} (h : ∀ m, most = some m → least ≤ m) {i j : Nat} :
    (∃ n, Within least most n ∧ Rounds step n i j) ↔
      ∃ k, Rounds step least i k ∧ ∃ n ≤ spare size least most, Rounds step n k j := by
  have hspare : ∀ n, n ≤ spare size least most ↔
      n ≤ size + 1 ∧ ∀ m, most = some m → least + n ≤ m := by
    intro n
    cases most with
    | none => simp [spare]
    | some m =>
      have := h m rfl
      simp only [spare, Option.some.injEq, forall_eq']
      omega
  constructor
  · rintro ⟨n, hn, hr⟩
    obtain ⟨d, rfl⟩ := Nat.exists_eq_add_of_le hn.1
    obtain ⟨k, hleast, hd⟩ := rounds_add.mp hr
    obtain ⟨d', hd', hsize, hr⟩ := hd.shorten hstep
    refine ⟨k, hleast, d', (hspare d').mpr ⟨by omega, ?_⟩, hr⟩
    intro m hm
    have := hn.2 m hm
    omega
  · rintro ⟨k, hleast, d, hd, hr⟩
    exact ⟨least + d, ⟨Nat.le_add_right _ _, ((hspare d).mp hd).2⟩, rounds_add.mpr ⟨k, hleast, hr⟩⟩

/-- The search leads from a place to all places where a match that starts there ends. -/
theorem mem_reach {p : Pattern} (hp : p.Proper) : Follows (reach text p) (Matches text p) := by
  intro places j
  induction p generalizing places j with
  | empty =>
    rw [reach]
    exact ⟨fun h => ⟨j, h, .empty j⟩, fun ⟨i, hi, h⟩ => by cases h; exact hi⟩
  | one set =>
    rw [reach, List.mem_filterMap]
    refine exists_congr fun i => and_congr_right fun _ => ?_
    constructor
    · intro h
      split at h
      · next c hc =>
        split at h
        · next hset => cases h; exact .one hc hset
        · cases h
      · cases h
    · intro h
      cases h with
      | one hc hset => simp [hc, hset]
  | edge e =>
    rw [reach, List.mem_filter]
    exact ⟨fun h => ⟨j, h.1, .edge h.2⟩, fun ⟨i, hi, h⟩ => by cases h with | edge h => exact ⟨hi, h⟩⟩
  | seq p q ihp ihq =>
    rw [reach, ihq hp.2]
    constructor
    · rintro ⟨k, hk, hq⟩
      obtain ⟨i, hi, hm⟩ := (ihp hp.1 _ _).mp hk
      exact ⟨i, hi, .seq hm hq⟩
    · rintro ⟨i, hi, h⟩
      cases h with
      | seq hm hq => exact ⟨_, (ihp hp.1 _ _).mpr ⟨i, hi, hm⟩, hq⟩
  | either p q ihp ihq =>
    rw [reach, mem_join, ihp hp.1, ihq hp.2]
    constructor
    · rintro (⟨i, hi, h⟩ | ⟨i, hi, h⟩)
      · exact ⟨i, hi, .left h⟩
      · exact ⟨i, hi, .right h⟩
    · rintro ⟨i, hi, h⟩
      cases h with
      | left h => exact .inl ⟨i, hi, h⟩
      | right h => exact .inr ⟨i, hi, h⟩
  | repeated p least most ih =>
    have hfollows : Follows (reach text p) (Matches text p) := fun places j => ih hp.1 places j
    rw [reach_repeated, mem_closure hfollows (List.Subset.refl _) fun i hi _ _ => .inl hi]
    simp only [matches_repeated_iff hp.2, rounds_within_iff Matches.advances hp.2,
      mem_repeatedly hfollows]
    constructor
    · rintro ⟨k, ⟨i, hi, hk⟩, h⟩
      exact ⟨i, hi, k, hk, h⟩
    · rintro ⟨i, hi, k, hk, h⟩
      exact ⟨k, ⟨i, hi, hk⟩, h⟩

end Matches

/-! ## What is found -/

theorem found_iff {p : Pattern} (hp : p.Proper) {s : String} :
    p.found s = true ↔ Found p s.toList.toArray := by
  rw [found, Bool.not_eq_true', List.isEmpty_eq_false_iff_exists_mem]
  simp only [mem_reach hp _ _, List.mem_range, Nat.lt_succ_iff, Found]
  constructor
  · rintro ⟨j, i, hi, h⟩
    exact ⟨i, j, hi, h⟩
  · rintro ⟨i, j, hi, h⟩
    exact ⟨j, i, hi, h⟩

theorem found_tied_iff {p : Pattern} {text : Array Char} :
    Found (.seq (.edge .textStart) p) text ↔ FoundAtStart p text := by
  constructor
  · rintro ⟨i, j, -, h⟩
    cases h with
    | seq hedge h =>
      cases hedge with
      | edge hstart =>
        obtain rfl : i = 0 := by simpa [Edge.holds] using hstart
        exact ⟨j, h⟩
  · rintro ⟨j, h⟩
    exact ⟨0, j, Nat.zero_le _, .seq (.edge rfl) h⟩

end CycleLog.Pattern
