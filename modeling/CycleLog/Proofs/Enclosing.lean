import CycleLog.Proofs.Grouping

/-!
# A parenthesis behind a pattern

To put a pattern into a group, a closing parenthesis is written behind it. Each reader of a part of a pattern is
therefore held against itself on the text with the parenthesis (`Enclosed`). As long as it does not come to the
end, it gives the same, and the parenthesis stands behind what it leaves (`kept`). At the end the parenthesis may
lie in a comment (`swallowed`), or make a whole of what is none by itself (`used`); in both cases it does not
stand behind the pattern any more, so nothing is left of it.

What is left is bounded along with that, so that the readers with fuel can be compared for any fuel that suffices.
-/

namespace CycleLog.Pattern
set_option autoImplicit false

/-! ## Two texts side by side -/

/-- A result of a reader, with what is left of the text. -/
class Leaves (β : Type) where
  left : β → List Char
  /-- The same with a closing parenthesis behind what is left. -/
  tied : β → β

open Leaves

instance : Leaves (List Char) := ⟨id, (· ++ [')'])⟩

instance {α β : Type} [Leaves β] : Leaves (α × β) :=
  ⟨fun x => left x.2, fun x => (x.1, tied x.2)⟩

instance : Leaves Cursor := ⟨(·.rest), fun cur => { cur with rest := cur.rest ++ [')'] }⟩

/-- What is left of a text, and of the same text with a closing parenthesis behind it. -/
inductive Tied (n : Nat) : List Char → List Char → Prop where
  | kept {r : List Char} (short : r.length ≤ n) : Tied n r (r ++ [')'])
  /-- The parenthesis stands in a comment. -/
  | swallowed : Tied n [] []

theorem Tied.mono {n k : Nat} {x x' : List Char} (h : Tied n x x') (hn : n ≤ k) : Tied k x x' := by
  cases h with
  | kept short => exact .kept (Nat.le_trans short hn)
  | swallowed => exact .swallowed

/-- A word without a closing parenthesis that stands in front with the parenthesis behind the text does so
without it. -/
theorem front_of_tied {w cs r : List Char} (h : cs ++ [')'] = w ++ r) (hw : ')' ∉ w) :
    ∃ s, cs = w ++ s := by
  rcases List.append_eq_append_iff.mp h with ⟨v, rfl, hv⟩ | ⟨v, rfl, -⟩
  · cases v with
    | nil => exact ⟨[], by simp⟩
    | cons c v =>
      obtain rfl : ')' = c := (List.cons.inj hv).1
      exact absurd (List.mem_append_right cs List.mem_cons_self) hw
  · exact ⟨v, rfl⟩

theorem not_front_of_tied (w : List Char) {cs : List Char} (hw : ')' ∉ w)
    (h : ∀ s, cs = w ++ s → False) (r : List Char) (hr : cs ++ [')'] = w ++ r) : False :=
  have ⟨s, hs⟩ := front_of_tied hr hw
  h s hs

/-- What a reader gives for a text, and for the same text with a closing parenthesis behind it. -/
inductive Enclosed {β : Type} [Leaves β] (n : Nat) : Option β → Option β → Prop where
  | kept {b : β} (short : (left b).length ≤ n) : Enclosed n (some b) (some (tied b))
  | swallowed {b : β} (nothing : left b = []) : Enclosed n (some b) (some b)
  /-- The parenthesis makes a whole of what is none. -/
  | used {b : β} (nothing : left b = []) : Enclosed n none (some b)
  | refused : Enclosed n none none

/-- Two readers agree on the empty text, and leave nothing of it. -/
def Ended {β : Type} [Leaves β] (x x' : Option β) : Prop := x = x' ∧ ∀ b, x' = some b → left b = []

section Combining
variable {β γ : Type} [Leaves β] [Leaves γ] {n k : Nat}

theorem Ended.refused : Ended (none : Option β) none := ⟨rfl, nofun⟩

theorem Ended.given {b : β} (h : left b = []) : Ended (some b) (some b) :=
  ⟨rfl, fun _ hb => Option.some.inj hb ▸ h⟩

theorem Ended.enclosed {x x' : Option β} (h : Ended x x') : Enclosed n x x' := by
  obtain ⟨rfl, h⟩ := h
  cases x with
  | none => exact .refused
  | some b => exact .swallowed (h b rfl)

theorem Ended.used {x x' : Option β} (h : Ended x x') : Enclosed n none x' := by
  cases x' with
  | none => exact .refused
  | some b => exact .used (h.2 b rfl)

theorem Enclosed.mono {x x' : Option β} (h : Enclosed n x x') (hn : n ≤ k) : Enclosed k x x' := by
  cases h with
  | kept short => exact .kept (Nat.le_trans short hn)
  | swallowed nothing => exact .swallowed nothing
  | used nothing => exact .used nothing
  | refused => exact .refused

/-- One reader behind another. -/
theorem Enclosed.bind {x x' : Option β} {f f' : β → Option γ} (h : Enclosed k x x')
    (hkept : ∀ b, (left b).length ≤ k → Enclosed n (f b) (f' (tied b)))
    (hend : ∀ b, left b = [] → Ended (f b) (f' b)) : Enclosed n (x.bind f) (x'.bind f') := by
  cases h with
  | kept short => exact hkept _ short
  | swallowed nothing => exact (hend _ nothing).enclosed
  | used nothing => exact (hend _ nothing).used
  | refused => exact .refused

theorem Enclosed.map {x x' : Option β} (h : Enclosed n x x') (f : β → γ)
    (hleft : ∀ b, left (f b) <:+ left b) (htied : ∀ b, f (tied b) = tied (f b)) :
    Enclosed n (x.map f) (x'.map f) := by
  cases h with
  | @kept b short =>
    rw [Option.map_some, Option.map_some, htied]
    exact .kept (Nat.le_trans (hleft b).length_le short)
  | @swallowed b nothing => exact .swallowed (List.suffix_nil.mp (nothing ▸ hleft b))
  | @used b nothing => exact .used (List.suffix_nil.mp (nothing ▸ hleft b))
  | refused => exact .refused

/-- What has been read is looked at, and what is left is not. -/
theorem Enclosed.convert {α α' : Type} {x x' : Option (α × β)} (h : Enclosed k x x') (hn : k ≤ n)
    (f : α → Option α') {g : α × β → Option (α' × β)} (hg : ∀ a r, g (a, r) = (f a).map (·, r)) :
    Enclosed n (x.bind g) (x'.bind g) := by
  apply h.bind
  · rintro ⟨a, r⟩ short
    change Enclosed n (g (a, r)) (g (a, tied r))
    rw [hg, hg]
    cases f a with
    | none => exact .refused
    | some a' => exact .kept (b := (a', r)) (Nat.le_trans short hn)
  · rintro ⟨a, r⟩ nothing
    rw [hg]
    cases f a with
    | none => exact .refused
    | some a' => exact .given nothing

/-- A condition that does not depend on what is left. -/
theorem Enclosed.given {α : Type} {o : Option α} {f f' : α → Option β}
    (h : ∀ a, Enclosed n (f a) (f' a)) : Enclosed n (o.bind f) (o.bind f') := by
  cases o with
  | none => exact .refused
  | some a => exact h a

end Combining

/-- A reader that looks at the first character that is left. -/
theorem Tied.look {β : Type} {_ : Leaves β} {n k : Nat} {x x' : List Char} {f f' : List Char → Option β}
    (h : Tied k x x') (hend : Ended (f []) (f' [])) (hnil : Enclosed n (f []) (f' [')']))
    (hcons : ∀ c r, r.length < k → Enclosed n (f (c :: r)) (f' (c :: (r ++ [')'])))) :
    Enclosed n (f x) (f' x') := by
  cases h with
  | swallowed => exact hend.enclosed
  | kept short =>
    cases x with
    | nil => exact hnil
    | cons c r => exact hcons c r short

/-! ## Blanks and comments -/

theorem skipSpaced_tied (comment : Bool) (cs : List Char) :
    Tied cs.length (skipSpaced comment cs) (skipSpaced comment (cs ++ [')'])) := by
  induction cs generalizing comment with
  | nil =>
    cases comment with
    | false => exact .kept (Nat.le_refl _)
    | true => exact .swallowed
  | cons c r ih =>
    have hmore (comment : Bool) := (ih comment).mono (Nat.le_succ r.length)
    simp only [List.cons_append, List.length_cons, skipSpaced]
    split
    · exact hmore _
    · split
      · exact hmore _
      · split
        · exact hmore _
        · exact .kept (r := c :: r) (Nat.le_refl _)

theorem skip_tied (m : Mode) (cs : List Char) : Tied cs.length (m.skip cs) (m.skip (cs ++ [')'])) := by
  simp only [Mode.skip]
  split
  · exact skipSpaced_tied false cs
  · exact .kept (Nat.le_refl _)

theorem skip_nil (m : Mode) : m.skip [] = [] := by cases h : m.spaced <;> simp [Mode.skip, h, skipSpaced]

end CycleLog.Pattern
