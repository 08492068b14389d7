import CycleLog.Proofs.Escaping
import CycleLog.Proofs.Scanning
import Mathlib.Data.List.TakeWhile

/-!
# Brackets with a parenthesis behind the pattern

Within brackets a parenthesis is an item like others, so a reader that comes to the end there can go on with it. It
does not go far: what it leaves holds no closing bracket (`Spent`), and the class as a whole is none either way
(`InBrackets.close`). A class that is closed within the pattern is read alike (`bracket_enclosed`).
-/

namespace CycleLog.Pattern
set_option autoImplicit false

open Leaves

/-! ## What closes no bracket -/

/-- The end of a pattern, with or without a closing parenthesis. -/
def Spent (r : List Char) : Prop := r = [] ∨ r = [')']

theorem Spent.of_suffix {r s : List Char} (h : Spent r) (hs : s <:+ r) : Spent s := by
  rcases h with rfl | rfl
  · exact .inl (List.suffix_nil.mp hs)
  · exact (List.suffix_cons_iff.mp hs).symm.imp List.suffix_nil.mp id

/-- What a reader within brackets gives for a text, and for the same text with a closing parenthesis behind it. -/
inductive InBrackets {β : Type} [Leaves β] (n : Nat) : Option β → Option β → Prop where
  | kept {b : β} (short : (left b).length ≤ n) : InBrackets n (some b) (some (tied b))
  | swallowed {b : β} (nothing : left b = []) : InBrackets n (some b) (some b)
  /-- The parenthesis lets the reader go on, but no farther than to the end. -/
  | cut {b : β} (spent : Spent (left b)) : InBrackets n none (some b)
  | refused : InBrackets n none none

section Combining
variable {β γ : Type} [Leaves β] [Leaves γ] {n k : Nat}

theorem Enclosed.inBrackets {x x' : Option β} (h : Enclosed n x x') : InBrackets n x x' := by
  cases h with
  | kept short => exact .kept short
  | swallowed nothing => exact .swallowed nothing
  | used nothing => exact .cut (.inl nothing)
  | refused => exact .refused

/-- Within brackets something has to follow. -/
theorem Enclosed.bindInBrackets {x x' : Option β} {f : β → Option γ} (h : Enclosed k x x')
    (hkept : ∀ b, (left b).length ≤ k → InBrackets n (f b) (f (tied b)))
    (hend : ∀ b, left b = [] → f b = none) : InBrackets n (x.bind f) (x'.bind f) := by
  cases h with
  | kept short => exact hkept _ short
  | swallowed nothing | used nothing =>
    rw [Option.bind_some, hend _ nothing]
    exact .refused
  | refused => exact .refused

theorem InBrackets.bind {x x' : Option β} {f f' : β → Option γ} (h : InBrackets k x x')
    (hkept : ∀ b, (left b).length ≤ k → InBrackets n (f b) (f' (tied b)))
    (hend : ∀ b, left b = [] → f b = none)
    (hcut : ∀ b c, Spent (left b) → f' b = some c → Spent (left c)) :
    InBrackets n (x.bind f) (x'.bind f') := by
  have hspent (b : β) (spent : Spent (left b)) : InBrackets n none (f' b) := by
    cases hb : f' b with
    | none => exact .refused
    | some c => exact .cut (hcut b c spent hb)
  cases h with
  | kept short => exact hkept _ short
  | @swallowed b nothing =>
    rw [Option.bind_some, hend b nothing]
    exact hspent b (.inl nothing)
  | cut spent => exact hspent _ spent
  | refused => exact .refused

theorem InBrackets.mono {x x' : Option β} (h : InBrackets k x x') (hn : k ≤ n) : InBrackets n x x' := by
  cases h with
  | kept short => exact .kept (Nat.le_trans short hn)
  | swallowed nothing => exact .swallowed nothing
  | cut spent => exact .cut spent
  | refused => exact .refused

theorem InBrackets.map {x x' : Option β} (h : InBrackets n x x') (f : β → γ)
    (hleft : ∀ b, left (f b) <:+ left b) (htied : ∀ b, f (tied b) = tied (f b)) :
    InBrackets n (x.map f) (x'.map f) := by
  cases h with
  | @kept b short =>
    rw [Option.map_some, Option.map_some, htied]
    exact .kept (Nat.le_trans (hleft b).length_le short)
  | @swallowed b nothing => exact .swallowed (List.suffix_nil.mp (nothing ▸ hleft b))
  | @cut b spent => exact .cut (spent.of_suffix (hleft b))
  | refused => exact .refused

/-- Behind a reader within brackets the bracket has to be closed. -/
theorem InBrackets.close {x x' : Option β} {f f' : β → Option γ} (h : InBrackets k x x')
    (hkept : ∀ b, (left b).length ≤ k → Enclosed n (f b) (f' (tied b)))
    (hend : ∀ b, left b = [] → f b = none) (hcut : ∀ b, Spent (left b) → f' b = none) :
    Enclosed n (x.bind f) (x'.bind f') := by
  cases h with
  | kept short => exact hkept _ short
  | swallowed nothing =>
    rw [Option.bind_some, Option.bind_some, hend _ nothing, hcut _ (.inl nothing)]
    exact .refused
  | cut spent =>
    rw [Option.bind_none, Option.bind_some, hcut _ spent]
    exact .refused
  | refused => exact .refused

end Combining

theorem skip_close (m : Mode) : m.skip [')'] = [')'] := by
  cases h : m.spaced with
  | false => simp [Mode.skip, h]
  | true =>
    have hblank : Text.isBlank ')' = false := by decide
    simp [Mode.skip, h, skipSpaced, hblank]

/-! ## Items -/

theorem item_close (m : Mode) : item? m [')'] = some (.char ')', []) := by simp [item?]

/-- An escape within brackets; an edge is none. -/
def escapeItem? (m : Mode) : Escape → Option Item
  | .char c _ => if m.unicode || c.toNat < 0x80 then some (.char c) else none
  | .set c => some (.set c)
  | .edge _ => none

theorem item_enclosed (m : Mode) (cs : List Char) :
    Enclosed (cs.length - 1) (item? m cs) (item? m (cs ++ [')'])) := by
  cases cs with
  | nil =>
    rw [List.nil_append, item_close]
    exact .used rfl
  | cons c r =>
    by_cases hc : c = '\\'
    · subst hc
      rw [List.cons_append, item?, item?]
      rcases escape_enclosed m r with h | ⟨e, h, s, h', -⟩
      · refine h.convert (Nat.le_refl _) (escapeItem? m) fun e r' => ?_
        cases e with
        | char c byte => simp only [escapeItem?]; split <;> rfl
        | set c => rfl
        | edge e => rfl
      · rw [h, h']
        exact .refused
    · have hplain (s : List Char) : item? m (c :: s) =
          if m.unicode || c.toNat < 0x80 then some (.char c, s) else none := by
        rw [item?]
        exact hc
      rw [List.cons_append, hplain, hplain]
      split
      · exact .kept (b := (Item.char c, r)) (Nat.le_refl _)
      · exact .refused

/-- The range from one item to another. -/
def rangeTo? : Item → Item → Option Class
  | .char lo, .char hi => if lo ≤ hi then some (.range lo hi) else none
  | _, _ => none

/-- What stands behind the first item of a range. -/
def behindItem? (m : Mode) : Item × List Char → Option (Class × List Char)
  | (first, r) =>
    match m.skip r with
    | [] => none
    | c :: after =>
      if c = '-' then
        match m.skip after with
        | [] => none
        | d :: next =>
          if d = ']' ∨ d = '-' then some (first.toClass, '-' :: after)
          else (item? m (d :: next)).bind fun (last, r) => (rangeTo? first last).map (·, r)
      else some (first.toClass, c :: after)

theorem span_eq (m : Mode) (cs : List Char) : span? m cs = (item? m cs).bind (behindItem? m) := by
  rw [span?]
  cases item? m cs with
  | none => rfl
  | some x =>
    obtain ⟨first, r⟩ := x
    simp only [Option.bind_eq_bind, Option.bind_some, behindItem?]
    generalize m.skip r = x
    split
    · rfl
    · next after =>
      simp only [if_true]
      generalize m.skip after = y
      split
      · simp
      · simp
      · next hclose hhyphen =>
        cases y with
        | nil => rfl
        | cons d next =>
          simp only
          rw [if_neg]
          · cases item? m (d :: next) with
            | none => rfl
            | some y =>
              obtain ⟨last, r⟩ := y
              cases first with
              | set c => rfl
              | char lo =>
                cases last with
                | set c => rfl
                | char hi => simp only [Option.bind_some, rangeTo?]; split <;> rfl
          · rintro (rfl | rfl)
            · exact hclose _ rfl
            · exact hhyphen _ rfl
    · next hnil hhyphen =>
      cases x with
      | nil => exact absurd rfl hnil
      | cons c after =>
        simp only
        rw [if_neg]
        rintro rfl
        exact hhyphen _ rfl

theorem rangeTo_enclosed (m : Mode) (first : Item) (cs : List Char) :
    Enclosed (cs.length - 1)
      ((item? m cs).bind fun (last, r) => (rangeTo? first last).map (·, r))
      ((item? m (cs ++ [')'])).bind fun (last, r) => (rangeTo? first last).map (·, r)) :=
  (item_enclosed m cs).convert (Nat.le_refl _) _ fun _ _ => rfl

theorem span_inBrackets (m : Mode) (cs : List Char) :
    InBrackets (cs.length - 1) (span? m cs) (span? m (cs ++ [')'])) := by
  rw [span_eq, span_eq]
  apply (item_enclosed m cs).bindInBrackets
  · rintro ⟨first, r⟩ short
    change r.length ≤ _ at short
    change InBrackets _ (behindItem? m (first, r)) (behindItem? m (first, r ++ [')']))
    rw [behindItem?, behindItem?]
    have hr := skip_tied m r
    generalize m.skip r = x, m.skip (r ++ [')']) = x' at hr
    cases hr with
    | swallowed => exact .refused
    | kept hx =>
      cases x with
      -- the item stands at the end, and now the parenthesis shows that it begins no range
      | nil => exact .cut (b := (first.toClass, [')'])) (.inr rfl)
      | cons c after =>
        rw [List.length_cons] at hx
        simp only [List.cons_append]
        split
        · next hc =>
          subst hc
          have hafter := skip_tied m after
          generalize m.skip after = y, m.skip (after ++ [')']) = y' at hafter
          cases hafter with
          | swallowed => exact .refused
          | kept hy =>
            cases y with
            -- the hyphen stands at the end, and the parenthesis ends the range
            | nil =>
              rw [List.nil_append]
              simp only
              rw [if_neg (by decide)]
              exact ((rangeTo_enclosed m first []).mono (Nat.zero_le _)).inBrackets
            | cons d next =>
              rw [List.length_cons] at hy
              simp only [List.cons_append]
              split
              · exact .kept (b := (first.toClass, '-' :: after)) (Nat.le_trans hx short)
              · refine ((rangeTo_enclosed m first (d :: next)).mono ?_).inBrackets
                change next.length ≤ _
                omega
        · exact .kept (b := (first.toClass, c :: after)) (Nat.le_trans hx short)
  · rintro ⟨first, r⟩ nothing
    obtain rfl : r = [] := nothing
    rw [behindItem?, skip_nil]

/-! ## Named classes -/

/-- The class whose name stands up to a colon and a closing bracket. -/
def namedClass? (m : Mode) (negated : Bool) (r : List Char) : Option (Class × List Char) :=
  match r.dropWhile (· != ':') with
  | ':' :: ']' :: rest =>
    (asciiNamed? (String.ofList (r.takeWhile (· != ':')))).map fun c =>
      (if negated then .other (m.folded c) else m.folded c, rest)
  | _ => none

theorem posix_negated (m : Mode) (r : List Char) :
    posix? m (':' :: '^' :: r) = namedClass? m true r := rfl

theorem posix_plain (m : Mode) {r : List Char} (h : ∀ s, r ≠ '^' :: s) :
    posix? m (':' :: r) = namedClass? m false r := by
  rw [posix?]
  · rfl
  · exact h

theorem posix_other (m : Mode) {c : Char} (h : c ≠ ':') (r : List Char) :
    posix? m (c :: r) = none := by
  rw [posix?]
  exact fun s hs => h (List.cons.inj hs).1

section NamedClass
variable (m : Mode) (negated : Bool) {name r : List Char}

theorem namedClass_closed (h : ∀ c ∈ name, (c != ':') = true) :
    namedClass? m negated (name ++ ':' :: ']' :: r) =
      (asciiNamed? (String.ofList name)).map fun c =>
        (if negated then .other (m.folded c) else m.folded c, r) := by
  have hstretch : Text.Stretch (· != ':') name (':' :: ']' :: r) := ⟨h, by simp⟩
  rw [namedClass?, hstretch.dropWhile_eq, hstretch.takeWhile_eq]
  rfl

theorem namedClass_unclosed (h : ∀ c ∈ name, (c != ':') = true) (hr : ∀ s, r ≠ ']' :: s) :
    namedClass? m negated (name ++ ':' :: r) = none := by
  have hstretch : Text.Stretch (· != ':') name (':' :: r) := ⟨h, by simp⟩
  rw [namedClass?, hstretch.dropWhile_eq]
  split
  · next heq => exact absurd (List.cons.inj heq).2 (hr _)
  · rfl

theorem namedClass_none (h : ∀ c ∈ name, (c != ':') = true) : namedClass? m negated name = none := by
  rw [namedClass?, List.dropWhile_eq_nil_iff.mpr h]

/-- A named class ends before the pattern does. -/
theorem namedClass_tied (r : List Char) :
    namedClass? m negated (r ++ [')']) = (namedClass? m negated r).map tied := by
  have hclose : (')' != ':') = true := by decide
  obtain ⟨hname, hcolon⟩ := Text.stretch_span (· != ':') r
  rw [← List.takeWhile_append_dropWhile (p := (· != ':')) (l := r)]
  generalize r.takeWhile (· != ':') = name, r.dropWhile (· != ':') = s at hname hcolon
  cases s with
  | nil =>
    rw [List.append_nil, namedClass_none m negated hname, namedClass_none]
    · rfl
    · intro c hc
      rcases List.mem_append.mp hc with hc | hc
      · exact hname c hc
      · rwa [List.mem_singleton.mp hc]
  | cons c s =>
    obtain rfl : c = ':' := by simpa using hcolon c rfl
    rw [List.append_assoc, List.cons_append]
    by_cases hs : ∃ rest, s = ']' :: rest
    · obtain ⟨rest, rfl⟩ := hs
      rw [List.cons_append, namedClass_closed m negated hname, namedClass_closed m negated hname,
        Option.map_map]
      rfl
    · rw [namedClass_unclosed m negated hname fun rest h => hs ⟨rest, h⟩,
        namedClass_unclosed m negated hname]
      · rfl
      · intro rest h
        cases s with
        | nil => exact absurd (List.cons.inj h).1 (by decide)
        | cons d s => exact hs ⟨s, by rw [(List.cons.inj h).1]⟩

end NamedClass

theorem posix_tied (m : Mode) (r : List Char) :
    posix? m (r ++ [')']) = (posix? m r).map tied := by
  cases r with
  | nil => rfl
  | cons c r =>
    by_cases hc : c = ':'
    · subst hc
      by_cases hnegated : ∃ s, r = '^' :: s
      · obtain ⟨s, rfl⟩ := hnegated
        rw [List.cons_append, List.cons_append, posix_negated, posix_negated, namedClass_tied]
      · have hplain : ∀ s, r ≠ '^' :: s := fun s hs => hnegated ⟨s, hs⟩
        rw [List.cons_append, posix_plain m hplain, posix_plain, namedClass_tied]
        intro s hs
        cases r with
        | nil => exact absurd hs (by simp)
        | cons d r => exact hplain r (by rw [(List.cons.inj hs).1])
    · rw [List.cons_append, posix_other m hc, posix_other m hc]
      rfl

theorem length_of_posix {m : Mode} {r rest : List Char} {c : Class} (h : posix? m r = some (c, rest)) :
    rest.length ≤ r.length := by
  have hclass (negated : Bool) (s : List Char) (hs : namedClass? m negated s = some (c, rest)) :
      rest.length ≤ s.length := by
    rw [namedClass?] at hs
    split at hs
    · next rest' heq =>
      obtain ⟨_, -, hc⟩ := Option.map_eq_some_iff.mp hs
      cases hc
      have := (List.dropWhile_suffix (p := (· != ':')) (l := s)).length_le
      rw [heq, List.length_cons, List.length_cons] at this
      omega
    · cases hs
  cases r with
  | nil => cases h
  | cons d r =>
    by_cases hd : d = ':'
    · subst hd
      by_cases hnegated : ∃ s, r = '^' :: s
      · obtain ⟨s, rfl⟩ := hnegated
        rw [posix_negated] at h
        have := hclass true s h
        simp only [List.length_cons]
        omega
      · rw [posix_plain m fun s hs => hnegated ⟨s, hs⟩] at h
        exact Nat.le_succ_of_le (hclass false r h)
    · rw [posix_other m hd] at h
      cases h

/-! ## The beginning of a class -/

section LeadingHyphens
variable {m : Mode} {acc : Items} {fuel : Nat} {cs r : List Char}

theorem leadingHyphens_nil (h : m.skip cs = []) : leadingHyphens m acc (fuel + 1) cs = none := by
  simp only [leadingHyphens, h]

theorem leadingHyphens_hyphen (h : m.skip cs = '-' :: r) :
    leadingHyphens m acc (fuel + 1) cs = leadingHyphens m (acc.push ⟨.one '-', 0⟩) fuel r := by
  simp only [leadingHyphens, h]

theorem leadingHyphens_other {c : Char} (h : m.skip cs = c :: r) (hc : c ≠ '-') :
    leadingHyphens m acc (fuel + 1) cs = some (acc, c :: r) := by
  simp only [leadingHyphens, h]
  split
  · next heq => cases heq
  · next heq => exact absurd (List.cons.inj heq).1 hc
  · rfl

end LeadingHyphens

theorem leadingHyphens_inBrackets (m : Mode) {fuel fuel' : Nat} (acc : Items) (cs : List Char)
    (h : cs.length < fuel) (h' : cs.length + 1 < fuel') :
    InBrackets cs.length (leadingHyphens m acc fuel cs) (leadingHyphens m acc fuel' (cs ++ [')'])) := by
  induction fuel generalizing fuel' acc cs with
  | zero => omega
  | succ fuel ih =>
    obtain ⟨fuel', rfl⟩ := Nat.exists_eq_succ_of_ne_zero (Nat.ne_of_gt (Nat.zero_lt_of_lt h'))
    have hr := skip_tied m cs
    generalize hx : m.skip cs = x, hx' : m.skip (cs ++ [')']) = x' at hr
    cases hr with
    | swallowed =>
      rw [leadingHyphens_nil hx, leadingHyphens_nil hx']
      exact .refused
    | kept short =>
      cases x with
      | nil =>
        rw [leadingHyphens_nil hx, leadingHyphens_other hx' (by decide)]
        exact .cut (b := (acc, [')'])) (.inr rfl)
      | cons c r =>
        rw [List.length_cons] at short
        by_cases hc : c = '-'
        · subst hc
          rw [leadingHyphens_hyphen hx, leadingHyphens_hyphen hx']
          have hrest := @ih fuel' (acc.push ⟨.one '-', 0⟩) r (by omega) (by omega)
          exact hrest.mono (Nat.le_of_succ_le short)
        · rw [leadingHyphens_other hx hc, leadingHyphens_other hx' hc]
          exact .kept (b := (acc, c :: r)) short

/-- Whether a class is negated, and its text behind that. -/
def caret? (m : Mode) (cs : List Char) : Option (Bool × List Char) :=
  match m.skip cs with
  | [] => none
  | c :: r => if c = '^' then some (true, r) else some (false, c :: r)

/-- A closing bracket stands for itself where nothing else stands in front of it. -/
def closeFirst (negated : Bool) : Items × List Char → Bool × Items × List Char
  | (start, ']' :: r) =>
    if start.depths = [] then (negated, Items.none.push ⟨.one ']', 0⟩, r) else (negated, start, ']' :: r)
  | (start, r) => (negated, start, r)

theorem behindHyphens_eq (negated : Bool) (o : Option (Items × List Char)) :
    (o.bind fun x =>
      match x with
      | (start, r) =>
        match r with
        | ']' :: r =>
          if start.depths = [] then some (negated, Items.none.push ⟨.one ']', 0⟩, r)
          else some (negated, start, ']' :: r)
        | r => some (negated, start, r)) = o.map (closeFirst negated) := by
  rcases o with _ | ⟨start, r⟩
  · rfl
  · simp only [Option.bind_some, Option.map_some]
    split
    · rw [closeFirst]
      split <;> rfl
    · rw [closeFirst]
      assumption

theorem opening_eq (m : Mode) (cs : List Char) :
    opening m cs = (caret? m cs).bind fun (negated, r) =>
      (leadingHyphens m .none (r.length + 1) r).map (closeFirst negated) := by
  rw [opening, caret?]
  generalize m.skip cs = x
  cases x with
  | nil => rfl
  | cons c r =>
    by_cases hc : c = '^'
    · subst hc
      exact behindHyphens_eq true _
    · simp only [if_neg hc]
      split
      · next heq => cases heq
      · next heq => exact absurd (List.cons.inj heq).1 hc
      · exact behindHyphens_eq false _

theorem caret_inBrackets (m : Mode) (cs : List Char) :
    InBrackets cs.length (caret? m cs) (caret? m (cs ++ [')'])) := by
  rw [caret?, caret?]
  have hr := skip_tied m cs
  generalize m.skip cs = x, m.skip (cs ++ [')']) = x' at hr
  cases hr with
  | swallowed => exact .refused
  | kept short =>
    cases x with
    | nil => exact .cut (b := (false, [')'])) (.inr rfl)
    | cons c r =>
      simp only [List.cons_append]
      split
      · exact .kept (b := (true, r)) (Nat.le_of_succ_le short)
      · exact .kept (b := (false, c :: r)) short

theorem closeFirst_suffix (negated : Bool) (x : Items × List Char) :
    left (closeFirst negated x) <:+ left x := by
  obtain ⟨start, r⟩ := x
  rw [closeFirst.eq_def]
  split
  · next heq =>
    cases heq
    split
    · exact List.suffix_cons _ _
    · exact List.suffix_rfl
  · next heq =>
    cases heq
    exact List.suffix_rfl

theorem closeFirst_tied (negated : Bool) (x : Items × List Char) :
    closeFirst negated (tied x) = tied (closeFirst negated x) := by
  obtain ⟨start, r⟩ := x
  cases r with
  | nil => rfl
  | cons c r =>
    by_cases hc : c = ']'
    · subst hc
      change closeFirst negated (start, ']' :: (r ++ [')'])) = _
      rw [closeFirst, closeFirst]
      split <;> rfl
    · have hother (s : List Char) : closeFirst negated (start, c :: s) = (negated, start, c :: s) := by
        rw [closeFirst]
        exact fun r' h => hc (List.cons.inj h).1
      change closeFirst negated (start, c :: (r ++ [')'])) = _
      rw [hother, hother]
      rfl

theorem opening_inBrackets (m : Mode) (cs : List Char) :
    InBrackets cs.length (opening m cs) (opening m (cs ++ [')'])) := by
  rw [opening_eq, opening_eq]
  apply (caret_inBrackets m cs).bind
  · rintro ⟨negated, r⟩ short
    have hhyphens := @leadingHyphens_inBrackets m (r.length + 1) ((r ++ [')']).length + 1) .none r
      (Nat.lt_succ_self _) (by simp)
    exact (hhyphens.mono short).map _ (closeFirst_suffix negated) (closeFirst_tied negated)
  · rintro ⟨negated, r⟩ nothing
    obtain rfl : r = [] := nothing
    simp only [leadingHyphens_nil (skip_nil m)]
    rfl
  · rintro ⟨negated, r⟩ c spent h
    rcases (spent : Spent r) with rfl | rfl
    · simp only [leadingHyphens_nil (skip_nil m)] at h
      cases h
    · simp only [leadingHyphens_other (skip_close m) (by decide)] at h
      cases h
      exact .inr rfl

/-! ## Items up to the closing bracket -/

/-- An operator between two operands. -/
def operator? : List Char → Option (Operation × List Char)
  | '&' :: '&' :: r => some (.both, r)
  | '-' :: '-' :: r => some (.except, r)
  | '~' :: '~' :: r => some (.either, r)
  | _ => none

/-- A class whose items are read by `items`. -/
def classWith? (m : Mode) (items : Items → List Char → Option (Nested × List Char)) (cs : List Char) :
    Option (Nested × List Char) :=
  (opening m cs).bind fun (negated, start, r) =>
    (items start r).bind fun (x, r) => (closing m negated x).map (·, r)

section Items
variable {m : Mode} {fuel : Nat} {acc : Items} {pending : Pending} {cs r : List Char}

theorem items_nil (h : m.skip cs = []) : bracketItems m (fuel + 1) acc pending cs = none := by
  simp only [bracketItems, h]

theorem items_close (h : m.skip cs = ']' :: r) :
    bracketItems m (fuel + 1) acc pending cs = some (applied m pending acc, r) := by
  simp only [bracketItems, h]

theorem items_posix (h : m.skip cs = '[' :: r) {c : Class} {r' : List Char}
    (hp : posix? m r = some (c, r')) :
    bracketItems m (fuel + 1) acc pending cs =
      (ofText? m c).bind fun c => bracketItems m fuel (acc.push ⟨c, 0⟩) pending r' := by
  simp only [bracketItems, h, hp]
  rfl

theorem items_open (h : m.skip cs = '[' :: r) (hp : posix? m r = none) :
    bracketItems m (fuel + 1) acc pending cs =
      (classWith? m (bracketItems m fuel · none) r).bind fun (inner, r) =>
        bracketItems m fuel (acc.push inner) pending r := by
  simp only [bracketItems, h, hp, classWith?, Option.bind_eq_bind]
  cases opening m r with
  | none => rfl
  | some x =>
    obtain ⟨negated, start, r⟩ := x
    simp only [Option.bind_some]
    cases bracketItems m fuel start none r with
    | none => rfl
    | some y =>
      simp only [Option.bind_some]
      cases closing m negated y.1 <;> rfl

theorem items_operator {op : Operation} (h : operator? (m.skip cs) = some (op, r)) :
    bracketItems m (fuel + 1) acc pending cs =
      bracketItems m fuel .none (some (op, applied m pending acc)) r := by
  rw [bracketItems]
  generalize m.skip cs = x at h
  rw [operator?.eq_def] at h
  split at h <;> cases h <;> rfl

theorem items_span {c : Char} (h : m.skip cs = c :: r) (hclose : c ≠ ']') (hopen : c ≠ '[')
    (hop : operator? (c :: r) = none) :
    bracketItems m (fuel + 1) acc pending cs =
      (span? m (c :: r)).bind fun (c, r) => bracketItems m fuel (acc.push ⟨c, 0⟩) pending r := by
  rw [bracketItems, h]
  simp only
  split
  · next heq => cases heq
  · next heq => exact absurd (List.cons.inj heq).1 hclose
  · next heq => exact absurd (List.cons.inj heq).1 hopen
  · next heq => rw [heq] at hop; cases hop
  · next heq => rw [heq] at hop; cases hop
  · next heq => rw [heq] at hop; cases hop
  · cases span? m (c :: r) <;> rfl

theorem span_close (m : Mode) : span? m [')'] = none := by
  rw [span_eq, item_close, Option.bind_some, behindItem?, skip_nil]

theorem items_skip_close (h : m.skip cs = [')']) : bracketItems m (fuel + 1) acc pending cs = none := by
  rw [items_span h (by decide) (by decide) rfl, span_close]
  rfl

theorem items_spent (h : Spent cs) : bracketItems m fuel acc pending cs = none := by
  cases fuel with
  | zero => rfl
  | succ fuel =>
    rcases h with rfl | rfl
    · exact items_nil (skip_nil m)
    · exact items_skip_close (skip_close m)

end Items

theorem operator_tied (cs : List Char) : operator? (cs ++ [')']) = (operator? cs).map tied := by
  rw [operator?.eq_def cs]
  split
  · rfl
  · rfl
  · rfl
  · next hboth hexcept heither =>
    rw [operator?]
    · rfl
    · exact not_front_of_tied ['&', '&'] (by decide) hboth
    · exact not_front_of_tied ['-', '-'] (by decide) hexcept
    · exact not_front_of_tied ['~', '~'] (by decide) heither

theorem length_of_operator {cs r : List Char} {op : Operation} (h : operator? cs = some (op, r)) :
    r.length < cs.length := by
  rw [operator?.eq_def] at h
  split at h <;> cases h <;> exact Nat.lt_succ_of_lt (Nat.lt_succ_self _)

/-- A class with a class of its own inside, whose items are read alike. -/
theorem classWith_enclosed (m : Mode) {items items' : Items → List Char → Option (Nested × List Char)}
    (cs : List Char)
    (hitems : ∀ c r, r.length ≤ cs.length → Enclosed r.length (items c r) (items' c (r ++ [')'])))
    (hspent : ∀ c r, Spent r → items c r = none ∧ items' c r = none) :
    Enclosed cs.length (classWith? m items cs) (classWith? m items' (cs ++ [')'])) := by
  apply (opening_inBrackets m cs).close
  · rintro ⟨negated, start, r⟩ short
    exact (hitems start r short).convert short _ fun _ _ => rfl
  · rintro ⟨negated, start, r⟩ nothing
    simp only [(hspent start r (.inl nothing)).1]
    rfl
  · rintro ⟨negated, start, r⟩ spent
    simp only [(hspent start r spent).2]
    rfl

/-- With these amounts of fuel, the items of texts up to a length are read alike. -/
def ItemsAlike (m : Mode) (n fuel fuel' : Nat) : Prop :=
  ∀ (acc : Items) (pending : Pending) (r : List Char), r.length ≤ n →
    Enclosed r.length (bracketItems m fuel acc pending r) (bracketItems m fuel' acc pending (r ++ [')']))

section ItemsAlike
variable {m : Mode} {n fuel fuel' : Nat} (acc : Items) (pending : Pending)

/-- An opening bracket begins a named class, or a class of its own. -/
theorem itemsOpen_enclosed (alike : ItemsAlike m n fuel fuel') {cs cs' r : List Char}
    (h : m.skip cs = '[' :: r) (h' : m.skip cs' = '[' :: (r ++ [')'])) (short : r.length ≤ n) :
    Enclosed n (bracketItems m (fuel + 1) acc pending cs) (bracketItems m (fuel' + 1) acc pending cs') := by
  cases hp : posix? m r with
  | some y =>
    obtain ⟨c, s⟩ := y
    have hp' : posix? m (r ++ [')']) = some (c, s ++ [')']) := by rw [posix_tied, hp]; rfl
    have hs : s.length ≤ n := Nat.le_trans (length_of_posix hp) short
    rw [items_posix h hp, items_posix h' hp']
    exact .given fun c => (alike _ _ s hs).mono hs
  | none =>
    have hp' : posix? m (r ++ [')']) = none := by rw [posix_tied, hp]; rfl
    rw [items_open h hp, items_open h' hp']
    apply (classWith_enclosed m r (fun c s hs => alike c none s (Nat.le_trans hs short))
      fun c s hs => ⟨items_spent hs, items_spent hs⟩).bind
    · intro ⟨inner, s⟩ hs
      have hs : s.length ≤ n := Nat.le_trans hs short
      exact (alike _ _ s hs).mono hs
    · rintro ⟨inner, s⟩ nothing
      have hspent : Spent s := .inl nothing
      simp only [items_spent hspent]
      exact .refused

/-- Another item is an operator, or a span of characters. -/
theorem itemsOther_enclosed (alike : ItemsAlike m n fuel fuel') {cs cs' r : List Char} {c : Char}
    (hclose : c ≠ ']') (hopen : c ≠ '[') (h : m.skip cs = c :: r) (h' : m.skip cs' = c :: (r ++ [')']))
    (short : r.length ≤ n) :
    Enclosed n (bracketItems m (fuel + 1) acc pending cs) (bracketItems m (fuel' + 1) acc pending cs') := by
  cases hop : operator? (c :: r) with
  | some y =>
    obtain ⟨op, s⟩ := y
    have hop' : operator? (m.skip cs') = some (op, s ++ [')']) := by
      rw [h', ← List.cons_append, operator_tied, hop]; rfl
    have hs : s.length ≤ n := Nat.le_trans (Nat.le_of_lt_succ (length_of_operator hop)) short
    rw [items_operator (h ▸ hop), items_operator hop']
    exact (alike _ _ s hs).mono hs
  | none =>
    have hop' : operator? (c :: (r ++ [')'])) = none := by
      rw [← List.cons_append, operator_tied, hop]; rfl
    rw [items_span h hclose hopen hop, items_span h' hclose hopen hop']
    apply (span_inBrackets m (c :: r)).close
    · intro ⟨c, s⟩ hs
      have hs : s.length ≤ n := Nat.le_trans hs short
      exact (alike _ _ s hs).mono hs
    · exact fun ⟨c, s⟩ nothing => items_spent (.inl nothing)
    · exact fun ⟨c, s⟩ spent => items_spent spent

end ItemsAlike

theorem items_enclosed (m : Mode) {fuel fuel' : Nat} (acc : Items) (pending : Pending) (cs : List Char)
    (h : cs.length < fuel) (h' : cs.length + 1 < fuel') :
    Enclosed cs.length (bracketItems m fuel acc pending cs)
      (bracketItems m fuel' acc pending (cs ++ [')'])) := by
  induction fuel generalizing fuel' acc pending cs with
  | zero => omega
  | succ fuel ih =>
    obtain ⟨fuel', rfl⟩ := Nat.exists_eq_succ_of_ne_zero (Nat.ne_of_gt (Nat.zero_lt_of_lt h'))
    have hr := skip_tied m cs
    generalize hx : m.skip cs = x, hx' : m.skip (cs ++ [')']) = x' at hr
    cases hr with
    | swallowed =>
      rw [items_nil hx, items_nil hx']
      exact .refused
    | kept short =>
      cases x with
      | nil =>
        rw [items_nil hx, items_skip_close hx']
        exact .refused
      | cons c r =>
        rw [List.length_cons] at short
        -- each item takes a character, so the fuel that is left suffices for the rest
        have alike : ItemsAlike m r.length fuel fuel' := fun acc pending s hs =>
          @ih fuel' acc pending s (by omega) (by omega)
        by_cases hclose : c = ']'
        · subst hclose
          rw [items_close hx, items_close hx']
          exact .kept (b := (applied m pending acc, r)) (Nat.le_of_succ_le short)
        by_cases hopen : c = '['
        · subst hopen
          exact (itemsOpen_enclosed acc pending alike hx hx' (Nat.le_refl _)).mono (Nat.le_of_succ_le short)
        exact (itemsOther_enclosed acc pending alike hclose hopen hx hx' (Nat.le_refl _)).mono
          (Nat.le_of_succ_le short)

theorem bracket_eq (m : Mode) (cs : List Char) :
    bracket? m cs = classWith? m (fun c r => bracketItems m (r.length + 1) c none r) cs := by
  rw [bracket?, classWith?]
  cases opening m cs with
  | none => rfl
  | some x =>
    obtain ⟨negated, start, r⟩ := x
    simp only [Option.bind_eq_bind, Option.bind_some]
    cases bracketItems m (r.length + 1) start none r with
    | none => rfl
    | some y =>
      simp only [Option.bind_some]
      cases closing m negated y.1 <;> rfl

theorem bracket_enclosed (m : Mode) (cs : List Char) :
    Enclosed cs.length (bracket? m cs) (bracket? m (cs ++ [')'])) := by
  rw [bracket_eq, bracket_eq]
  exact classWith_enclosed m cs
    (fun c r _ => items_enclosed m c none r (Nat.lt_succ_self _) (by simp))
    fun c r hr => ⟨items_spent hr, items_spent hr⟩

end CycleLog.Pattern
