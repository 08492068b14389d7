import CycleLog.Proofs.ReadBack
import CycleLog.Proofs.Scanning
import Mathlib.Data.List.TakeDrop

/-!
# Reading a text that grows

A reader has settled on what it read when it stopped in front of the end of the text: more text changes
nothing (`Steady`). Where a number ends is told by what follows it, but strings, arrays and objects end
by themselves (`Closed`). So a value is steady by induction on its depth (`steady_value`), an object is
closed, and no proper front of the text of an object is read (`readList_front`).
-/

namespace CycleLog.Json
set_option autoImplicit false

open Text (word? word?_eq_some_iff)

/-! ## Readers of a growing text -/

section Readers
variable {α β : Type}

/-- What is read stays the same when more text follows. -/
structure Closed (read : List Char → Option (α × List Char)) : Prop where
  append : ∀ {cs a r}, read cs = some (a, r) → ∀ more, read (cs ++ more) = some (a, r ++ more)

/-- What is read stays the same when more text follows, if something was left behind it. -/
structure Steady (read : List Char → Option (α × List Char)) : Prop where
  nil : ∀ {a r}, read [] = some (a, r) → r = []
  append : ∀ {cs a c r}, read cs = some (a, c :: r) → ∀ more,
    read (cs ++ more) = some (a, c :: r ++ more)

/-- One reader goes on where another has stopped. -/
def andThen (read : List Char → Option (α × List Char)) (next : α → List Char → Option (β × List Char))
    (cs : List Char) : Option (β × List Char) :=
  (read cs).bind fun x => next x.1 x.2

variable {read : List Char → Option (α × List Char)} {next : α → List Char → Option (β × List Char)}

theorem Steady.andThen (h : Steady read) (hnext : ∀ a, Steady (next a)) : Steady (andThen read next) where
  nil {b r} hread := by
    obtain ⟨⟨a, t⟩, ha, hb⟩ := Option.bind_eq_some_iff.mp hread
    obtain rfl := h.nil ha
    exact (hnext a).nil hb
  append {cs b c r} hread more := by
    obtain ⟨⟨a, t⟩, ha, hb⟩ := Option.bind_eq_some_iff.mp hread
    cases t with
    | nil => exact absurd ((hnext a).nil hb) (List.cons_ne_nil c r)
    | cons d t =>
      rw [Json.andThen, h.append ha]
      exact (hnext a).append hb more

theorem Closed.map (h : Closed read) (f : α → β) :
    Closed fun cs => (read cs).map fun x => (f x.1, x.2) where
  append {cs b r} hread more := by
    obtain ⟨⟨a, t⟩, ha, heq⟩ := Option.map_eq_some_iff.mp hread
    obtain ⟨rfl, rfl⟩ := Prod.mk.inj heq
    rw [h.append ha]
    rfl

theorem Closed.steady (h : Closed read) (hnil : read [] = none) : Steady read where
  nil hread := by
    rw [hnil] at hread
    cases hread
  append hread := h.append hread

theorem steady_none : Steady fun _ => (none : Option (α × List Char)) where
  nil h := nomatch h
  append h := nomatch h

theorem steady_some (a : α) : Steady fun cs => some (a, cs) where
  nil h := (Prod.mk.inj (Option.some.inj h)).2.symm
  append {cs b c r} h more := by
    obtain ⟨rfl, rfl⟩ := Prod.mk.inj (Option.some.inj h)
    rfl

/-- A reader that looks at no more than one character. -/
theorem steady_look {look : List Char → α × List Char} (hnil : (look []).2 = [])
    (hcons : ∀ c r more, look (c :: r ++ more) = ((look (c :: r)).1, (look (c :: r)).2 ++ more)) :
    Steady fun cs => some (look cs) where
  nil h := by
    rw [← hnil, Option.some.inj h]
  append {cs a c r} h more := by
    have hlook := Option.some.inj h
    cases cs with
    | nil =>
      rw [hlook] at hnil
      cases hnil
    | cons d cs =>
      change some (look (d :: cs ++ more)) = _
      rw [hcons, hlook]

end Readers

/-! ## Blanks -/

section Blanks
variable {α : Type} {read : List Char → Option (α × List Char)}

theorem skipBlank_append_of_cons {cs r : List Char} {c : Char} (h : skipBlank cs = c :: r)
    (more : List Char) : skipBlank (cs ++ more) = c :: r ++ more := by
  unfold skipBlank at h ⊢
  rw [List.dropWhile_append, h]
  rfl

/-- Blanks at the end of a text are not told apart from the end. -/
theorem Steady.skipBlank (h : Steady read) : Steady fun cs => read (skipBlank cs) where
  nil hread := h.nil hread
  append {cs a c r} hread more := by
    cases hcs : Json.skipBlank cs with
    | nil =>
      rw [hcs] at hread
      exact absurd (h.nil hread) (List.cons_ne_nil c r)
    | cons d t =>
      rw [hcs] at hread
      rw [skipBlank_append_of_cons hcs]
      exact h.append hread more

end Blanks

/-! ## Words and strings -/

section Words
variable {α : Type}

theorem closed_word? (w : List Char) (a : α) : Closed fun cs => (word? w cs).map (a, ·) where
  append {cs a r} h more := by
    obtain ⟨t, ht, heq⟩ := Option.map_eq_some_iff.mp h
    obtain ⟨rfl, rfl⟩ := Prod.mk.inj heq
    have hword : word? w (cs ++ more) = some (t ++ more) := by
      rw [word?_eq_some_iff] at ht ⊢
      rw [ht, List.append_assoc]
    rw [hword]
    rfl

end Words

theorem stringPieces_escape {c : Char} (h : c ≠ 'u') (r : List Char) :
    stringPieces ('\\' :: c :: r) = (escape? c).bind fun e =>
      (stringPieces r).bind fun x => some (.char e :: x.1, x.2) := by
  rw [stringPieces.eq_def]
  split
  case h_5 hescape heq =>
    obtain ⟨rfl, rfl⟩ := List.cons.inj heq
    exact absurd rfl (hescape c r rfl)
  all_goals simp_all

theorem closed_stringPieces : Closed stringPieces where
  append {cs ps r} h more := by
    fun_induction stringPieces cs generalizing ps r with
    | case1 => cases h
    | case2 r' =>
      obtain ⟨rfl, rfl⟩ := Prod.mk.inj (Option.some.inj h)
      rfl
    | case3 a b c d r' ih =>
      simp only [Option.bind_eq_bind, Option.bind_eq_some_iff, Option.some.injEq] at h
      obtain ⟨n, hn, ⟨qs, t⟩, hqs, heq⟩ := h
      obtain ⟨rfl, rfl⟩ := Prod.mk.inj heq
      simp only [List.cons_append, stringPieces, hn, ih hqs]
      rfl
    | case4 c r' hu ih =>
      simp only [Option.bind_eq_bind, Option.bind_eq_some_iff, Option.some.injEq] at h
      obtain ⟨e, he, ⟨qs, t⟩, hqs, heq⟩ := h
      obtain ⟨rfl, rfl⟩ := Prod.mk.inj heq
      -- a letter that stands for a character is not the one in front of a number
      have hc : c ≠ 'u' := by
        rintro rfl
        cases he
      rw [List.cons_append, List.cons_append, stringPieces_escape hc, he, ih hqs]
      rfl
    | case5 => cases h
    | case6 c r' hquote _ _ hplain ih =>
      simp only [Option.bind_eq_bind, Option.bind_eq_some_iff, Option.some.injEq] at h
      obtain ⟨⟨qs, t⟩, hqs, heq⟩ := h
      obtain ⟨rfl, rfl⟩ := Prod.mk.inj heq
      rw [not_or] at hplain
      rw [List.cons_append, stringPieces_plain hquote hplain.1 hplain.2, ih hqs]
      rfl

theorem closed_stringBody (rules : Rules) : Closed (stringBody rules) where
  append {cs s r} h more := by
    obtain ⟨⟨ps, t⟩, hps, hrest⟩ := Option.bind_eq_some_iff.mp h
    unfold stringBody
    rw [closed_stringPieces.append hps]
    dsimp only at hrest
    split at hrest
    · next hrules =>
      obtain ⟨text, htext, heq⟩ := Option.bind_eq_some_iff.mp hrest
      obtain ⟨rfl, rfl⟩ := Prod.mk.inj (Option.some.inj heq)
      simp [hrules, htext]
    · next hrules =>
      obtain ⟨rfl, rfl⟩ := Prod.mk.inj (Option.some.inj hrest)
      simp [hrules]

/-! ## Numbers -/

theorem steady_digits : Steady fun cs => some (digits cs) where
  nil h := (Prod.mk.inj (Option.some.inj h)).2.symm
  append {cs ds c r} h more := by
    have hdigits := Option.some.inj h
    unfold digits at hdigits
    rw [List.span_eq_takeWhile_dropWhile] at hdigits
    obtain ⟨rfl, hdrop⟩ := Prod.mk.inj hdigits
    have hspan := Text.stretch_span Char.isDigit cs
    rw [hdrop] at hspan
    have hgrown : Text.Stretch Char.isDigit (cs.takeWhile Char.isDigit) (c :: r ++ more) :=
      ⟨hspan.inside, hspan.boundary⟩
    have hsplit : cs ++ more = cs.takeWhile Char.isDigit ++ (c :: r ++ more) := by
      rw [← List.append_assoc, ← hdrop, List.takeWhile_append_dropWhile]
    change some (digits (cs ++ more)) = _
    unfold digits
    rw [List.span_eq_takeWhile_dropWhile, hsplit, hgrown.takeWhile_eq, hgrown.dropWhile_eq]

/-- Digits, of which there has to be one. -/
def someDigits {α : Type} (f : List Char → α) : List Char → Option (α × List Char) :=
  andThen (fun cs => some (digits cs)) fun ds r => if ds = [] then none else some (f ds, r)

theorem steady_someDigits {α : Type} (f : List Char → α) : Steady (someDigits f) := by
  refine steady_digits.andThen fun ds => ?_
  by_cases h : ds = []
  · simp only [h, if_true]
    exact steady_none
  · simp only [h, if_false]
    exact steady_some _

theorem match_digits {α : Type} (f : List Char → α) (cs : List Char) : (match digits cs with
    | ([], _) => none
    | (ds, r) => some (f ds, r)) = someDigits f cs := by
  unfold someDigits andThen
  rw [Option.bind_some]
  split
  · next h =>
    rw [h]
    exact (if_pos rfl).symm
  · next ds r hne h =>
    rw [h]
    exact (if_neg hne).symm

theorem steady_fractionPart : Steady fractionPart where
  nil h := (Prod.mk.inj (Option.some.inj h)).2.symm
  append {cs ds c r} h more := by
    unfold fractionPart at h
    split at h
    · next t =>
      have hsome : someDigits id t = some (ds, c :: r) := (match_digits id t).symm.trans h
      exact (match_digits id (t ++ more)).trans ((steady_someDigits id).append hsome more)
    · next hpoint =>
      obtain ⟨rfl, rfl⟩ := Prod.mk.inj (Option.some.inj h)
      have hne : c ≠ '.' := fun hc => hpoint r (by rw [hc])
      simp [fractionPart, hne]

/-- The sign of an exponent, and what follows it. -/
def exponentSign : List Char → Bool × List Char
  | '+' :: r => (false, r)
  | '-' :: r => (true, r)
  | r => (false, r)

theorem steady_exponentSign : Steady fun cs => some (exponentSign cs) := by
  refine steady_look rfl fun c r more => ?_
  by_cases hplus : c = '+'
  · subst hplus
    rfl
  · by_cases hminus : c = '-'
    · subst hminus
      rfl
    · simp [exponentSign, hplus, hminus]

theorem exponentPart_eq : exponentPart = andThen (fun cs => some (exponentSign cs)) fun minus =>
    someDigits fun ds => if minus then -(naturalOf ds : Int) else naturalOf ds := by
  funext cs
  exact match_digits (fun ds => if (exponentSign cs).1 then -(naturalOf ds : Int) else naturalOf ds)
    (exponentSign cs).2

theorem steady_exponentPart : Steady exponentPart := by
  rw [exponentPart_eq]
  exact steady_exponentSign.andThen fun minus => steady_someDigits _

/-- What follows the fraction of a number. -/
def behindFraction (minus : Bool) (whole fraction : List Char) :
    List Char → Option (Numeral × List Char)
  | 'e' :: r | 'E' :: r => do
    let (e, r) ← exponentPart r
    some (⟨minus, whole, fraction, e, false⟩, r)
  | r => some (⟨minus, whole, fraction, 0, fraction.isEmpty⟩, r)

theorem steady_behindFraction (minus : Bool) (whole fraction : List Char) :
    Steady (behindFraction minus whole fraction) where
  nil h := (Prod.mk.inj (Option.some.inj h)).2.symm
  append {cs n c r} h more := by
    have hexponent : Steady (andThen exponentPart fun e r =>
        some ((⟨minus, whole, fraction, e, false⟩ : Numeral), r)) :=
      steady_exponentPart.andThen fun e => steady_some _
    unfold behindFraction at h
    split at h
    · exact hexponent.append h more
    · exact hexponent.append h more
    · next he hE =>
      obtain ⟨rfl, rfl⟩ := Prod.mk.inj (Option.some.inj h)
      have hne : c ≠ 'e' := fun hc => he r (by rw [hc])
      have hne' : c ≠ 'E' := fun hc => hE r (by rw [hc])
      simp [behindFraction, hne, hne']

/-- What follows the digits in front of the fraction. -/
def behindWhole (minus : Bool) (whole : List Char) (r : List Char) : Option (Numeral × List Char) :=
  match whole with
  | [] => none
  | '0' :: _ :: _ => none
  | _ => andThen fractionPart (behindFraction minus whole) r

theorem steady_behindWhole (minus : Bool) (whole : List Char) : Steady (behindWhole minus whole) := by
  unfold behindWhole
  split
  · exact steady_none
  · exact steady_none
  · exact steady_fractionPart.andThen fun fraction => steady_behindFraction minus whole fraction

/-- The sign of a number, and what follows it. -/
def sign : List Char → Bool × List Char
  | '-' :: r => (true, r)
  | r => (false, r)

theorem steady_sign : Steady fun cs => some (sign cs) := by
  refine steady_look rfl fun c r more => ?_
  by_cases hminus : c = '-'
  · subst hminus
    rfl
  · simp [sign, hminus]

theorem numeral_eq : numeral = andThen (fun cs => some (sign cs)) fun minus =>
    andThen (fun cs => some (digits cs)) (behindWhole minus) := by
  funext cs
  rfl

theorem steady_numeral : Steady numeral := by
  rw [numeral_eq]
  exact steady_sign.andThen fun minus => steady_digits.andThen fun whole => steady_behindWhole minus whole

/-! ## Scalars -/

/-- A number, and the value that it stands for. -/
def number (rules : Rules) : List Char → Option (Value × List Char) :=
  andThen numeral fun n r => if rules.strict then n.value?.bind fun v => some (v, r) else some (.null, r)

theorem steady_number (rules : Rules) : Steady (number rules) := by
  refine steady_numeral.andThen fun n => ?_
  split
  · cases n.value? with
    | none => exact steady_none
    | some v => exact steady_some v
  · exact steady_some _

theorem steady_scalar (rules : Rules) : Steady (scalar rules) where
  nil h := nomatch h
  append {cs v c r} h more := by
    unfold scalar at h
    split at h
    · exact (closed_word? _ Value.null).append h more
    · exact (closed_word? _ (Value.bool true)).append h more
    · exact (closed_word? _ (Value.bool false)).append h more
    · exact ((closed_stringBody rules).map Value.text).append h more
    · next hn ht hf hquote =>
      cases cs with
      | nil => cases h
      | cons d t =>
        have hdn : d ≠ 'n' := fun hd => hn t (by rw [hd])
        have hdt : d ≠ 't' := fun hd => ht t (by rw [hd])
        have hdf : d ≠ 'f' := fun hd => hf t (by rw [hd])
        have hdquote : d ≠ '"' := fun hd => hquote t (by rw [hd])
        have hnumber : scalar rules (d :: t ++ more) = number rules (d :: t ++ more) := by
          simp [scalar, number, andThen, hdn, hdt, hdf, hdquote]
        rw [hnumber]
        exact (steady_number rules).append h more

/-! ## Items -/

section Items
variable {α : Type} {close : Char} {item : List Char → Option (α × List Char)}

/-- Items that were read with some fuel are read with more of it. -/
theorem itemsUntil_append (hitem : Steady item) {m n : Nat} (hle : m ≤ n) {cs r : List Char}
    {as : List α} (h : itemsUntil close item m cs = some (as, r)) (more : List Char) :
    itemsUntil close item n (cs ++ more) = some (as, r ++ more) := by
  -- a unit of fuel for each item; an item is not the last thing in the text, since its mark follows
  induction m generalizing n cs as with
  | zero => cases h
  | succ m ih =>
    obtain ⟨k, rfl⟩ : ∃ k, n = k + 1 := ⟨n - 1, by omega⟩
    obtain ⟨⟨a, t⟩, ha, hmark⟩ := Option.bind_eq_some_iff.mp h
    dsimp only at hmark
    cases ht : skipBlank t with
    | nil =>
      rw [ht] at hmark
      cases hmark
    | cons c u =>
      obtain ⟨d, t, rfl⟩ : ∃ d t', t = d :: t' :=
        List.exists_cons_of_ne_nil (by rintro rfl; cases ht)
      have hread : item (skipBlank (cs ++ more)) = some (a, d :: t ++ more) :=
        hitem.skipBlank.append ha more
      have hskip : skipBlank (d :: t ++ more) = c :: (u ++ more) := skipBlank_append_of_cons ht more
      simp only [itemsUntil, hread, Option.bind_eq_bind, Option.bind_some, hskip]
      rw [ht] at hmark
      dsimp only at hmark
      split at hmark
      · next hclose =>
        obtain ⟨rfl, rfl⟩ := Prod.mk.inj (Option.some.inj hmark)
        rw [if_pos hclose]
      · next hclose =>
        rw [if_neg hclose]
        split at hmark
        · next hcomma =>
          obtain ⟨⟨as', r'⟩, htail, heq⟩ := Option.bind_eq_some_iff.mp hmark
          obtain ⟨rfl, rfl⟩ := Prod.mk.inj (Option.some.inj heq)
          rw [if_pos hcomma, ih (by omega) htail, Option.bind_some]
        · cases hmark

theorem closed_items (hitem : Steady item) : Closed (items close item) where
  append {cs as r} h more := by
    unfold items at h ⊢
    cases hcs : skipBlank cs with
    | nil =>
      rw [hcs] at h
      cases h
    | cons c t =>
      rw [hcs] at h
      rw [skipBlank_append_of_cons hcs]
      dsimp only [List.cons_append] at h ⊢
      split at h
      · next hclose =>
        obtain ⟨rfl, rfl⟩ := Prod.mk.inj (Option.some.inj h)
        rw [if_pos hclose]
      · next hclose =>
        have hle : t.length + 1 ≤ (t ++ more).length + 1 := by
          rw [List.length_append]
          omega
        rw [if_neg hclose]
        exact itemsUntil_append hitem hle h more

end Items

/-! ## Members -/

section Behind
variable {α : Type} {read : List Char → Option (α × List Char)}

/-- A reader behind a mark. -/
def behind (mark : Char) (read : List Char → Option (α × List Char)) :
    List Char → Option (α × List Char)
  | [] => none
  | c :: r => if c = mark then read r else none

theorem Steady.behind (h : Steady read) (mark : Char) : Steady (behind mark read) where
  nil hread := nomatch hread
  append {cs a c r} hread more := by
    cases cs with
    | nil => cases hread
    | cons d t =>
      dsimp only [Json.behind] at hread
      split at hread
      · next hmark =>
        rw [List.cons_append, Json.behind, if_pos hmark]
        exact h.append hread more
      · cases hread

end Behind

theorem behindKey_eq (value : List Char → Option (Value × List Char)) (key : String) (cs : List Char) :
    (match cs with
      | ':' :: r => (value (skipBlank r)).bind fun x => some ((key, x.1), x.2)
      | _ => none) =
    behind ':' (andThen (fun cs => value (skipBlank cs)) fun v r => some ((key, v), r)) cs := by
  cases cs with
  | nil => rfl
  | cons c r =>
    by_cases h : c = ':'
    · subst h
      rfl
    · simp [behind, h]

theorem memberWith_eq (rules : Rules) (value : List Char → Option (Value × List Char)) :
    memberWith rules value = behind '"' (andThen (stringBody rules) fun key cs =>
      behind ':' (andThen (fun cs => value (skipBlank cs)) fun v r => some ((key, v), r))
        (skipBlank cs)) := by
  funext cs
  cases cs with
  | nil => rfl
  | cons c r =>
    by_cases h : c = '"'
    · subst h
      exact congrArg (Option.bind (stringBody rules r)) (funext fun x => behindKey_eq value x.1 (skipBlank x.2))
    · simp [memberWith, behind, h]

theorem steady_memberWith (rules : Rules) {value : List Char → Option (Value × List Char)}
    (h : Steady value) : Steady (memberWith rules value) := by
  rw [memberWith_eq]
  have hkey : Steady (stringBody rules) := (closed_stringBody rules).steady rfl
  refine (hkey.andThen fun key => Steady.skipBlank ?_).behind '"'
  exact (h.skipBlank.andThen fun v => steady_some (key, v)).behind ':'

/-! ## Values -/

theorem steady_value (rules : Rules) (depth : Nat) : Steady (value rules depth) := by
  induction depth with
  | zero => exact steady_scalar rules
  | succ depth ih =>
    refine ⟨fun h => (steady_scalar rules).nil h, fun {cs v c r} h more => ?_⟩
    unfold value at h
    split at h
    · exact ((closed_items ih).map Value.list).append h more
    · exact ((closed_items (steady_memberWith rules ih)).map Value.make).append h more
    · next hlist hobject =>
      cases cs with
      | nil => cases h
      | cons d t =>
        have hdlist : d ≠ '[' := fun hd => hlist t (by rw [hd])
        have hdobject : d ≠ '\x7b' := fun hd => hobject t (by rw [hd])
        have hscalar : value rules (depth + 1) (d :: t ++ more) = scalar rules (d :: t ++ more) := by
          simp [value, hdlist, hdobject]
        rw [hscalar]
        exact (steady_scalar rules).append h more

/-! ## Objects -/

theorem closed_object (rules : Rules) (depth : Nat) :
    Closed fun cs => value rules (depth + 1) ('\x7b' :: cs) :=
  (closed_items (steady_memberWith rules (steady_value rules depth))).map Value.make

theorem value?_ne_object (n : Numeral) (ms : List Member) : n.value? ≠ some (.object ms) := by
  intro h
  dsimp only [Numeral.value?] at h
  split at h
  · cases h
  · split at h
    · cases h
    · obtain ⟨x, -, h⟩ := Option.bind_eq_some_iff.mp h
      cases h

theorem scalar_ne_object (rules : Rules) (cs r : List Char) (ms : List Member) :
    scalar rules cs ≠ some (.object ms, r) := by
  intro h
  unfold scalar at h
  split at h
  case h_5 =>
    obtain ⟨n, -, hvalue⟩ := Option.bind_eq_some_iff.mp h
    dsimp only at hvalue
    split at hvalue
    · obtain ⟨v, hv, heq⟩ := Option.bind_eq_some_iff.mp hvalue
      obtain ⟨rfl, rfl⟩ := Prod.mk.inj (Option.some.inj heq)
      exact value?_ne_object _ ms hv
    · cases hvalue
  -- the words and the strings
  all_goals
    obtain ⟨t, -, heq⟩ := Option.map_eq_some_iff.mp h
    cases heq

/-- Only a brace opens an object. -/
theorem value_eq_object {rules : Rules} {depth : Nat} {cs r : List Char} {ms : List Member}
    (h : value rules (depth + 1) cs = some (.object ms, r)) : ∃ t, cs = '\x7b' :: t := by
  unfold value at h
  split at h
  · obtain ⟨x, -, heq⟩ := Option.map_eq_some_iff.mp h
    cases heq
  · exact ⟨_, rfl⟩
  · exact absurd h (scalar_ne_object rules cs r ms)

theorem skipBlank_eq_nil_of_append {r s : List Char} (h : skipBlank (r ++ s) = []) :
    skipBlank s = [] := by
  unfold skipBlank at h ⊢
  rw [List.dropWhile_eq_nil_iff] at h ⊢
  exact fun c hc => h c (List.mem_append_right r hc)

/-- No front of the text of an object is read, unless only blanks are missing. -/
theorem readList_front {p s : List Char} {ms : List Member} (hs : skipBlank s ≠ [])
    (h : readList (p ++ s) = some (.object ms)) : readList p = none := by
  obtain ⟨⟨v, r⟩, hwhole, hend⟩ := Option.bind_eq_some_iff.mp h
  dsimp only at hend
  split at hend
  · next hr =>
    obtain rfl := Option.some.inj hend
    obtain ⟨t, ht⟩ := value_eq_object hwhole
    by_contra hp
    obtain ⟨u, hu⟩ := Option.ne_none_iff_exists'.mp hp
    obtain ⟨⟨v, q⟩, hfront, hend⟩ := Option.bind_eq_some_iff.mp hu
    -- the front begins with the same brace, so its value is that of the whole
    cases hskip : skipBlank p with
    | nil =>
      rw [hskip] at hfront
      cases hfront
    | cons c w =>
      have hcw : skipBlank (p ++ s) = c :: w ++ s := skipBlank_append_of_cons hskip s
      obtain ⟨rfl, rfl⟩ : c = '\x7b' ∧ w ++ s = t := List.cons.inj (hcw.symm.trans ht)
      rw [hskip] at hfront
      have hgrown := (closed_object ⟨true⟩ _).append hfront s
      rw [ht] at hwhole
      obtain ⟨-, rfl⟩ := Prod.mk.inj (Option.some.inj (hgrown.symm.trans hwhole))
      exact hs (skipBlank_eq_nil_of_append hr)
  · cases hend

end CycleLog.Json
