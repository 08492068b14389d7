import CycleLog.Proofs.Enclosing

/-!
# Escapes with a parenthesis behind the pattern

What a backslash introduces is read alike with the parenthesis behind the pattern (`escape_enclosed`), with one
exception: `\b` with an opening brace at the end is neither an edge nor the beginning of one, but in front of a
parenthesis it is an edge with a brace behind it. That brace opens no bounds (`BraceBehind`), so the pattern is none
either way.
-/

namespace CycleLog.Pattern
set_option autoImplicit false

/-! ## Codes of characters -/

theorem hexFixed_enclosed (m : Mode) (k v : Nat) (cs : List Char) :
    Enclosed cs.length (hexFixed m k v cs) (hexFixed m k v (cs ++ [')'])) := by
  induction k generalizing v cs with
  | zero => exact .kept (b := (v, cs)) (Nat.le_refl _)
  | succ k ih =>
    cases cs with
    | nil => exact .refused
    | cons c r =>
      refine .given fun d => ?_
      have hr := skip_tied m r
      generalize m.skip r = x, m.skip (r ++ [')']) = x' at hr
      cases hr with
      | kept short => exact (ih _ _).mono (Nat.le_succ_of_le short)
      | swallowed =>
        cases k with
        | zero => exact .swallowed rfl
        | succ k => exact .refused

theorem hexBraced_enclosed (m : Mode) {fuel fuel' : Nat} (some_ : Bool) (v : Nat) (cs : List Char)
    (h : cs.length < fuel) (h' : cs.length + 1 < fuel') :
    Enclosed cs.length (hexBraced m some_ v fuel cs) (hexBraced m some_ v fuel' (cs ++ [')'])) := by
  induction fuel generalizing fuel' some_ v cs with
  | zero => omega
  | succ fuel ih =>
    obtain ⟨fuel', rfl⟩ := Nat.exists_eq_succ_of_ne_zero (Nat.ne_of_gt (Nat.zero_lt_of_lt h'))
    rw [hexBraced, hexBraced]
    have hr := skip_tied m cs
    generalize m.skip cs = x, m.skip (cs ++ [')']) = x' at hr
    apply hr.look
    · exact .refused
    · exact .refused
    · intro c r short
      simp only
      split
      · split
        · exact .kept (b := (v, r)) (Nat.le_of_lt short)
        · exact .refused
      · refine .given fun d => ?_
        exact (ih true _ r (by omega) (by omega)).mono (Nat.le_of_lt short)

theorem codeEscape_enclosed (m : Mode) (digits : Nat) (hdigits : digits ≠ 0) (cs : List Char) :
    Enclosed cs.length (codeEscape m digits cs) (codeEscape m digits (cs ++ [')'])) := by
  obtain ⟨k, rfl⟩ := Nat.exists_eq_succ_of_ne_zero hdigits
  have hcode (byte : Bool) (v : Nat) (r : List Char) :
      ((charOf? v).bind fun c => some (Escape.char c byte, r)) =
        ((charOf? v).map (Escape.char · byte)).map (·, r) := by
    cases charOf? v <;> rfl
  rw [codeEscape, codeEscape]
  have hr := skip_tied m cs
  generalize m.skip cs = x, m.skip (cs ++ [')']) = x' at hr
  apply hr.look
  · exact .refused
  · exact .refused
  · intro c r short
    simp only
    split
    · next heq =>
      cases heq
      exact (hexBraced_enclosed m false 0 r (Nat.lt_succ_self _) (by simp)).convert
        (Nat.le_of_lt short) _ (hcode false)
    · next hbrace =>
      split
      · next heq => cases heq; exact absurd rfl (hbrace r)
      · exact (hexFixed_enclosed m (k + 1) 0 (c :: r)).convert short _ (hcode (k + 1 == 2))

/-! ## Names in braces -/

theorem bracedName_nil (m : Mode) (fuel : Nat) : bracedName m fuel [] = none := by
  cases fuel with
  | zero => rfl
  | succ fuel => rw [bracedName, skip_nil]

theorem bracedName_enclosed (m : Mode) {fuel fuel' : Nat} (cs : List Char)
    (h : cs.length < fuel) (h' : cs.length + 1 < fuel') :
    Enclosed cs.length (bracedName m fuel cs) (bracedName m fuel' (cs ++ [')'])) := by
  induction fuel generalizing fuel' cs with
  | zero => omega
  | succ fuel ih =>
    obtain ⟨fuel', rfl⟩ := Nat.exists_eq_succ_of_ne_zero (Nat.ne_of_gt (Nat.zero_lt_of_lt h'))
    rw [bracedName, bracedName]
    have hr := skip_tied m cs
    generalize m.skip cs = x, m.skip (cs ++ [')']) = x' at hr
    apply hr.look
    · exact .refused
    · simpa [bracedName_nil] using Enclosed.refused
    · intro c r short
      simp only
      split
      · exact .kept (b := (([] : List Char), r)) (Nat.le_of_lt short)
      · apply (ih r (by omega) (by omega)).bind
        · exact fun ⟨name, r'⟩ hr' =>
            .kept (b := (c :: name, r')) (Nat.le_trans hr' (Nat.le_of_lt short))
        · exact fun ⟨name, r'⟩ nothing => .given nothing

/-- The name of a property, with or without braces. -/
def propertyName? (m : Mode) (cs : List Char) : Option (List Char × List Char) :=
  match m.skip cs with
  | [] => none
  | c :: r =>
    if c = '\x7b' then bracedName m (r.length + 1) r
    else if c = '\\' then none
    else some ([c], r)

/-- The class of a property, or of all characters without it. -/
def propertyOf? (m : Mode) (negated : Bool) (name : List Char) : Option Escape :=
  (propertyIn? name).bind fun p =>
    let c := m.folded (.property p)
    if m.unicode then some (.set (if negated then .other c else c)) else none

theorem propertyEscape_eq (m : Mode) (negated : Bool) (cs : List Char) :
    propertyEscape m negated cs =
      (propertyName? m cs).bind fun (name, r) => (propertyOf? m negated name).map (·, r) := by
  have hproperty (name r : List Char) :
      ((propertyIn? name).bind fun p =>
        if m.unicode then
          let c := m.folded (.property p)
          some (Escape.set (if negated then .other c else c), r)
        else none) = (propertyOf? m negated name).map (·, r) := by
    rw [propertyOf?]
    cases propertyIn? name with
    | none => rfl
    | some p =>
      simp only [Option.bind_some]
      split <;> rfl
  rw [propertyEscape, propertyName?]
  generalize m.skip cs = x
  simp only [← hproperty]
  split
  · rfl
  · rfl
  · next hbrace =>
    simp only [if_neg hbrace]
    split <;> rfl

theorem propertyName_enclosed (m : Mode) (cs : List Char) :
    Enclosed cs.length (propertyName? m cs) (propertyName? m (cs ++ [')'])) := by
  rw [propertyName?, propertyName?]
  have hr := skip_tied m cs
  generalize m.skip cs = x, m.skip (cs ++ [')']) = x' at hr
  apply hr.look
  · exact .refused
  · exact .used rfl
  · intro c r short
    simp only
    split
    · exact (bracedName_enclosed m r (Nat.lt_succ_self _) (by simp)).mono (Nat.le_of_lt short)
    · split
      · exact .refused
      · exact .kept (b := ([c], r)) (Nat.le_of_lt short)

theorem propertyEscape_enclosed (m : Mode) (negated : Bool) (cs : List Char) :
    Enclosed cs.length (propertyEscape m negated cs) (propertyEscape m negated (cs ++ [')'])) := by
  rw [propertyEscape_eq, propertyEscape_eq]
  exact (propertyName_enclosed m cs).convert (Nat.le_refl _) _ fun _ _ => rfl

/-! ## Counts -/

theorem countDigits_close (spaced : Bool) : countDigits spaced false [')'] = ([], [')']) := by
  cases spaced <;> decide

theorem count_close (m : Mode) : count? m [')'] = none := by
  have htrim : Text.trimStart [')'] = [')'] := by decide
  rw [count?, htrim, countDigits_close]

theorem bounds_close {m : Mode} {cs : List Char} (h : m.skip cs = [')']) : bounds? m cs = none := by
  rw [bounds?, h, count_close]
  rfl

/-! ## Edges of words -/

def isEdgeLetter (c : Char) : Bool := c.isAlpha || c == '-'

/-- The edge with the name that stands in braces. -/
def edgeNamed? (m : Mode) (name : List Char) : Option Edge :=
  if name.all isEdgeLetter then
    match String.ofList name with
    | "start" => some (.wordStart !m.unicode)
    | "end" => some (.wordEnd !m.unicode)
    | "start-half" => some (.halfStart !m.unicode)
    | "end-half" => some (.halfEnd !m.unicode)
    | _ => none
  else none

theorem wordEscape_plain (m : Mode) {cs : List Char} (h : ∀ r, cs ≠ '\x7b' :: r) :
    wordEscape m cs = some (.edge (.wordEdge !m.unicode), cs) := by
  have hname : edgeName m cs = some none := by
    rw [edgeName]
    exact h
  rw [wordEscape, hname]
  rfl

theorem wordEscape_brace (m : Mode) (r : List Char) :
    wordEscape m ('\x7b' :: r) =
      match m.skip r with
      | [] => none
      | c :: _ =>
        if isEdgeLetter c then
          (bracedName m (r.length + 1) r).bind fun (name, r) =>
            (edgeNamed? m name).bind fun e => some (.edge e, r)
        else some (.edge (.wordEdge !m.unicode), '\x7b' :: r) := by
  rw [wordEscape, edgeName]
  simp only
  cases m.skip r with
  | nil => rfl
  | cons c _ =>
    have hall (name : List Char) : (name.all fun c => c.isAlpha || c == '-') = name.all isEdgeLetter := rfl
    have hc : (c.isAlpha || c == '-') = isEdgeLetter c := rfl
    simp only [hall, hc, edgeNamed?]
    cases isEdgeLetter c with
    | false => rfl
    | true =>
      simp only [if_true]
      cases bracedName m (r.length + 1) r with
      | none => rfl
      | some x =>
        simp only [Option.bind_eq_bind, Option.bind_some]
        cases x.1.all isEdgeLetter with
        | false => rfl
        | true =>
          simp only [if_true, Option.bind_some]
          split <;> simp [*]

/-- The parenthesis lets a reader give that result, but a brace stands behind it that opens no bounds. -/
def BraceBehind {α : Type} (m : Mode) (a : α) (x x' : Option (α × List Char)) : Prop :=
  x = none ∧ ∃ r, x' = some (a, '\x7b' :: r) ∧ bounds? m r = none

theorem wordEscape_enclosed (m : Mode) (cs : List Char) :
    Enclosed cs.length (wordEscape m cs) (wordEscape m (cs ++ [')'])) ∨
      ∃ e, BraceBehind m (.edge e) (wordEscape m cs) (wordEscape m (cs ++ [')'])) := by
  have hplain (h : ∀ r, cs ≠ '\x7b' :: r) (h' : ∀ r, cs ++ [')'] ≠ '\x7b' :: r) :
      Enclosed cs.length (wordEscape m cs) (wordEscape m (cs ++ [')'])) := by
    rw [wordEscape_plain m h, wordEscape_plain m h']
    exact .kept (b := (Escape.edge _, cs)) (Nat.le_refl _)
  cases cs with
  | nil => exact .inl (hplain nofun (by simp))
  | cons c r =>
    by_cases hc : c = '\x7b'
    · subst hc
      rw [List.cons_append, wordEscape_brace, wordEscape_brace]
      have hr := skip_tied m r
      have hclose : m.skip (r ++ [')']) = [')'] → bounds? m (r ++ [')']) = none := bounds_close
      generalize m.skip r = x, m.skip (r ++ [')']) = x' at hr hclose
      cases hr with
      | swallowed => exact .inl .refused
      | kept short =>
        cases x with
        -- no name begins with a parenthesis, so the brace is left behind the edge
        | nil => exact .inr ⟨_, rfl, _, rfl, hclose rfl⟩
        | cons d y =>
          refine .inl ?_
          simp only [List.cons_append]
          split
          · refine (bracedName_enclosed m r (Nat.lt_succ_self _) (by simp)).convert (Nat.le_succ _)
              (fun name => (edgeNamed? m name).map Escape.edge) fun name r' => ?_
            cases edgeNamed? m name <;> rfl
          · exact .kept (b := (Escape.edge _, '\x7b' :: r)) (Nat.le_refl _)
    · exact .inl (hplain (by simpa using hc) (by simpa using hc))

/-! ## Escapes -/

theorem escape_enclosed (m : Mode) (cs : List Char) :
    Enclosed cs.length (escape? m cs) (escape? m (cs ++ [')'])) ∨
      ∃ e, BraceBehind m (.edge e) (escape? m cs) (escape? m (cs ++ [')'])) := by
  cases cs with
  | nil => exact .inl (.used (b := (Escape.char ')' false, ([] : List Char))) rfl)
  | cons c r =>
    have hclass (negated : Bool) (all ascii : Class) :
        Enclosed (r.length + 1) ((classEscape m negated all ascii).map (·, r))
          ((classEscape m negated all ascii).map (·, r ++ [')'])) := by
      cases classEscape m negated all ascii with
      | none => exact .refused
      | some e => exact .kept (b := (e, r)) (Nat.le_succ _)
    have hgiven (e : Escape) : Enclosed (r.length + 1) (some (e, r)) (some (e, r ++ [')'])) :=
      .kept (b := (e, r)) (Nat.le_succ _)
    rw [escape?.eq_def m (c :: r)]
    split
    · next heq => cases heq
    · next heq => cases heq; exact .inl ((codeEscape_enclosed m 2 (by decide) r).mono (Nat.le_succ _))
    · next heq => cases heq; exact .inl ((codeEscape_enclosed m 4 (by decide) r).mono (Nat.le_succ _))
    · next heq => cases heq; exact .inl ((codeEscape_enclosed m 8 (by decide) r).mono (Nat.le_succ _))
    · next heq => cases heq; exact .inl ((propertyEscape_enclosed m false r).mono (Nat.le_succ _))
    · next heq => cases heq; exact .inl ((propertyEscape_enclosed m true r).mono (Nat.le_succ _))
    iterate 6 next heq => cases heq; exact .inl (hclass _ _ _)
    iterate 8 next heq => cases heq; exact .inl (hgiven _)
    · next heq =>
      cases heq
      exact (wordEscape_enclosed m r).imp_left fun h => h.mono (Nat.le_succ _)
    iterate 3 next heq => cases heq; exact .inl (hgiven _)
    · next heq =>
      cases heq
      have htied : escape? m (c :: r ++ [')']) =
          if c.toNat < 0x80 && !c.isAlphanum then some (.char c false, r ++ [')']) else none := by
        rw [List.cons_append, escape?] <;> assumption
      rw [htied]
      left
      split
      · exact hgiven _
      · exact .refused

end CycleLog.Pattern
