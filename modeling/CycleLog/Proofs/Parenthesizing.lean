import CycleLog.Proofs.Bracketing

/-!
# Groups with a parenthesis behind the pattern

Bounds, single parts and openings of groups are read alike with a closing parenthesis behind the pattern, and from
that, by induction on the fuel, whole groups (`group_enclosed`).
-/

namespace CycleLog.Pattern
set_option autoImplicit false

open Leaves

/-! ## Counts and bounds -/

theorem trimStart_tied (cs : List Char) : Text.trimStart (cs ++ [')']) = Text.trimStart cs ++ [')'] := by
  have hclose : Text.trimStart [')'] = [')'] := by decide
  rw [Text.trimStart, List.dropWhile_append]
  split
  · next hnil => rw [Text.trimStart, List.isEmpty_iff.mp hnil]; exact hclose
  · rfl

theorem length_trimStart_le (cs : List Char) : (Text.trimStart cs).length ≤ cs.length :=
  (List.dropWhile_suffix _).length_le

theorem countDigits_tied (spaced comment : Bool) (cs : List Char) :
    (countDigits spaced comment cs).1 = (countDigits spaced comment (cs ++ [')'])).1 ∧
      Tied cs.length (countDigits spaced comment cs).2 (countDigits spaced comment (cs ++ [')'])).2 := by
  induction cs generalizing comment with
  | nil =>
    cases comment with
    | false =>
      rw [List.nil_append, countDigits_close]
      exact ⟨rfl, .kept (Nat.le_refl _)⟩
    | true => exact ⟨rfl, .swallowed⟩
  | cons c r ih =>
    have hmore (comment : Bool) := (ih comment).imp_right fun h => h.mono (Nat.le_succ _)
    rw [List.cons_append, countDigits, countDigits]
    split
    · exact hmore _
    · split
      · exact ⟨congrArg (c :: ·) (hmore false).1, (hmore false).2⟩
      · split
        · exact hmore _
        · split
          · exact hmore _
          · exact ⟨rfl, .kept (r := c :: r) (Nat.le_refl _)⟩

theorem count_enclosed (m : Mode) (cs : List Char) :
    Enclosed cs.length (count? m cs) (count? m (cs ++ [')'])) := by
  have hdigits := countDigits_tied m.spaced false (Text.trimStart cs)
  rw [count?, count?, trimStart_tied]
  generalize countDigits m.spaced false (Text.trimStart cs) = x,
    countDigits m.spaced false (Text.trimStart cs ++ [')']) = x' at hdigits
  obtain ⟨ds, r⟩ := x
  obtain ⟨ds', r'⟩ := x'
  obtain ⟨heq, hr⟩ := hdigits
  obtain rfl : ds = ds' := heq
  cases ds with
  | nil => exact .refused
  | cons d ds =>
    have hrest : Enclosed cs.length (some (Json.naturalOf (d :: ds), m.skip (Text.trimStart r)))
        (some (Json.naturalOf (d :: ds), m.skip (Text.trimStart r'))) := by
      have hskip : Tied cs.length (m.skip (Text.trimStart r)) (m.skip (Text.trimStart r')) := by
        change Tied _ r r' at hr
        cases hr with
        | kept short =>
          rw [trimStart_tied]
          refine (skip_tied m _).mono ?_
          exact Nat.le_trans (length_trimStart_le r) (Nat.le_trans short (length_trimStart_le cs))
        | swallowed =>
          rw [show Text.trimStart [] = [] from rfl, skip_nil]
          exact .swallowed
      generalize m.skip (Text.trimStart r) = y, m.skip (Text.trimStart r') = y' at hskip
      cases hskip with
      | kept short => exact .kept (b := (Json.naturalOf (d :: ds), y)) short
      | swallowed => exact .swallowed rfl
    simp only
    split
    · exact hrest
    · exact .refused

/-- The bounds of a repetition, and what is left behind the closing brace. -/
abbrev Bounds := (Nat × Option Nat) × List Char

/-- What stands behind the upper bound. -/
def behindMost? (least : Nat) : Nat × List Char → Option Bounds
  | (_, []) => none
  | (most, c :: r) => if c = '\x7d' ∧ least ≤ most then some ((least, some most), r) else none

/-- What stands behind the comma. -/
def behindComma? (m : Mode) (least : Nat) : List Char → Option Bounds
  | [] => none
  | c :: r =>
    if c = '\x7d' then some ((least, none), r) else (count? m (c :: r)).bind (behindMost? least)

/-- What stands behind the lower bound. -/
def behindLeast? (m : Mode) : Nat × List Char → Option Bounds
  | (_, []) => none
  | (least, c :: r) =>
    if c = '\x7d' then some ((least, some least), r)
    else if c = ',' then behindComma? m least (m.skip r)
    else none

theorem behindMost_eq (least : Nat) (x : Nat × List Char) :
    (match x with
      | (most, r) =>
        match r with
        | '\x7d' :: r => if least ≤ most then some ((least, some most), r) else none
        | _ => none) = behindMost? least x := by
  obtain ⟨most, r⟩ := x
  simp only
  split
  · simp [behindMost?]
  · next hbrace =>
    cases r with
    | nil => rfl
    | cons c r =>
      rw [behindMost?, if_neg]
      rintro ⟨rfl, -⟩
      exact hbrace r rfl

theorem bounds_eq (m : Mode) (cs : List Char) :
    bounds? m cs = (count? m (m.skip cs)).bind (behindLeast? m) := by
  rw [bounds?]
  cases count? m (m.skip cs) with
  | none => rfl
  | some x =>
    obtain ⟨least, r⟩ := x
    simp only [Option.bind_eq_bind, Option.bind_some]
    split
    · simp [behindLeast?]
    · next r =>
      rw [behindLeast?, if_neg (by decide), if_pos rfl]
      generalize m.skip r = y
      split
      · simp [behindComma?]
      · next hbrace =>
        cases y with
        | nil => rfl
        | cons c y =>
          rw [behindComma?, if_neg fun h => hbrace y (by rw [h])]
          exact congrArg _ (funext (behindMost_eq least))
    · next hbrace hcomma =>
      cases r with
      | nil => rfl
      | cons c r =>
        rw [behindLeast?, if_neg fun h => hbrace r (by rw [h]), if_neg fun h => hcomma r (by rw [h])]

theorem behindComma_enclosed (m : Mode) (least : Nat) {n : Nat} {x x' : List Char} (h : Tied n x x') :
    Enclosed n (behindComma? m least x) (behindComma? m least x') := by
  apply h.look
  · exact .refused
  · rw [behindComma?, behindComma?, if_neg (by decide), count_close]
    exact .refused
  · intro c r short
    rw [behindComma?, behindComma?]
    split
    · exact .kept (b := ((least, none), r)) (Nat.le_of_lt short)
    · apply ((count_enclosed m (c :: r)).mono short).bind
      · rintro ⟨most, r'⟩ hr'
        cases r' with
        | nil => exact .refused
        | cons d r' =>
          change Enclosed n (if _ then _ else none) (if _ then _ else none)
          split
          · exact .kept (b := ((least, some most), r')) (Nat.le_of_succ_le hr')
          · exact .refused
      · rintro ⟨most, r'⟩ nothing
        obtain rfl : r' = [] := nothing
        exact .refused

theorem bounds_enclosed (m : Mode) (cs : List Char) :
    Enclosed cs.length (bounds? m cs) (bounds? m (cs ++ [')'])) := by
  have hcount : Enclosed cs.length (count? m (m.skip cs)) (count? m (m.skip (cs ++ [')']))) := by
    have hr := skip_tied m cs
    generalize m.skip cs = x, m.skip (cs ++ [')']) = x' at hr
    cases hr with
    | kept short => exact (count_enclosed m x).mono short
    | swallowed => exact .refused
  rw [bounds_eq, bounds_eq]
  apply hcount.bind
  · rintro ⟨least, r⟩ short
    cases r with
    | nil => exact .refused
    | cons c r =>
      change Enclosed cs.length (behindLeast? m (least, c :: r)) (behindLeast? m (least, c :: (r ++ [')'])))
      rw [behindLeast?, behindLeast?]
      split
      · exact .kept (b := ((least, some least), r)) (Nat.le_of_succ_le short)
      · split
        · exact (behindComma_enclosed m least (skip_tied m r)).mono (Nat.le_of_succ_le short)
        · exact .refused
  · rintro ⟨least, r⟩ nothing
    obtain rfl : r = [] := nothing
    exact .refused

/-! ## Parts -/

/-- What an escape stands for outside of brackets. -/
def escapePattern? (m : Mode) : Escape → Option Pattern
  | .char c byte => if byte && !m.unicode && 0x80 ≤ c.toNat then none else some (charPattern m c)
  | .set c => some (.one c)
  | .edge e => some (.edge e)

theorem escaped_eq (m : Mode) (cs : List Char) :
    escaped? m cs = (escape? m cs).bind fun (e, r) => (escapePattern? m e).map (·, r) := by
  rw [escaped?]
  cases escape? m cs with
  | none => rfl
  | some x =>
    obtain ⟨e, r⟩ := x
    cases e with
    | char c byte => simp only [Option.bind_eq_bind, Option.bind_some, escapePattern?]; split <;> rfl
    | set c => rfl
    | edge e => rfl

theorem escaped_enclosed (m : Mode) (cs : List Char) :
    Enclosed cs.length (escaped? m cs) (escaped? m (cs ++ [')'])) ∨
      ∃ p, BraceBehind m p (escaped? m cs) (escaped? m (cs ++ [')'])) := by
  rw [escaped_eq, escaped_eq]
  rcases escape_enclosed m cs with h | ⟨e, h, s, h', hs⟩
  · exact .inl (h.convert (Nat.le_refl _) _ fun _ _ => rfl)
  · rw [h, h']
    exact .inr ⟨.edge e, rfl, s, rfl, hs⟩

theorem atom_enclosed (m : Mode) (c : Char) (r : List Char) :
    Enclosed r.length (atom? m (c :: r)) (atom? m (c :: (r ++ [')']))) ∨
      ∃ x, BraceBehind m x (atom? m (c :: r)) (atom? m (c :: (r ++ [')']))) := by
  rw [atom?.eq_def m (c :: r)]
  split
  · next heq => cases heq
  · next heq =>
    cases heq
    left
    exact (bracket_enclosed m r).map _ (fun _ => List.suffix_rfl) fun _ => rfl
  · next heq =>
    cases heq
    change Enclosed _ ((escaped? m r).map _) ((escaped? m (r ++ [')'])).map _) ∨
      ∃ x, BraceBehind m x ((escaped? m r).map _) ((escaped? m (r ++ [')'])).map _)
    rcases escaped_enclosed m r with h | ⟨p, h, s, h', hs⟩
    · exact .inl (h.map _ (fun _ => List.suffix_rfl) fun _ => rfl)
    · rw [h, h']
      exact .inr ⟨(p, 0), rfl, s, rfl, hs⟩
  · next heq =>
    cases heq
    left
    change Enclosed _ ((dot? m).map fun p => ((p, 0), r)) ((dot? m).map fun p => ((p, 0), r ++ [')']))
    cases dot? m with
    | none => exact .refused
    | some p => exact .kept (b := ((p, 0), r)) (Nat.le_refl _)
  · next heq => cases heq; exact .inl (.kept (b := ((Pattern.edge _, 0), r)) (Nat.le_refl _))
  · next heq => cases heq; exact .inl (.kept (b := ((Pattern.edge _, 0), r)) (Nat.le_refl _))
  · next hbracket hescape hdot hcaret hdollar heq =>
    cases heq
    left
    have hchar : atom? m (c :: (r ++ [')'])) = some ((charPattern m c, 0), r ++ [')']) := by
      rw [atom?] <;> assumption
    rw [hchar]
    exact .kept (b := ((charPattern m c, 0), r)) (Nat.le_refl _)

theorem skipLazy_tied (r : List Char) : skipLazy (r ++ [')']) = skipLazy r ++ [')'] := by
  cases r with
  | nil => rfl
  | cons c r =>
    by_cases hc : c = '?'
    · subst hc; rfl
    · have hother (s : List Char) : skipLazy (c :: s) = c :: s := by
        rw [skipLazy]
        exact fun r h => hc (List.cons.inj h).1
      rw [List.cons_append, hother, hother]
      rfl

theorem skipLazy_suffix (r : List Char) : skipLazy r <:+ r := by
  rw [skipLazy.eq_def]
  split
  · exact List.suffix_cons _ _
  · exact List.suffix_rfl

/-- What is repeated stands in front of the bounds, so it does not depend on what is left. -/
theorem repeated_enclosed (o : Option Progress) {n : Nat} {x x' : List Char} (h : Tied n x x') :
    Enclosed n (o.map (·, skipLazy x)) (o.map (·, skipLazy x')) := by
  cases o with
  | none => exact .refused
  | some g =>
    cases h with
    | kept short =>
      rw [skipLazy_tied]
      exact .kept (b := (g, skipLazy x)) (Nat.le_trans (skipLazy_suffix x).length_le short)
    | swallowed => exact .swallowed rfl

theorem repetition_enclosed (m : Mode) (g : Progress) (r : List Char) :
    Enclosed r.length
      ((bounds? m r).bind fun (b, r) => (g.repeated? b.1 b.2).map (·, skipLazy (m.skip r)))
      ((bounds? m (r ++ [')'])).bind fun (b, r) => (g.repeated? b.1 b.2).map (·, skipLazy (m.skip r))) := by
  apply (bounds_enclosed m r).bind
  · exact fun ⟨b, s⟩ short => repeated_enclosed _ ((skip_tied m s).mono short)
  · rintro ⟨b, s⟩ nothing
    obtain rfl : s = [] := nothing
    simp only [skip_nil]
    cases g.repeated? b.1 b.2 with
    | none => exact .refused
    | some g' => exact .given rfl

theorem part_enclosed (m : Mode) (g : Progress) (c : Char) (r : List Char) :
    Enclosed r.length (part? m g c r) (part? m g c (r ++ [')'])) ∨
      ∃ g', BraceBehind m g' (part? m g c r) (part? m g c (r ++ [')'])) := by
  have htied : Tied r.length r (r ++ [')']) := .kept (Nat.le_refl _)
  rw [part?, part?]
  split
  · exact .inl (.kept (b := (g.next, r)) (Nat.le_refl _))
  · split
    · exact .inl (repeated_enclosed _ htied)
    · split
      · exact .inl (repeated_enclosed _ htied)
      · split
        · exact .inl (repeated_enclosed _ htied)
        · split
          · exact .inl (repetition_enclosed m g r)
          · rcases atom_enclosed m c r with h | ⟨p, h, s, h', hs⟩
            · exact .inl (h.map _ (fun _ => List.suffix_rfl) fun _ => rfl)
            · rw [h, h']
              exact .inr ⟨_, rfl, s, rfl, hs⟩

/-! ## Openings -/

theorem settings_enclosed (m : Mode) (used : List Char) (minus dangling : Bool) (cs : List Char) :
    Enclosed cs.length (settings m used minus dangling cs)
      (settings m used minus dangling (cs ++ [')'])) := by
  induction cs generalizing m used minus dangling with
  | nil =>
    change Enclosed _ none (if _ then none else some (m, false, []))
    split
    · exact .refused
    · exact .used rfl
  | cons c r ih =>
    have hmore (m : Mode) (used : List Char) (minus dangling : Bool) :=
      (ih m used minus dangling).mono (Nat.le_succ _)
    rw [settings.eq_def _ _ _ _ (c :: r)]
    split
    · next heq => cases heq
    · next heq =>
      cases heq
      change Enclosed _ _ (if dangling then none else some (m, true, r ++ [')']))
      split
      · exact .refused
      · exact .kept (b := (m, true, r)) (Nat.le_succ _)
    · next heq =>
      cases heq
      change Enclosed _ _ (if dangling || used.isEmpty then none else some (m, false, r ++ [')']))
      split
      · exact .refused
      · exact .kept (b := (m, false, r)) (Nat.le_succ _)
    · next heq =>
      cases heq
      change Enclosed _ _ (if minus then none else settings m ('-' :: used) true true (r ++ [')']))
      split
      · exact .refused
      · exact hmore _ _ _ _
    · next hcolon hclose hminus heq =>
      cases heq
      have hflag (s : List Char) : settings m used minus dangling (c :: s) =
          if used.contains c then none
          else (m.set c (!minus)).bind fun m => settings m (c :: used) minus false s := by
        rw [settings]
        · rfl
        all_goals assumption
      change Enclosed _ (if used.contains c then none
        else (m.set c (!minus)).bind fun m => settings m (c :: used) minus false r) _
      rw [List.cons_append, hflag]
      split
      · exact .refused
      · exact .given fun m => hmore m _ _ _

theorem groupName_close {name r : List Char} (h : ∀ c ∈ name, (c != '>') = true) :
    groupName? (name ++ '>' :: r) =
      if name.head?.any isNameStart && name.tail.all isNamePart then some (String.ofList name, r) else none := by
  have hstretch : Text.Stretch (· != '>') name ('>' :: r) := ⟨h, by simp⟩
  rw [groupName?, hstretch.takeWhile_eq, hstretch.dropWhile_eq]
  cases name with
  | nil => rfl
  | cons c name => simp

theorem groupName_open {name : List Char} (h : ∀ c ∈ name, (c != '>') = true) : groupName? name = none := by
  rw [groupName?, List.dropWhile_eq_nil_iff.mpr h]
  simp

/-- A group name ends before the pattern does. -/
theorem groupName_tied (cs : List Char) : groupName? (cs ++ [')']) = (groupName? cs).map tied := by
  have hclose : (')' != '>') = true := by decide
  obtain ⟨hname, hend⟩ := Text.stretch_span (· != '>') cs
  rw [← List.takeWhile_append_dropWhile (p := (· != '>')) (l := cs)]
  generalize cs.takeWhile (· != '>') = name, cs.dropWhile (· != '>') = r at hname hend
  cases r with
  | nil =>
    rw [List.append_nil, groupName_open hname, groupName_open]
    · rfl
    · intro c hc
      rcases List.mem_append.mp hc with hc | hc
      · exact hname c hc
      · rwa [List.mem_singleton.mp hc]
  | cons c r =>
    obtain rfl : c = '>' := by simpa using hend c rfl
    rw [List.append_assoc, List.cons_append, groupName_close hname, groupName_close hname]
    split <;> rfl

theorem groupName_shorter {cs r : List Char} {name : String} (h : groupName? cs = some (name, r)) :
    r.length ≤ cs.length := by
  rw [groupName?] at h
  split at h
  · next _ _ _ _ _ hdrop =>
    split at h
    · cases h
      have := (List.dropWhile_suffix (p := (· != '>')) (l := cs)).length_le
      rw [hdrop, List.length_cons] at this
      exact Nat.le_of_succ_le this
    · cases h
  · cases h

theorem namedGroup_enclosed (cur : Cursor) (cs : List Char) :
    Enclosed cs.length (namedGroup cur cs) (namedGroup (tied cur) (cs ++ [')'])) := by
  have hname : Enclosed cs.length (groupName? cs) (groupName? (cs ++ [')'])) := by
    rw [groupName_tied]
    cases h : groupName? cs with
    | none => exact .refused
    | some x => exact .kept (groupName_shorter h)
  refine hname.convert (Nat.le_refl _) (fun name => if cur.names.contains name then none
    else some (Opening.group cur.mode (name :: cur.names))) fun name r => ?_
  change (if cur.names.contains name then none else some _) = _
  split <;> rfl

/-- Whether a group looks ahead or behind. -/
def looksAround : List Char → Bool
  | '=' :: _ | '!' :: _ | '<' :: '=' :: _ | '<' :: '!' :: _ => true
  | _ => false

/-- What stands behind the mark of a group with a name. -/
def named? : List Char → Option (List Char)
  | 'P' :: '<' :: r | '<' :: r => some r
  | _ => none

/-- What stands behind an opening parenthesis and a question mark. -/
def marked? (cur : Cursor) (cs : List Char) : Option (Opening × List Char) :=
  if looksAround cs then none
  else match named? cs with
    | some r => namedGroup cur r
    | none => (settings cur.mode [] false false cs).map fun (m, isGroup, r) =>
      (if isGroup then .group m cur.names else .settings m, r)

section Opening
variable (cur : Cursor) {cs r : List Char}

theorem opening?_marked (h : cur.mode.skip cs = '?' :: r) : opening? cur cs = marked? cur r := by
  rw [opening?, h, marked?]
  split
  iterate 4 next heq => cases heq; rfl
  · next heq => cases heq; rfl
  · next r hahead hnot heq =>
    cases heq
    have hlook : looksAround ('<' :: r) = false := by
      rw [looksAround] <;> intros <;> simp_all
    rw [hlook]
    rfl
  · next hahead hnot hbehind hnotBehind hletter hname heq =>
    cases heq
    have hlook : looksAround r = false := by rw [looksAround] <;> assumption
    have hnamed : named? r = none := by rw [named?] <;> assumption
    rw [hlook, hnamed]
    cases settings cur.mode [] false false r <;> rfl
  · next h => exact absurd rfl (h _)

theorem opening?_plain (h : cur.mode.skip cs = r) (hr : ∀ s, r ≠ '?' :: s) :
    opening? cur cs = some (.group cur.mode cur.names, r) := by
  rw [opening?, h]
  split
  all_goals first | exact absurd rfl (hr _) | rfl

end Opening

theorem looksAround_tied (cs : List Char) : looksAround (cs ++ [')']) = looksAround cs := by
  rw [looksAround.eq_def cs]
  split
  iterate 4 rfl
  · next hahead hnot hbehind hnotBehind =>
    rw [looksAround]
    · exact not_front_of_tied ['='] (by decide) hahead
    · exact not_front_of_tied ['!'] (by decide) hnot
    · exact not_front_of_tied ['<', '='] (by decide) hbehind
    · exact not_front_of_tied ['<', '!'] (by decide) hnotBehind

theorem named_tied (cs : List Char) : named? (cs ++ [')']) = (named? cs).map (· ++ [')']) := by
  rw [named?.eq_def cs]
  split
  · rfl
  · rfl
  · next hletter hname =>
    rw [named?]
    · rfl
    · exact not_front_of_tied ['P', '<'] (by decide) hletter
    · exact not_front_of_tied ['<'] (by decide) hname

theorem named_shorter {cs r : List Char} (h : named? cs = some r) : r.length ≤ cs.length := by
  rw [named?.eq_def] at h
  split at h
  · cases h; exact Nat.le_succ_of_le (Nat.le_succ _)
  · cases h; exact Nat.le_succ _
  · cases h

theorem marked_enclosed (cur : Cursor) (cs : List Char) :
    Enclosed cs.length (marked? cur cs) (marked? (tied cur) (cs ++ [')'])) := by
  rw [marked?, marked?, looksAround_tied]
  split
  · exact .refused
  · rw [named_tied]
    cases h : named? cs with
    | some r => exact (namedGroup_enclosed cur r).mono (named_shorter h)
    | none =>
      exact (settings_enclosed cur.mode [] false false cs).map _ (fun _ => List.suffix_rfl) fun _ => rfl

theorem opening_enclosed (cur : Cursor) (cs : List Char) :
    Enclosed cs.length (opening? cur cs) (opening? (tied cur) (cs ++ [')'])) := by
  have hr := skip_tied cur.mode cs
  generalize hx : cur.mode.skip cs = x, hx' : cur.mode.skip (cs ++ [')']) = x' at hr
  cases hr with
  | swallowed =>
    rw [opening?_plain cur hx nofun, opening?_plain (tied cur) hx' nofun]
    exact .swallowed rfl
  | kept short =>
    by_cases hmark : ∃ r, x = '?' :: r
    · obtain ⟨r, rfl⟩ := hmark
      rw [opening?_marked cur hx, opening?_marked (tied cur) hx']
      exact (marked_enclosed cur r).mono (Nat.le_of_succ_le short)
    · rw [opening?_plain cur hx fun s hs => hmark ⟨s, hs⟩, opening?_plain (tied cur) hx']
      · exact .kept (b := (Opening.group cur.mode cur.names, x)) short
      · intro s hs
        exact hmark (front_of_tied (w := ['?']) hs (by decide))

/-! ## Groups -/

theorem group_empty {fuel : Nat} (h : fuel ≠ 0) (m : Mode) (names : List String) (g : Progress) :
    group? fuel ⟨m, names, []⟩ g = some (g, ⟨m, names, []⟩) := by
  obtain ⟨fuel, rfl⟩ := Nat.exists_eq_succ_of_ne_zero h
  exact group?_nil (skip_nil m)

/-- No group goes on behind a brace that opens no bounds. -/
theorem group_brace (fuel : Nat) {m : Mode} {names : List String} {r : List Char} (g : Progress)
    (h : bounds? m r = none) : group? fuel ⟨m, names, '\x7b' :: r⟩ g = none := by
  cases fuel with
  | zero => rfl
  | succ fuel =>
    have hskip : m.skip ('\x7b' :: r) = '\x7b' :: r := by
      have hblank : Text.isBlank '\x7b' = false := by decide
      cases hm : m.spaced <;> simp [Mode.skip, skipSpaced, hm, hblank]
    have hpart : part? m g '\x7b' r = none := by
      rw [part?, h]
      rfl
    rw [group?_part hskip (by decide) (by decide), hpart]
    rfl

/-- With these amounts of fuel, groups of texts up to a length are read alike. -/
def GroupsAlike (n fuel fuel' : Nat) : Prop :=
  ∀ (cur : Cursor) (g : Progress), cur.rest.length ≤ n →
    Enclosed cur.rest.length (group? fuel cur g) (group? fuel' (tied cur) g)

section Groups
variable {n fuel fuel' : Nat} {cur : Cursor}

theorem behindGroup_nil (m : Mode) (g : Progress) {x : Progress × Cursor} (nothing : x.2.rest = []) :
    behindGroup? fuel m g x = none := by
  simp only [behindGroup?, nothing]

/-- The rest of a group behind one of its groups, which the parenthesis may have closed. -/
theorem behindGroup_enclosed (m : Mode) (g : Progress) (h' : fuel' ≠ 0) (alike : GroupsAlike n fuel fuel')
    {x : Progress × Cursor} (short : x.2.rest.length ≤ n) :
    Enclosed n (behindGroup? fuel m g x) (behindGroup? fuel' m g (tied x)) := by
  obtain ⟨inside, inner⟩ := x
  change inner.rest.length ≤ n at short
  have htied : (tied (inside, inner)).2.rest = inner.rest ++ [')'] := rfl
  simp only [behindGroup?, htied]
  cases hrest : inner.rest with
  | nil =>
    change Enclosed n none (group? fuel' ⟨m, inner.names, []⟩ _)
    rw [group_empty h']
    exact .used rfl
  | cons c s =>
    rw [hrest, List.length_cons] at short
    by_cases hc : c = ')'
    · subst hc
      have hs : s.length ≤ n := Nat.le_of_succ_le short
      exact (alike ⟨m, inner.names, s⟩ _ hs).mono hs
    · rw [List.cons_append]
      split
      · next heq => exact absurd (List.cons.inj heq).1 hc
      · split
        · next heq => exact absurd (List.cons.inj heq).1 hc
        · exact .refused

theorem inner_enclosed (g : Progress) (h : fuel ≠ 0) (h' : fuel' ≠ 0) (alike : GroupsAlike n fuel fuel')
    {x x' : Option (Opening × List Char)} (hx : Enclosed n x x') :
    Enclosed n (x.bind (inner? fuel cur g)) (x'.bind (inner? fuel' (tied cur) g)) := by
  apply hx.bind
  · rintro ⟨o, r⟩ short
    change r.length ≤ n at short
    cases o with
    | settings m => exact (alike ⟨m, cur.names, r⟩ g.pushSettings short).mono short
    | group m names =>
      apply (alike ⟨m, names, r⟩ .start short).bind
      · exact fun x hx => behindGroup_enclosed cur.mode g h' alike (Nat.le_trans hx short)
      · intro x nothing
        rw [behindGroup_nil _ _ nothing, behindGroup_nil _ _ nothing]
        exact .refused
  · rintro ⟨o, r⟩ nothing
    obtain rfl : r = [] := nothing
    cases o with
    | settings m =>
      change Ended (group? fuel ⟨m, cur.names, []⟩ _) (group? fuel' ⟨m, cur.names, []⟩ _)
      rw [group_empty h, group_empty h']
      exact .given rfl
    | group m names =>
      change Ended (Option.bind (group? fuel ⟨m, names, []⟩ _) _)
        (Option.bind (group? fuel' ⟨m, names, []⟩ _) _)
      rw [group_empty h, group_empty h']
      exact .refused

/-- The rest of a group behind one of its other parts. -/
theorem behindPart_enclosed (g : Progress) (h : fuel ≠ 0) (h' : fuel' ≠ 0) (c : Char) {r : List Char}
    (alike : GroupsAlike r.length fuel fuel') :
    Enclosed r.length
      ((part? cur.mode g c r).bind fun (g', s) => group? fuel { cur with rest := s } g')
      ((part? cur.mode g c (r ++ [')'])).bind fun (g', s) => group? fuel' { cur with rest := s } g') := by
  rcases part_enclosed cur.mode g c r with hpart | ⟨g', hnone, s, hs, hbounds⟩
  · apply hpart.bind
    · exact fun ⟨g', s⟩ hs => (alike ⟨cur.mode, cur.names, s⟩ g' hs).mono hs
    · rintro ⟨g', s⟩ nothing
      obtain rfl : s = [] := nothing
      change Ended (group? fuel ⟨cur.mode, cur.names, []⟩ g') (group? fuel' ⟨cur.mode, cur.names, []⟩ g')
      rw [group_empty h, group_empty h']
      exact .given rfl
  · rw [hnone, hs]
    change Enclosed _ none (group? fuel' ⟨cur.mode, cur.names, '\x7b' :: s⟩ g')
    rw [group_brace fuel' g' hbounds]
    exact .refused

end Groups

/-- A group is read alike up to the end of the pattern; behind it the parenthesis is left, unless a comment
holds it or it made a group of what is none. -/
theorem group_enclosed {fuel fuel' : Nat} (cur : Cursor) (g : Progress) (h : cur.rest.length < fuel)
    (h' : cur.rest.length + 1 < fuel') :
    Enclosed cur.rest.length (group? fuel cur g) (group? fuel' (tied cur) g) := by
  induction fuel generalizing fuel' cur g with
  | zero => omega
  | succ fuel ih =>
    obtain ⟨fuel', rfl⟩ := Nat.exists_eq_succ_of_ne_zero (Nat.ne_of_gt (Nat.zero_lt_of_lt h'))
    have hr := skip_tied cur.mode cur.rest
    generalize hx : cur.mode.skip cur.rest = x, hx' : cur.mode.skip (cur.rest ++ [')']) = x' at hr
    have hx' : (tied cur).mode.skip (tied cur).rest = x' := hx'
    cases hr with
    | swallowed =>
      rw [group?_nil hx, group?_nil hx']
      exact .swallowed rfl
    | kept short =>
      cases x with
      | nil =>
        rw [group?_nil hx, group?_close hx']
        exact .kept (b := (g, (⟨cur.mode, cur.names, []⟩ : Cursor))) (Nat.zero_le _)
      | cons c r =>
        rw [List.length_cons] at short
        have hfuel : fuel ≠ 0 := by omega
        have hfuel' : fuel' ≠ 0 := by omega
        -- each part takes a character, so the fuel that is left suffices for the rest
        have alike : GroupsAlike r.length fuel fuel' := fun cur' g hcur =>
          @ih fuel' cur' g (by omega) (by omega)
        by_cases hclose : c = ')'
        · subst hclose
          rw [group?_close hx, group?_close hx']
          exact .kept (b := (g, (⟨cur.mode, cur.names, ')' :: r⟩ : Cursor))) short
        by_cases hopen : c = '('
        · subst hopen
          rw [group?_open hx, group?_open hx']
          exact (inner_enclosed g hfuel hfuel' alike (opening_enclosed cur r)).mono (Nat.le_of_succ_le short)
        rw [group?_part hx hopen hclose, group?_part hx' hopen hclose]
        exact (behindPart_enclosed g hfuel hfuel' c alike).mono (Nat.le_of_succ_le short)

end CycleLog.Pattern
