import CycleLog.Proofs.Finding
import CycleLog.Pattern.Reader

/-!
# Reading a group, one part after another

A group is read part by part: at its end, at a closing parenthesis, at an opening one, or at a part that is no group
(`group?_nil`, `group?_close`, `group?_open`, `group?_part`). From these four steps follows what the parts have in
common; here, that a repetition has to occur no more often than it may (`proper_of_read`), on which the search
for a match relies.
-/

namespace CycleLog.Pattern
set_option autoImplicit false

/-! ## One part -/

/-- Reads a part that is no group: a bar, a repetition, or a single character, class or edge. -/
def part? (m : Mode) (g : Progress) (c : Char) (r : List Char) : Option (Progress × List Char) :=
  if c = '|' then some (g.next, r)
  else if c = '*' then (g.repeated? 0 none).map (·, skipLazy r)
  else if c = '+' then (g.repeated? 1 none).map (·, skipLazy r)
  else if c = '?' then (g.repeated? 0 (some 1)).map (·, skipLazy r)
  else if c = '\x7b' then
    (bounds? m r).bind fun (b, r) => (g.repeated? b.1 b.2).map (·, skipLazy (m.skip r))
  else (atom? m (c :: r)).map fun ((p, depth), after) => (g.push p depth, after)

/-- Reads on behind a group, if it is closed. -/
def behindGroup? (fuel : Nat) (m : Mode) (g : Progress) : Progress × Cursor → Option (Progress × Cursor)
  | (h, inner) =>
    match inner.rest with
    | ')' :: r => group? fuel ⟨m, inner.names, r⟩ (g.push h.done (h.depth + 1))
    | _ => none

/-- Reads on behind an opening parenthesis. -/
def inner? (fuel : Nat) (cur : Cursor) (g : Progress) :
    Opening × List Char → Option (Progress × Cursor)
  | (.settings m, r) => group? fuel ⟨m, cur.names, r⟩ g.pushSettings
  | (.group m names, r) => (group? fuel ⟨m, names, r⟩ .start).bind (behindGroup? fuel cur.mode g)

theorem group?_nil {fuel : Nat} {cur : Cursor} {g : Progress} (h : cur.mode.skip cur.rest = []) :
    group? (fuel + 1) cur g = some (g, { cur with rest := [] }) := by
  rw [group?, h]

theorem group?_close {fuel : Nat} {cur : Cursor} {g : Progress} {r : List Char}
    (h : cur.mode.skip cur.rest = ')' :: r) :
    group? (fuel + 1) cur g = some (g, { cur with rest := ')' :: r }) := by
  rw [group?, h]
  rfl

theorem group?_open {fuel : Nat} {cur : Cursor} {g : Progress} {r : List Char}
    (h : cur.mode.skip cur.rest = '(' :: r) :
    group? (fuel + 1) cur g = (opening? cur r).bind (inner? fuel cur g) := by
  rw [group?, h]
  simp only
  cases opening? cur r with
  | none => rfl
  | some o =>
    obtain ⟨o, r⟩ := o
    cases o with
    | settings m => rfl
    | group m names => rfl

theorem group?_part {fuel : Nat} {cur : Cursor} {g : Progress} {c : Char} {r : List Char}
    (h : cur.mode.skip cur.rest = c :: r) (hopen : c ≠ '(') (hclose : c ≠ ')') :
    group? (fuel + 1) cur g =
      (part? cur.mode g c r).bind fun (g', r) => group? fuel { cur with rest := r } g' := by
  rw [group?, h, part?]
  simp only
  split
  · next heq => cases heq
  · next heq => cases heq; exact absurd rfl hclose
  · next heq => cases heq; simp
  · next heq => cases heq; exact absurd rfl hopen
  · next heq => cases heq; cases g.repeated? 0 none <;> simp
  · next heq => cases heq; cases g.repeated? 1 none <;> simp
  · next heq => cases heq; cases g.repeated? 0 (some 1) <;> simp
  · next heq =>
    cases heq
    cases bounds? cur.mode r with
    | none => rfl
    | some b => cases hb : g.repeated? b.1.1 b.1.2 <;> simp [hb]
  · next hbar _ hstar hplus hmark hbrace =>
    have hc {d : Char} (hd : ∀ r', c :: r = d :: r' → False) : c ≠ d := fun h => hd r (h ▸ rfl)
    simp only [if_neg (hc hbar), if_neg (hc hstar), if_neg (hc hplus), if_neg (hc hmark),
      if_neg (hc hbrace)]
    cases atom? cur.mode (c :: r) <;> rfl

/-! ## Repetitions that may end -/

theorem proper_charPattern {m : Mode} {c : Char} : (charPattern m c).Proper := by
  rw [charPattern]
  split <;> trivial

theorem proper_dot {m : Mode} {p : Pattern} (h : dot? m = some p) : p.Proper := by
  rw [dot?] at h
  split at h
  · cases h
  · split at h
    · cases h; trivial
    · split at h <;> cases h <;> trivial

theorem proper_escaped {m : Mode} {cs r : List Char} {p : Pattern}
    (h : escaped? m cs = some (p, r)) : p.Proper := by
  obtain ⟨⟨e, r'⟩, -, h⟩ := Option.bind_eq_some_iff.mp h
  cases e with
  | char c byte =>
    simp only at h
    split at h
    · cases h
    · cases h; exact proper_charPattern
  | set c => cases h; trivial
  | edge e => cases h; trivial

theorem proper_atom {m : Mode} {cs r : List Char} {p : Pattern} {depth : Nat}
    (h : atom? m cs = some ((p, depth), r)) : p.Proper := by
  unfold atom? at h
  split at h
  · cases h
  · obtain ⟨_, -, h⟩ := Option.map_eq_some_iff.mp h
    cases h; trivial
  · obtain ⟨⟨q, r'⟩, hq, h⟩ := Option.map_eq_some_iff.mp h
    cases h; exact proper_escaped hq
  · obtain ⟨q, hq, h⟩ := Option.map_eq_some_iff.mp h
    cases h; exact proper_dot hq
  · cases h; trivial
  · cases h; trivial
  · cases h; exact proper_charPattern

theorem bounds_le {m : Mode} {cs r : List Char} {least : Nat} {most : Option Nat}
    (h : bounds? m cs = some ((least, most), r)) : ∀ k, most = some k → least ≤ k := by
  obtain ⟨⟨n, r'⟩, -, h⟩ := Option.bind_eq_some_iff.mp h
  simp only at h
  split at h
  · cases h
    rintro _ ⟨⟩
    exact Nat.le_refl _
  · split at h
    · cases h; nofun
    · obtain ⟨⟨k, r'⟩, -, h⟩ := Option.bind_eq_some_iff.mp h
      simp only at h
      split at h
      · split at h
        · next hle =>
          cases h
          rintro _ ⟨⟩
          exact hle
        · cases h
      · cases h
  · cases h

theorem proper_row {ps : List Pattern} (h : ∀ p ∈ ps, p.Proper) : (row ps).Proper := by
  have hfold : ∀ (ps : List Pattern) (p : Pattern), p.Proper → (∀ q ∈ ps, q.Proper) →
      (ps.foldl (fun acc q => .seq q acc) p).Proper := by
    intro ps
    induction ps with
    | nil => exact fun p hp _ => hp
    | cons q ps ih =>
      intro p hp h
      rw [List.forall_mem_cons] at h
      exact ih _ ⟨h.1, hp⟩ h.2
  cases ps with
  | nil => trivial
  | cons p ps =>
    rw [List.forall_mem_cons] at h
    exact hfold ps p h.1 h.2

theorem proper_choice {last : Pattern} {others : List Pattern} (hlast : last.Proper)
    (h : ∀ p ∈ others, p.Proper) : (choice last others).Proper := by
  unfold choice
  induction others generalizing last with
  | nil => exact hlast
  | cons q others ih =>
    rw [List.forall_mem_cons] at h
    exact ih ⟨h.1, hlast⟩ h.2

/-- All that has been read so far is proper. -/
structure Progress.Proper (g : Progress) : Prop where
  others : ∀ p ∈ g.others, p.Proper
  parts : ∀ p ∈ g.parts, p.Proper

namespace Progress.Proper
variable {g : Progress}

theorem start : Progress.start.Proper := ⟨nofun, nofun⟩

theorem push (h : g.Proper) {p : Pattern} (hp : p.Proper) {depth : Nat} :
    (g.push p depth).Proper :=
  ⟨h.others, List.forall_mem_cons.mpr ⟨hp, h.parts⟩⟩

theorem pushSettings (h : g.Proper) : g.pushSettings.Proper := ⟨h.others, h.parts⟩

theorem next (h : g.Proper) : g.next.Proper :=
  ⟨List.forall_mem_cons.mpr ⟨proper_row h.parts, h.others⟩, nofun⟩

theorem done (h : g.Proper) : g.done.Proper := proper_choice (proper_row h.parts) h.others

theorem repeated (h : g.Proper) {least : Nat} {most : Option Nat} {g' : Progress}
    (hr : g.repeated? least most = some g') (hle : ∀ k, most = some k → least ≤ k) :
    g'.Proper := by
  obtain ⟨others, otherDepth, parts, depths, repeatable⟩ := g
  cases parts with
  | nil => cases hr
  | cons p ps =>
    cases depths with
    | nil => cases hr
    | cons d ds =>
      have hparts := List.forall_mem_cons.mp h.parts
      cases repeatable with
      | false => cases hr
      | true =>
        cases hr
        exact ⟨h.others, List.forall_mem_cons.mpr ⟨⟨hparts.1, hle⟩, hparts.2⟩⟩

theorem part (h : g.Proper) {m : Mode} {c : Char} {r r' : List Char} {g' : Progress}
    (hp : part? m g c r = some (g', r')) : g'.Proper := by
  unfold part? at hp
  split at hp
  · cases hp; exact h.next
  · split at hp
    · obtain ⟨_, hr, heq⟩ := Option.map_eq_some_iff.mp hp
      cases heq; exact h.repeated hr nofun
    · split at hp
      · obtain ⟨_, hr, heq⟩ := Option.map_eq_some_iff.mp hp
        cases heq; exact h.repeated hr nofun
      · split at hp
        · obtain ⟨_, hr, heq⟩ := Option.map_eq_some_iff.mp hp
          cases heq; exact h.repeated hr fun _ _ => Nat.zero_le _
        · split at hp
          · obtain ⟨⟨⟨least, most⟩, r⟩, hb, hp⟩ := Option.bind_eq_some_iff.mp hp
            obtain ⟨_, hr, heq⟩ := Option.map_eq_some_iff.mp hp
            cases heq; exact h.repeated hr (bounds_le hb)
          · obtain ⟨⟨⟨p, depth⟩, after⟩, ha, heq⟩ := Option.map_eq_some_iff.mp hp
            cases heq; exact h.push (proper_atom ha)

theorem group {fuel : Nat} {cur cur' : Cursor} {g' : Progress} (h : g.Proper)
    (hg : group? fuel cur g = some (g', cur')) : g'.Proper := by
  induction fuel generalizing cur cur' g g' with
  | zero => cases hg
  | succ fuel ih =>
    cases hskip : cur.mode.skip cur.rest with
    | nil =>
      rw [group?_nil hskip] at hg
      cases hg; exact h
    | cons c r =>
      by_cases hclose : c = ')'
      · subst hclose
        rw [group?_close hskip] at hg
        cases hg; exact h
      · by_cases hopen : c = '('
        · subst hopen
          rw [group?_open hskip] at hg
          obtain ⟨⟨o, r⟩, -, hg⟩ := Option.bind_eq_some_iff.mp hg
          cases o with
          | settings m => exact ih h.pushSettings hg
          | group m names =>
            obtain ⟨⟨inner, _⟩, hi, hg⟩ := Option.bind_eq_some_iff.mp hg
            rw [behindGroup?] at hg
            split at hg
            · exact ih (h.push (ih start hi).done) hg
            · cases hg
        · rw [group?_part hskip hopen hclose] at hg
          obtain ⟨⟨g₁, r⟩, hp, hg⟩ := Option.bind_eq_some_iff.mp hg
          exact ih (h.part hp) hg

end Progress.Proper

theorem proper_of_read {fits : SizeLimit} {cs : List Char} {p : Pattern} (h : readList? fits cs = some p) :
    p.Proper := by
  obtain ⟨⟨g, cur⟩, hg, h⟩ := Option.bind_eq_some_iff.mp h
  simp only at h
  split at h
  · cases h; exact (Progress.Proper.start.group hg).done
  · cases h

end CycleLog.Pattern
