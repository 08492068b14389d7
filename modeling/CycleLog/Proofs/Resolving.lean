import CycleLog.Url
import CycleLog.Proofs.Scanning
import Mathlib.Algebra.Order.BigOperators.Group.List
import Mathlib.Algebra.Order.Ring.Nat
import Mathlib.Data.List.Basic
import Mathlib.Data.List.TakeWhile

/-!
# How an address is read

An address that begins with an origin is read as that origin and what follows it (`readList?_of_origin`). What
follows is cut at slashes, and its segments are resolved and encoded; none of that makes it longer than the cost
of its characters, one by one (`length_target_le`). In a text that is meant as one segment some characters cost
more than in a path (`pathCost_lt_segment`), and by that it can be told apart from a text that is not.
-/

namespace CycleLog.Url
set_option autoImplicit false

/-- A list is looked through, and not all characters. -/
theorem forall_of_all {α : Type} {l : List α} {P : α → Prop} [DecidablePred P]
    (h : l.all (fun a => decide (P a)) = true) : ∀ a ∈ l, P a :=
  fun a ha => of_decide_eq_true (List.all_eq_true.mp h a ha)

/-! ## Cutting at slashes -/

section Cut
variable {is : Char → Bool}

theorem cutAt_ne_nil (is : Char → Bool) (cs : List Char) : cutAt is cs ≠ [] := by
  cases cs with
  | nil => simp [cutAt]
  | cons c r =>
    rw [cutAt]
    cases cutAt is r with
    | nil => simp
    | cons p ps => cases is c <;> simp

theorem cutAt_cons_of_pos {c : Char} (h : is c = true) (r : List Char) :
    cutAt is (c :: r) = [] :: cutAt is r := by
  obtain ⟨p, ps, hr⟩ := List.exists_cons_of_ne_nil (cutAt_ne_nil is r)
  rw [cutAt, hr]
  simp [h]

theorem cutAt_of_forall_neg {w : List Char} (h : ∀ c ∈ w, is c = false) : cutAt is w = [w] := by
  induction w with
  | nil => rfl
  | cons c w ih =>
    rw [List.forall_mem_cons] at h
    rw [cutAt, ih h.2]
    simp [h.1]

theorem cutAt_append {w : List Char} {c : Char} (h : ∀ d ∈ w, is d = false) (hc : is c = true)
    (r : List Char) : cutAt is (w ++ c :: r) = w :: cutAt is r := by
  induction w with
  | nil => exact cutAt_cons_of_pos hc r
  | cons d w ih =>
    rw [List.forall_mem_cons] at h
    rw [List.cons_append, cutAt, ih h.2]
    simp [h.1]

end Cut

/-! ## The length of what is written -/

/-- How many characters stand for a character. -/
def cost (which : UInt8 → Bool) (c : Char) : Nat := (encoded which [c]).length

theorem encoded_append (which : UInt8 → Bool) (a b : List Char) :
    encoded which (a ++ b) = encoded which a ++ encoded which b := List.flatMap_append

theorem length_encoded (which : UInt8 → Bool) (cs : List Char) :
    (encoded which cs).length = (cs.map (cost which)).sum := by
  induction cs with
  | nil => rfl
  | cons c r ih =>
    have hcons : encoded which (c :: r) = encoded which [c] ++ encoded which r :=
      encoded_append which [c] r
    rw [hcons, List.length_append, ih, List.map_cons, List.sum_cons]
    rfl

theorem cost_eq (which : UInt8 → Bool) (c : Char) : cost which c =
    ((String.utf8EncodeChar c).map fun b => if which b then 3 else 1).sum := by
  unfold cost encoded
  rw [List.flatMap_singleton, List.length_flatMap]
  congr 1
  refine List.map_congr_left fun b _ => ?_
  cases which b <;> rfl

theorem cost_pos (which : UInt8 → Bool) (c : Char) : 1 ≤ cost which c := by
  have hbytes : String.utf8EncodeChar c ≠ [] := by
    rw [← List.length_pos_iff, String.length_utf8EncodeChar]
    exact Char.utf8Size_pos c
  obtain ⟨b, bs, hbs⟩ := List.exists_cons_of_ne_nil hbytes
  rw [cost_eq, hbs, List.map_cons, List.sum_cons]
  split <;> omega

theorem cost_mono {p q : UInt8 → Bool} (h : ∀ b, p b = true → q b = true) (c : Char) :
    cost p c ≤ cost q c := by
  rw [cost_eq, cost_eq]
  refine List.sum_le_sum fun b _ => ?_
  by_cases hp : p b = true
  · simp [hp, h b hp]
  · rw [if_neg hp]
    split <;> omega

/-- What is left out of a text, and what is written with fewer characters, makes the sum smaller. -/
theorem sum_add_length_le {f g : Char → Nat} (hle : ∀ c, f c ≤ g c) (hpos : ∀ c, 1 ≤ g c)
    {s l : List Char} (h : s.Sublist l) : (s.map f).sum + l.length ≤ (l.map g).sum + s.length := by
  induction h with
  | slnil => exact Nat.le_refl _
  | cons c _ ih =>
    have hc := hpos c
    simp only [List.map_cons, List.sum_cons, List.length_cons]
    omega
  | cons_cons c _ ih =>
    have hc := hle c
    simp only [List.map_cons, List.sum_cons, List.length_cons]
    omega

/-! ## Segments -/

/-- Room for some segments with a slash in front of each. -/
def room (segments : List (List Char)) : Nat :=
  (segments.map fun s => (encoded encodedInPath s).length + 1).sum

/-- How many characters of a path stand for a character. -/
def pathCost (c : Char) : Nat := if isSlash c then 1 else cost encodedInPath c

theorem room_cons (s : List Char) (ss : List (List Char)) :
    room (s :: ss) = (encoded encodedInPath s).length + 1 + room ss := by
  rw [room, List.map_cons, List.sum_cons]
  rfl

theorem room_drop_le (ss : List (List Char)) : room (ss.drop 1) ≤ room ss := by
  cases ss with
  | nil => exact Nat.le_refl _
  | cons s ss =>
    rw [List.drop_succ_cons, List.drop_zero, room_cons]
    omega

theorem room_cutAt (cs : List Char) : room (cutAt isSlash cs) = (cs.map pathCost).sum + 1 := by
  induction cs with
  | nil => rfl
  | cons c r ih =>
    rw [List.map_cons, List.sum_cons]
    by_cases hc : isSlash c = true
    · rw [cutAt_cons_of_pos hc, room_cons, ih, pathCost, if_pos hc]
      exact Nat.add_comm _ _ ▸ rfl
    · obtain ⟨p, ps, hr⟩ := List.exists_cons_of_ne_nil (cutAt_ne_nil isSlash r)
      have hcut : cutAt isSlash (c :: r) = (c :: p) :: ps := by
        rw [cutAt, hr]
        simp [hc]
      rw [hr, room_cons] at ih
      rw [hcut, room_cons, length_encoded, List.map_cons, List.sum_cons, ← length_encoded, pathCost,
        if_neg hc]
      omega

/-- Segments of points only make a path shorter. -/
theorem room_resolved_le (acc ss : List (List Char)) : room (resolved acc ss) ≤ room acc + room ss := by
  induction ss generalizing acc with
  | nil =>
    rw [resolved, room, List.map_reverse, List.sum_reverse]
    exact Nat.le_add_right _ _
  | cons s ss ih =>
    have hdrop := room_drop_le acc
    rw [room_cons, resolved]
    split
    · refine (ih _).trans ?_
      split
      · rw [room_cons, show encoded encodedInPath [] = [] from rfl, List.length_nil]
        omega
      · omega
    · split
      · refine (ih _).trans ?_
        split
        · rw [room_cons, show encoded encodedInPath [] = [] from rfl, List.length_nil]
          omega
        · omega
      · refine (ih _).trans ?_
        rw [room_cons]
        omega

/-! ## Targets -/

theorem length_intercalate_slash (s : String) (ss : List String) :
    ("/".intercalate (s :: ss)).length + 1 = ((s :: ss).map fun t => t.length + 1).sum := by
  induction ss generalizing s with
  | nil => simp
  | cons t ss ih =>
    have hcons : "/".intercalate (s :: t :: ss) = s ++ "/" ++ "/".intercalate (t :: ss) := by
      simp [String.intercalate_cons_cons]
    have hslash : "/".length = 1 := rfl
    rw [hcons, String.length_append, String.length_append, List.map_cons, List.sum_cons, ← ih, hslash]
    omega

/-- A path is at most as long as what it was read from, with a slash in front. -/
theorem length_target_le {u : Url} {cs : List Char} (hquery : u.query = none)
    (hpath : u.segments = (resolved [] (cutAt isSlash cs)).map fun s =>
      String.ofList (encoded encodedInPath s)) : u.target.length ≤ (cs.map pathCost).sum + 1 := by
  have htarget : u.target.length = 1 + ("/".intercalate u.segments).length := by
    rw [target, hquery, behind, String.append_empty, String.length_append]
    rfl
  have hroom : (u.segments.map fun t => t.length + 1).sum ≤ (cs.map pathCost).sum + 1 := by
    rw [hpath, List.map_map, ← room_cutAt]
    refine le_trans (le_of_eq ?_) ((room_resolved_le [] _).trans (le_of_eq (Nat.zero_add _)))
    refine congrArg List.sum (List.map_congr_left fun s _ => ?_)
    rw [Function.comp_apply, String.length_ofList]
  rw [htarget]
  cases hsegments : u.segments with
  | nil =>
    rw [String.intercalate_nil]
    exact Nat.add_comm 1 _ ▸ Nat.succ_le_succ (Nat.zero_le _)
  | cons t ts =>
    have hlength := length_intercalate_slash t ts
    rw [hsegments] at hroom
    omega

/-! ## Addresses that begin with an origin -/

/-- A character that ends the name of a server or cannot stand in front of it. -/
def endsServer (c : Char) : Bool := isSlash c || c == '?' || c == '#' || c == '@' || c.toNat ≤ 0x20

/-- `http://` or `https://` and a server. -/
structure IsOrigin (cs : List Char) (secure : Bool) (authority : String) : Prop where
  split : ∃ scheme server, cs = scheme ++ "://".toList ++ server ∧
    scheme.map Char.toLower = (if secure then "https" else "http").toList ∧
    server ≠ [] ∧ (∀ c ∈ server, endsServer c = false) ∧
    authority? secure server = some authority

/-- What is read of a text: tabs and line ends in it do not count. -/
def cleaned (cs : List Char) : List Char := cs.filter fun c => c != '\t' && c != '\n' && c != '\r'

/-- The path of a text that follows a server. -/
def pathPart (cs : List Char) : List Char := (cs.takeWhile (· != '#')).takeWhile (· != '?')

def queryPart (cs : List Char) : Option String :=
  match (cs.takeWhile (· != '#')).dropWhile (· != '?') with
  | [] => none
  | _ :: q => some (String.ofList (encoded encodedInQuery q))

def fragmentPart (cs : List Char) : Option String :=
  match cs.dropWhile (· != '#') with
  | [] => none
  | _ :: f => some (String.ofList (encoded encodedInFragment f))

theorem cleaned_append (a b : List Char) : cleaned (a ++ b) = cleaned a ++ cleaned b :=
  List.filter_append _ _

theorem cleaned_of_forall_lt {w : List Char} (h : ∀ c ∈ w, 0x20 < c.toNat) : cleaned w = w := by
  refine List.filter_eq_self.mpr fun c hc => ?_
  have hlt := h c hc
  simp only [Bool.and_eq_true, bne_iff_ne, ne_eq]
  refine ⟨⟨?_, ?_⟩, ?_⟩
  all_goals
    rintro rfl
    exact absurd hlt (by decide)

/-- Only letters become letters of a scheme. -/
theorem lt_toNat_of_toLower {c : Char} (h : c.toLower ∈ "https".toList) : 0x40 < c.toNat := by
  by_cases hupper : 'A' ≤ c ∧ c ≤ 'Z'
  · have hle : 65 ≤ c.toNat := hupper.1
    omega
  · have hlower : c.toLower = c := by
      unfold Char.toLower
      exact dif_neg hupper
    rw [hlower] at h
    exact forall_of_all (l := "https".toList) (P := (0x40 < ·.toNat)) (by decide) c h

theorem lt_toNat_of_scheme {scheme : List Char} {secure : Bool}
    (h : scheme.map Char.toLower = (if secure then "https" else "http").toList) :
    scheme ≠ [] ∧ ∀ c ∈ scheme, 0x40 < c.toNat := by
  constructor
  · rintro rfl
    cases secure <;> exact absurd h (by decide)
  · intro c hc
    have hmem : c.toLower ∈ (if secure then "https" else "http").toList :=
      h ▸ List.mem_map_of_mem hc
    refine lt_toNat_of_toLower ?_
    cases secure
    · exact forall_of_all (l := "http".toList) (P := (· ∈ "https".toList)) (by decide) _ hmem
    · exact hmem

theorem scheme?_of_map_toLower {scheme r : List Char} {secure : Bool}
    (h : scheme.map Char.toLower = (if secure then "https" else "http").toList) :
    scheme? (scheme ++ ':' :: r) = some (secure, r) := by
  have hs : Text.Stretch (· != ':') scheme (':' :: r) := by
    refine ⟨fun c hc => ?_, fun c hc => Option.some.inj hc ▸ by decide⟩
    rw [bne_iff_ne]
    rintro rfl
    exact absurd ((lt_toNat_of_scheme h).2 _ hc) (by decide)
  unfold scheme?
  rw [hs.takeWhile_eq, hs.dropWhile_eq, h]
  cases secure <;> rfl

/-- Nothing is dropped from the ends of a text that begins and ends with a printed character. -/
theorem trimmed_ends {p : Char → Bool} {a c : Char} {cs : List Char} (ha : p a = false)
    (hc : p c = false) :
    (((a :: cs ++ [c]).dropWhile p).reverse.dropWhile p).reverse = a :: cs ++ [c] := by
  have hfront : (a :: cs ++ [c]).dropWhile p = a :: cs ++ [c] := by simp [ha]
  rw [hfront, List.reverse_append, List.reverse_singleton, List.singleton_append]
  have hback : (c :: (a :: cs).reverse).dropWhile p = c :: (a :: cs).reverse := by simp [hc]
  rw [hback, List.reverse_cons, List.reverse_reverse]

theorem readList?_of_origin {base : List Char} {secure : Bool} {authority : String}
    (h : IsOrigin base secure authority) {t : List Char} {c : Char} (hc : 0x20 < c.toNat) :
    readList? (base ++ ('/' :: t ++ [c])) = some ⟨secure, authority,
      pathSegments (pathPart ('/' :: cleaned (t ++ [c]))), queryPart ('/' :: cleaned (t ++ [c])),
      fragmentPart ('/' :: cleaned (t ++ [c]))⟩ := by
  obtain ⟨scheme, server, rfl, hscheme, hne, hserver, hauthority⟩ := h.split
  obtain ⟨hschemeNe, hletters⟩ := lt_toNat_of_scheme hscheme
  obtain ⟨a, scheme', rfl⟩ := List.exists_cons_of_ne_nil hschemeNe
  obtain ⟨b, server', rfl⟩ := List.exists_cons_of_ne_nil hne
  have hends : ∀ d ∈ b :: server', isSlash d = false ∧ d ≠ '?' ∧ d ≠ '#' ∧ 0x20 < d.toNat := by
    intro d hd
    have hd := hserver d hd
    simp only [endsServer, Bool.or_eq_false_iff, beq_eq_false_iff_ne, decide_eq_false_iff_not,
      not_le] at hd
    exact ⟨hd.1.1.1.1, hd.1.1.1.2, hd.1.1.2, hd.2⟩
  have htext : a :: scheme' ++ "://".toList ++ (b :: server') ++ ('/' :: t ++ [c]) =
      a :: (scheme' ++ "://".toList ++ (b :: server') ++ '/' :: t) ++ [c] := by simp
  have hclean : cleaned (a :: scheme' ++ "://".toList ++ (b :: server') ++ ('/' :: t ++ [c])) =
      a :: scheme' ++ ':' :: ('/' :: '/' :: (b :: server') ++ '/' :: cleaned (t ++ [c])) := by
    rw [cleaned_append, cleaned_append, cleaned_append,
      cleaned_of_forall_lt fun d hd => Nat.lt_trans (by decide) (hletters d hd),
      cleaned_of_forall_lt fun d hd => (hends d hd).2.2.2]
    simp [cleaned]
  have houter : ∀ d : Char, 0x20 < d.toNat → decide (d.toNat ≤ 0x20) = false := by
    intro d hd
    exact decide_eq_false (by omega)
  have hslashes : ('/' :: '/' :: (b :: server') ++ '/' :: cleaned (t ++ [c])).dropWhile isSlash =
      b :: server' ++ '/' :: cleaned (t ++ [c]) := by
    have hb := (hends b List.mem_cons_self).1
    have hslash : isSlash '/' = true := rfl
    simp [hb, hslash]
  have hs : Text.Stretch (fun d => !(isSlash d || d == '?' || d == '#')) (b :: server')
      ('/' :: cleaned (t ++ [c])) := by
    refine ⟨fun d hd => ?_, fun d hd => Option.some.inj hd ▸ by decide⟩
    obtain ⟨hslash, hquestion, hhash, -⟩ := hends d hd
    simp [hslash, hquestion, hhash]
  unfold readList?
  dsimp only
  rw [htext, trimmed_ends (houter a (Nat.lt_trans (by decide) (hletters a List.mem_cons_self)))
    (houter c hc), ← htext]
  change (scheme? (cleaned _)).bind _ = _
  rw [hclean, scheme?_of_map_toLower hscheme, Option.bind_some]
  dsimp only
  rw [hslashes, hs.takeWhile_eq, hs.dropWhile_eq, hauthority]
  rfl

theorem IsOrigin.getLast {base : List Char} {secure : Bool} {authority : String}
    (h : IsOrigin base secure authority) : ∃ front c, base = front ++ [c] ∧ c ≠ '/' := by
  obtain ⟨scheme, server, rfl, -, hne, hserver, -⟩ := h.split
  obtain ⟨front, c, rfl⟩ := (List.eq_nil_or_concat' server).resolve_left hne
  refine ⟨scheme ++ "://".toList ++ front, c, by simp, ?_⟩
  rintro rfl
  exact absurd (hserver '/' (by simp)) (by decide)

/-! ## Texts as one segment -/

/-- Whether a byte has to be encoded in a text that is meant as one segment. -/
def encodedInSegment (b : UInt8) : Bool := encodedInPath b || [0x25, 0x2F, 0x5C].contains b

def segmentText (s : String) : String := String.ofList (encoded encodedInSegment s.toList)

theorem cost_path_le_segment (c : Char) : cost encodedInPath c ≤ cost encodedInSegment c :=
  cost_mono (fun b hb => by rw [encodedInSegment, hb, Bool.true_or]) c

theorem pathCost_pos (c : Char) : 1 ≤ pathCost c := by
  unfold pathCost
  split
  · exact Nat.le_refl _
  · exact cost_pos _ c

theorem pathCost_le_segment (c : Char) : pathCost c ≤ cost encodedInSegment c := by
  unfold pathCost
  split
  · exact cost_pos _ c
  · exact cost_path_le_segment c

/-- The characters that a path has no code for, but a segment. -/
theorem pathCost_lt_segment : ∀ c ∈ ['/', '\\', '%'], pathCost c < cost encodedInSegment c :=
  forall_of_all (by decide)

theorem mem_encoded {which : UInt8 → Bool} {cs : List Char} {c : Char} (h : c ∈ encoded which cs) :
    c = '%' ∨ (∃ n < 16, c = hexCapital n) ∨ ∃ b, which b = false ∧ c = Char.ofNat b.toNat := by
  obtain ⟨d, -, h⟩ := List.mem_flatMap.mp h
  obtain ⟨b, -, h⟩ := List.mem_flatMap.mp h
  have hb : b.toNat < 256 := b.toNat_lt
  split at h
  · simp only [encodedByte, List.mem_cons, List.not_mem_nil, or_false] at h
    rcases h with rfl | rfl | rfl
    · exact .inl rfl
    · exact .inr (.inl ⟨_, by omega, rfl⟩)
    · exact .inr (.inl ⟨_, by omega, rfl⟩)
  · next hwhich => exact .inr (.inr ⟨b, by simpa using hwhich, List.mem_singleton.mp h⟩)

theorem toNat_of_mem_utf8 {c : Char} {b : UInt8} (hb : b ∈ String.utf8EncodeChar c)
    (hlow : b.toNat < 0x80) : b.toNat = c.toNat := by
  have hval : c.toNat = c.val.toNat := rfl
  unfold String.utf8EncodeChar at hb
  dsimp only at hb
  split at hb
  · rw [List.mem_singleton.mp hb, UInt8.toNat_ofNat', hval]
    omega
  · -- all bytes of a longer code have their highest bit set
    exfalso
    repeat' split at hb
    all_goals
      simp only [List.mem_cons, List.not_mem_nil, or_false] at hb
      rcases hb with rfl | rfl | rfl | rfl <;> rw [UInt8.toNat_ofNat'] at hlow <;> omega

theorem question_notMem_segment (cs : List Char) : '?' ∉ encoded encodedInSegment cs := by
  intro h
  rcases mem_encoded h with h | ⟨n, hn, h⟩ | ⟨b, hb, h⟩
  · exact absurd h (by decide)
  · exact (by decide : ∀ n < 16, '?' ≠ hexCapital n) n hn h
  · have hcode : b.toNat = 63 :=
      (by decide +kernel : ∀ n < 256, '?' = Char.ofNat n → n = 63) _ b.toNat_lt h
    obtain rfl : b = 63 := UInt8.toNat_inj.mp hcode
    exact absurd hb (by decide)

end CycleLog.Url
