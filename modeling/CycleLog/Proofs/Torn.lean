import CycleLog.Proofs.Growing
import CycleLog.Proofs.LineByLine
import CycleLog.Proofs.Pieces
import Mathlib.Data.List.DropRight

/-!
# A transcript that breaks off

A text that breaks off keeps its whole lines, and its last line is the front of a line of the whole text
(`exists_breaksIn`). If that line holds an object, its front holds the same object, or is blank, or is no
JSON (`outcome_front`). So of the whole transcript the front keeps the entries and reports of all lines
up to the cut one, and reports at most that one as no JSON (`parse_front`).
-/

namespace CycleLog.Text
set_option autoImplicit false

/-! ## Breaking off inside a piece -/

/-- One text goes on in the other inside a piece: behind whole pieces, and behind a part `q` of that
piece. -/
structure BreaksIn (p rest : List Char) (front : List (List Char)) (q s : List Char)
    (behind : List (List Char)) : Prop where
  text : front.flatten ++ q = p
  inside : '\n' ∉ q
  pieces_front : pieces p = front ++ pieces q
  pieces_whole : pieces (p ++ rest) = front ++ (q ++ s) :: behind
  /-- Without a line feed in `s`, nothing stands behind the piece. -/
  last : s = [] → behind = []

theorem exists_breaksIn (p : List Char) {rest : List Char} (h : rest ≠ []) :
    ∃ front q s behind, BreaksIn p rest front q s behind := by
  obtain ⟨front, q, htext, hq, hpieces⟩ := exists_whole_pieces p
  have hne : q ++ rest ≠ [] := fun hnil => h (List.append_eq_nil_iff.mp hnil).2
  refine ⟨front, q, (pieces rest).headD [], (pieces rest).tail, htext, hq, ?_, ?_, fun hs => ?_⟩
  · have hfront := hpieces []
    rwa [List.append_nil, List.append_nil] at hfront
  · rw [hpieces, pieces_append_of_not_mem hq hne]
  · cases hr : pieces rest with
    | nil => rfl
    | cons r rs =>
      rw [hr] at hs
      exact absurd hs (ne_nil_of_mem_pieces (hr ▸ List.mem_cons_self))

/-! ## Trimming the front of a line -/

theorem blankText_append {a b : List Char} :
    blankText (a ++ b) = true ↔ blankText a = true ∧ blankText b = true := by
  rw [blankText, List.all_append, Bool.and_eq_true]
  rfl

theorem trimStart_append_of_ne_nil {cs : List Char} (h : trimStart cs ≠ []) (u : List Char) :
    trimStart (cs ++ u) = trimStart cs ++ u := by
  unfold trimStart at h ⊢
  rw [List.dropWhile_append, if_neg (by rwa [List.isEmpty_iff])]

theorem trimEnd_append_of_blank (cs : List Char) {u : List Char} (h : blankText u = true) :
    trimEnd (cs ++ u) = trimEnd cs := by
  have hu : u.reverse.dropWhile isBlank = [] := List.reverse_eq_nil_iff.mp (trimEnd_eq_nil_iff.mpr h)
  unfold trimEnd
  rw [List.reverse_append, List.dropWhile_append, hu]
  rfl

theorem trimEnd_append_of_not_blank (cs : List Char) {u : List Char} (h : blankText u = false) :
    trimEnd (cs ++ u) = cs ++ trimEnd u := by
  have hu : u.reverse.dropWhile isBlank ≠ [] := fun hnil =>
    Bool.eq_false_iff.mp h (trimEnd_eq_nil_iff.mp (List.reverse_eq_nil_iff.mpr hnil))
  unfold trimEnd
  rw [List.reverse_append, List.dropWhile_append, if_neg (by rwa [List.isEmpty_iff]),
    List.reverse_append, List.reverse_reverse]

theorem trim_append_of_blank (cs : List Char) {u : List Char} (h : blankText u = true) :
    trim (cs ++ u) = trim cs := by
  by_cases hcs : trimStart cs = []
  · have hall : blankText (cs ++ u) = true := blankText_append.mpr ⟨trimStart_eq_nil_iff.mp hcs, h⟩
    rw [trim, trimStart_eq_nil_iff.mpr hall, trim, hcs]
  · rw [trim, trimStart_append_of_ne_nil hcs, trimEnd_append_of_blank _ h, trim]

end CycleLog.Text

namespace CycleLog.Transcript
set_option autoImplicit false

open Json
open Text (lines trim blankText pieces withoutEnd)

/-! ## The front of a line -/

/-- Every line that is not blank holds an object. -/
def HoldsObjects (cs : List Char) : Prop :=
  ∀ l ∈ lines cs, blankText l = false → ∃ ms, readList (trim l) = some (.object ms)

def isObject : Option Value → Bool
  | some (.object _) => true
  | _ => false

theorem isObject_iff {v : Option Value} : isObject v = true ↔ ∃ ms, v = some (.object ms) := by
  constructor
  · intro h
    unfold isObject at h
    split at h
    · exact ⟨_, rfl⟩
    · cases h
  · rintro ⟨ms, rfl⟩
    rfl

instance (v : Option Value) : Decidable (∃ ms, v = some (.object ms)) :=
  decidable_of_iff _ isObject_iff

instance (cs : List Char) : Decidable (HoldsObjects cs) :=
  inferInstanceAs (Decidable (∀ l ∈ lines cs, blankText l = false →
    ∃ ms, readList (trim l) = some (.object ms)))

theorem blankText_of_skipBlank {cs : List Char} (h : skipBlank cs = []) : blankText cs = true := by
  unfold skipBlank at h
  rw [List.dropWhile_eq_nil_iff] at h
  refine List.all_eq_true.mpr fun c hc => ?_
  have hblank := h c hc
  simp only [Bool.or_eq_true, beq_iff_eq] at hblank
  rcases hblank with ((rfl | rfl) | rfl) | rfl <;> rfl

theorem outcome_congr {l m : List Char} (h : trim l = trim m) : outcome l = outcome m := by
  unfold outcome
  rw [h]

/-- What a line holds is in its front, or the front is blank or no JSON. -/
theorem outcome_append {q u : List Char}
    (h : blankText (q ++ u) = false → ∃ ms, readList (trim (q ++ u)) = some (.object ms)) :
    outcome q = outcome (q ++ u) ∨ u ≠ [] ∧ (outcome q = .blank ∨ outcome q = .notJson) := by
  cases hu : blankText u with
  | true => exact .inl (outcome_congr (Text.trim_append_of_blank q hu).symm)
  | false =>
    have hne : u ≠ [] := by
      rintro rfl
      cases hu
    refine .inr ⟨hne, ?_⟩
    by_cases hq : trim q = []
    · exact .inl (if_pos hq)
    · have hstart : Text.trimStart q ≠ [] := fun hnil => hq (by rw [trim, hnil]; rfl)
      -- the whole line goes on behind its front with more than blanks
      obtain ⟨b, hb⟩ : trim q <+: Text.trimStart q := List.rdropWhile_prefix _ _
      have htrim : trim (q ++ u) = trim q ++ (b ++ Text.trimEnd u) := by
        rw [trim, Text.trimStart_append_of_ne_nil hstart, Text.trimEnd_append_of_not_blank _ hu,
          ← List.append_assoc, hb]
      have hnot : ¬ blankText u = true := Bool.eq_false_iff.mp hu
      have hend : skipBlank (b ++ Text.trimEnd u) ≠ [] := fun hnil => by
        have hall := blankText_of_skipBlank (skipBlank_eq_nil_of_append hnil)
        have htwice : Text.trimEnd (Text.trimEnd u) = Text.trimEnd u := List.rdropWhile_idempotent _ u
        rw [← Text.trimEnd_eq_nil_iff, htwice, Text.trimEnd_eq_nil_iff] at hall
        exact hnot hall
      have hline : blankText (q ++ u) = false :=
        Bool.eq_false_iff.mpr fun hall => hnot (Text.blankText_append.mp hall).2
      obtain ⟨ms, hms⟩ := h hline
      rw [htrim] at hms
      refine .inr ?_
      rw [outcome, if_neg hq, readList_front hend hms]

/-- What the last line of a front gives, when it is the front of a line that holds an object. -/
theorem outcome_front {q s : List Char} (hq : '\n' ∉ q)
    (h : blankText (withoutEnd (q ++ s)) = false →
      ∃ ms, readList (trim (withoutEnd (q ++ s))) = some (.object ms)) :
    outcome q = outcome (withoutEnd (q ++ s)) ∨
      q.length < (withoutEnd (q ++ s)).length ∧ (outcome q = .blank ∨ outcome q = .notJson) := by
  rcases Text.withoutEnd_append hq with heq | ⟨-, heq⟩
  · rw [heq] at h ⊢
    refine (outcome_append h).imp_right fun ⟨hne, hfront⟩ => ⟨?_, hfront⟩
    have hpos := List.length_pos_iff.mpr hne
    rw [List.length_append]
    omega
  · -- only the line end is cut
    left
    apply outcome_congr
    conv_lhs => rw [heq]
    exact Text.trim_append_of_blank _ rfl

/-! ## Places of lines -/

/-- How many characters stand in front of the line of that number, counted from nought. -/
def lineStart (cs : List Char) (k : Nat) : Nat := ((pieces cs).take k).flatten.length

/-- An empty text has no line, and an empty line gives nothing. -/
theorem parseLines_lines {q : List Char} (hq : '\n' ∉ q) (n : Nat) :
    parseLines n (lines q) = parseLine n q := by
  by_cases hnil : q = []
  · rw [hnil]
    rfl
  · rw [Text.lines_of_not_mem hq hnil, parseLines, parseLines, Parsed.append, Parsed.empty,
      List.append_nil, List.append_nil]

theorem prefix_entries_take (n k : Nat) (ls : List (List Char)) :
    (parseLines n (ls.take k)).entries <+: (parseLines n ls).entries := by
  conv_rhs => rw [← List.take_append_drop k ls, parseLines_append]
  exact List.prefix_append _ _

section Broken
variable {p rest q s : List Char} {front behind : List (List Char)}
  (h : Text.BreaksIn p rest front q s behind)
include h

theorem parseList_front : parseList p =
    (parseLines 1 (front.map withoutEnd)).append (parseLine (1 + front.length) q) := by
  rw [parseList, lines, h.pieces_front, List.map_append, parseLines_append, List.length_map]
  exact congrArg _ (parseLines_lines h.inside _)

theorem lines_whole : lines (p ++ rest) =
    front.map withoutEnd ++ withoutEnd (q ++ s) :: behind.map withoutEnd := by
  rw [lines, h.pieces_whole, List.map_append, List.map_cons]

theorem parseList_whole : parseList (p ++ rest) = (parseLines 1 (front.map withoutEnd)).append
    ((parseLine (1 + front.length) (withoutEnd (q ++ s))).append
      (parseLines (1 + front.length + 1) (behind.map withoutEnd))) := by
  rw [parseList, lines_whole h, parseLines_append, List.length_map]
  rfl

theorem lineStart_broken : lineStart (p ++ rest) front.length + q.length = p.length := by
  rw [lineStart, h.pieces_whole, List.take_left, ← h.text, List.length_append]

/-- No line behind the broken piece lies in the front. -/
theorem le_of_line {k : Nat} {l : List Char} (hl : (lines (p ++ rest))[k]? = some l)
    (hin : lineStart (p ++ rest) k + l.length ≤ p.length) : k ≤ front.length := by
  by_contra hk
  obtain ⟨j, rfl⟩ : ∃ j, k = front.length + (j + 1) := ⟨k - front.length - 1, by omega⟩
  have hstart : lineStart (p ++ rest) (front.length + (j + 1)) =
      p.length + s.length + (behind.take j).flatten.length := by
    rw [lineStart, h.pieces_whole, List.take_length_add_append, List.take_succ_cons, ← h.text]
    simp only [List.flatten_append, List.flatten_cons, List.length_append]
    omega
  have hs : s = [] := List.eq_nil_of_length_eq_zero (by omega)
  rw [lines_whole h, h.last hs] at hl
  have hlt := (List.getElem?_eq_some_iff.mp hl).1
  simp only [List.map_nil, List.length_append, List.length_map, List.length_singleton] at hlt
  omega

theorem lines_broken : (lines (p ++ rest))[front.length]? = some (withoutEnd (q ++ s)) := by
  rw [lines_whole h, List.getElem?_append_right (by rw [List.length_map]), List.length_map,
    Nat.sub_self]
  rfl

theorem outcome_broken (hobjects : HoldsObjects (p ++ rest)) :
    outcome q = outcome (withoutEnd (q ++ s)) ∨
      q.length < (withoutEnd (q ++ s)).length ∧ (outcome q = .blank ∨ outcome q = .notJson) :=
  outcome_front h.inside (hobjects _ (List.mem_of_getElem? (lines_broken h)))

theorem entries_broken (hobjects : HoldsObjects (p ++ rest)) :
    (parseList p).entries <+: (parseList (p ++ rest)).entries := by
  rw [parseList_front h, parseList_whole h]
  refine (List.prefix_append_right_inj _).mpr ?_
  rw [parseLine_eq, Parsed.append, parseLine_eq]
  rcases outcome_broken h hobjects with heq | ⟨-, hcut⟩
  · rw [heq]
    exact List.prefix_append _ _
  · have hnone : (outcome q).kept? = none := by
      rcases hcut with heq | heq
      all_goals
        rw [heq]
        rfl
    rw [hnone]
    exact List.nil_prefix

theorem entries_of_line (hobjects : HoldsObjects (p ++ rest)) {k : Nat} {l : List Char}
    (hl : (lines (p ++ rest))[k]? = some l) (hin : lineStart (p ++ rest) k + l.length ≤ p.length) :
    (parseLines 1 ((lines (p ++ rest)).take (k + 1))).entries <+: (parseList p).entries := by
  have hlength : (front.map withoutEnd).length = front.length := List.length_map _
  rw [parseList_front h, Parsed.append, lines_whole h]
  rcases Nat.lt_or_eq_of_le (le_of_line h hl hin) with hlt | rfl
  · rw [List.take_append_of_le_length (by omega)]
    exact (prefix_entries_take 1 (k + 1) _).trans (List.prefix_append _ _)
  · -- the broken line itself: it lies in the front, so nothing of it is cut
    obtain rfl := Option.some.inj (hl.symm.trans (lines_broken h))
    have hstart := lineStart_broken h
    have hsame : outcome q = outcome (withoutEnd (q ++ s)) :=
      (outcome_broken h hobjects).resolve_right fun hcut => by omega
    rw [← hlength, List.take_length_add_append, List.take_succ_cons, List.take_zero, parseLines_append,
      Parsed.append, parseLines, parseLines, Parsed.append, parseLine_eq, parseLine_eq, hsame]
    dsimp only [Parsed.empty]
    rw [List.append_nil]

theorem reports_broken (hobjects : HoldsObjects (p ++ rest)) : ∃ whole torn,
    (parseList p).reports = whole ++ torn ∧ whole <+: (parseList (p ++ rest)).reports ∧
      (torn = [] ∨ ∃ k l, (lines (p ++ rest))[k]? = some l ∧ lineStart (p ++ rest) k < p.length ∧
        p.length < lineStart (p ++ rest) k + l.length ∧ torn = [⟨k + 1, .notJson⟩]) := by
  have hlines := lines_broken h
  have hstart := lineStart_broken h
  rw [parseList_front h, parseList_whole h, parseLine_eq, parseLine_eq]
  rcases outcome_broken h hobjects with heq | ⟨hlt, heq | heq⟩
  · rw [heq]
    refine ⟨_, [], (List.append_nil _).symm, ?_, .inl rfl⟩
    exact (List.prefix_append_right_inj _).mpr (List.prefix_append _ _)
  · rw [heq]
    exact ⟨_, [], rfl, List.prefix_append _ _, .inl rfl⟩
  · have hq : q ≠ [] := by
      rintro rfl
      cases heq
    have hpos := List.length_pos_iff.mpr hq
    rw [heq, Nat.add_comm 1]
    refine ⟨_, [⟨front.length + 1, .notJson⟩], rfl, List.prefix_append _ _, .inr ?_⟩
    exact ⟨front.length, _, hlines, by omega, by omega, rfl⟩

end Broken

/-! ## Texts that break off -/

/-- When every line of a transcript that is not blank holds an object, a front of it has the first of its
entries, with those of all lines that lie in the front. Of its reports it has the first, and then at most
one more, which says that the line that is cut is no JSON. -/
theorem parse_front {p rest : String} (hobjects : HoldsObjects (p ++ rest).toList) :
    (parse p).entries <+: (parse (p ++ rest)).entries ∧
    (∀ k l, (lines (p ++ rest).toList)[k]? = some l →
      lineStart (p ++ rest).toList k + l.length ≤ p.toList.length →
      (parseLines 1 ((lines (p ++ rest).toList).take (k + 1))).entries <+: (parse p).entries) ∧
    ∃ whole torn, (parse p).reports = whole ++ torn ∧ whole <+: (parse (p ++ rest)).reports ∧
      (torn = [] ∨ ∃ k l, (lines (p ++ rest).toList)[k]? = some l ∧
        lineStart (p ++ rest).toList k < p.toList.length ∧
        p.toList.length < lineStart (p ++ rest).toList k + l.length ∧ torn = [⟨k + 1, .notJson⟩]) := by
  by_cases hrest : rest.toList = []
  · obtain rfl := String.toList_eq_nil_iff.mp hrest
    rw [String.append_empty]
    refine ⟨List.prefix_rfl, fun k l _ _ => prefix_entries_take 1 (k + 1) _, ?_⟩
    exact ⟨_, [], (List.append_nil _).symm, List.prefix_rfl, .inl rfl⟩
  · obtain ⟨front, q, s, behind, h⟩ := Text.exists_breaksIn p.toList hrest
    unfold parse
    rw [String.toList_append] at hobjects ⊢
    exact ⟨entries_broken h hobjects, fun k l hl hin => entries_of_line h hobjects hl hin,
      reports_broken h hobjects⟩

/-- Of three lines the first is whole, and the last is cut behind its first member's key. -/
theorem parse_front_ofThreeLines :
    let p := " \x7b\"type\": \"user\"\x7d\r\n \n\x7b\"type\""
    let rest := ": \"system\"\x7d \n"
    HoldsObjects (p ++ rest).toList ∧ (parse p).entries <+: (parse (p ++ rest)).entries ∧
    (parseLines 1 ((lines (p ++ rest).toList).take 1)).entries <+: (parse p).entries ∧
    (parse p).entries.length = 1 ∧ (parse (p ++ rest)).entries.length = 2 ∧
    (parse p).reports = [⟨3, .notJson⟩] ∧ (parse (p ++ rest)).reports = [] := by
  intro p rest
  have hobjects : HoldsObjects (p ++ rest).toList := by decide +kernel
  have hfirst : (lines (p ++ rest).toList)[0]? = some " \x7b\"type\": \"user\"\x7d".toList := by
    decide +kernel
  obtain ⟨hentries, hwhole, -⟩ := parse_front hobjects
  exact ⟨hobjects, hentries, hwhole 0 _ hfirst (by decide +kernel), by decide +kernel,
    by decide +kernel, by decide +kernel, by decide +kernel⟩

end CycleLog.Transcript
