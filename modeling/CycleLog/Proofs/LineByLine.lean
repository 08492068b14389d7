import CycleLog.Proofs.History

/-!
# A transcript, line by line

What a line gives depends on its text alone (`outcome`); its number shows only in what is reported of it.
So a text is parsed part by part (`reports_parse_append`), the reports stand in the order of the lines,
and every line that is not blank is accounted for: it gives an entry or is left out and reported
(`length_entries_parseLines`, `countP_reports_parseLines`). A line reported for its shape keeps its place
(`entries_of_misshapen`).
-/

namespace CycleLog.Transcript
set_option autoImplicit false

open Json
open Text (EndsLine lines trim blankText)

/-! ## What one line gives -/

inductive Outcome where
  | blank
  | notJson
  | misshapen (m : Mismatch)
  | good (e : Entry)

def outcome (l : List Char) : Outcome :=
  if trim l = [] then .blank
  else
    match readList (trim l) with
    | none => .notJson
    | some v =>
      match toEntry v with
      | .ok e => .good e
      | .error m => .misshapen m

namespace Outcome

def kept? : Outcome → Option Entry
  | blank | notJson => none
  | misshapen _ => some .other
  | good e => some e

def flaw? : Outcome → Option Flaw
  | blank | good _ => none
  | notJson => some .notJson
  | misshapen m => some (.shape m)

def isBlank : Outcome → Bool
  | blank => true
  | _ => false

def isNotJson : Outcome → Bool
  | notJson => true
  | _ => false

end Outcome

theorem parseLine_eq (n : Nat) (l : List Char) :
    parseLine n l = ⟨(outcome l).kept?.toList, ((outcome l).flaw?.map (Report.mk n)).toList⟩ := by
  unfold parseLine outcome
  dsimp only
  split
  · rfl
  · cases readList (trim l) with
    | none => rfl
    | some v =>
      dsimp only
      cases toEntry v <;> rfl

theorem blankText_eq (l : List Char) : blankText l = (outcome l).isBlank := by
  by_cases h : trim l = []
  · rw [outcome, if_pos h]
    exact Text.trim_eq_nil_iff.mp h
  · have hblank : blankText l = false := Bool.eq_false_iff.mpr (Text.trim_eq_nil_iff.not.mp h)
    rw [hblank, outcome, if_neg h]
    cases readList (trim l) with
    | none => rfl
    | some v =>
      dsimp only
      cases toEntry v <;> rfl

/-- Whether a line is left out for being no JSON. -/
def isDropped (l : List Char) : Bool := !blankText l && (readList (trim l)).isNone

theorem isDropped_eq (l : List Char) : isDropped l = (outcome l).isNotJson := by
  unfold isDropped
  rw [blankText_eq]
  by_cases h : trim l = []
  · rw [outcome, if_pos h]
    rfl
  · rw [outcome, if_neg h]
    cases readList (trim l) with
    | none => rfl
    | some v =>
      dsimp only
      cases toEntry v <;> rfl

/-! ## What the lines give together -/

theorem reports_parseLines_cons (n : Nat) (l : List Char) (ls : List (List Char)) :
    (parseLines n (l :: ls)).reports =
      ((outcome l).flaw?.map (Report.mk n)).toList ++ (parseLines (n + 1) ls).reports := by
  rw [parseLines, Parsed.append, parseLine_eq]

/-- A report of a text behind so many lines. -/
def Report.moved (n : Nat) (x : Report) : Report := { x with line := n + x.line }

theorem reports_parseLines_add (k n : Nat) (ls : List (List Char)) :
    (parseLines (k + n) ls).reports = (parseLines n ls).reports.map (·.moved k) := by
  induction ls generalizing n with
  | nil => rfl
  | cons l ls ih =>
    rw [reports_parseLines_cons, reports_parseLines_cons, List.map_append, Nat.add_assoc, ih]
    cases (outcome l).flaw? <;> rfl

theorem reports_parse_append {s : String} (h : EndsLine s) (t : String) :
    (parse (s ++ t)).reports =
      (parse s).reports ++ (parse t).reports.map (·.moved (lines s.toList).length) := by
  unfold parse parseList
  rw [String.toList_append, Text.lines_append h, parseLines_append, Parsed.append, Nat.add_comm 1,
    reports_parseLines_add]

/-! ## The numbers of the lines -/

/-- What is reported of lines the first of which has that number. -/
theorem mem_reports_parseLines {n : Nat} {ls : List (List Char)} {x : Report}
    (h : x ∈ (parseLines n ls).reports) :
    ∃ front l back, ls = front ++ l :: back ∧ x.line = n + front.length ∧
      (outcome l).flaw? = some x.flaw := by
  induction ls generalizing n with
  | nil => cases h
  | cons l ls ih =>
    rw [reports_parseLines_cons, List.mem_append] at h
    rcases h with h | h
    · obtain ⟨f, hf, rfl⟩ := Option.map_eq_some_iff.mp (Option.mem_toList.mp h)
      exact ⟨[], l, ls, rfl, rfl, hf⟩
    · obtain ⟨front, m, back, rfl, hline, hf⟩ := ih h
      refine ⟨l :: front, m, back, rfl, ?_, hf⟩
      rw [hline, List.length_cons]
      omega

theorem pairwise_reports_parseLines (n : Nat) (ls : List (List Char)) :
    (parseLines n ls).reports.Pairwise fun x y => x.line < y.line := by
  induction ls generalizing n with
  | nil => exact List.Pairwise.nil
  | cons l ls ih =>
    rw [reports_parseLines_cons, List.pairwise_append]
    refine ⟨?_, ih (n + 1), fun x hx y hy => ?_⟩
    · cases (outcome l).flaw? with
      | none => exact List.Pairwise.nil
      | some f => exact List.pairwise_singleton _ _
    · obtain ⟨f, -, rfl⟩ := Option.map_eq_some_iff.mp (Option.mem_toList.mp hx)
      obtain ⟨front, m, back, -, hline, -⟩ := mem_reports_parseLines hy
      rw [hline]
      dsimp only
      omega

/-! ## Every line is accounted for -/

theorem countP_reports_parseLines (n : Nat) (ls : List (List Char)) :
    (parseLines n ls).reports.countP (fun x => x.flaw = .notJson) = ls.countP isDropped := by
  induction ls generalizing n with
  | nil => rfl
  | cons l ls ih =>
    rw [reports_parseLines_cons, List.countP_append, ih, List.countP_cons, isDropped_eq, Nat.add_comm]
    cases outcome l <;> rfl

theorem length_entries_parseLines (n : Nat) (ls : List (List Char)) :
    (parseLines n ls).entries.length + ls.countP isDropped = ls.countP fun l => !blankText l := by
  induction ls generalizing n with
  | nil => rfl
  | cons l ls ih =>
    have hline : (outcome l).kept?.toList.length + (if isDropped l then 1 else 0) =
        if !blankText l then 1 else 0 := by
      rw [isDropped_eq, blankText_eq]
      cases outcome l <;> rfl
    rw [parseLines, Parsed.append, parseLine_eq, List.length_append, List.countP_cons,
      List.countP_cons, ← ih (n + 1), ← hline]
    dsimp only
    omega

/-- What is reported for its shape keeps its place among the entries. -/
theorem entries_of_misshapen (n : Nat) {front back : List (List Char)} {l : List Char} {m : Mismatch}
    (h : (outcome l).flaw? = some (.shape m)) :
    (parseLines n (front ++ l :: back)).entries =
      (parseLines n front).entries ++ .other :: (parseLines (n + front.length + 1) back).entries := by
  have hl : (outcome l).kept? = some .other := by
    revert h
    cases outcome l with
    | misshapen => exact fun _ => rfl
    | blank | notJson | good => exact nofun
  rw [parseLines_append, parseLines, Parsed.append, Parsed.append, parseLine_eq, hl]
  rfl

/-! ## Texts -/

/-- A text behind whole lines is parsed as on its own, with its lines numbered on. In every text, the
reports name lines that are not blank, in order; each such line gives an entry, unless it is left out
and reported as no JSON; and a line reported for its shape keeps its place as an entry of no kind. -/
theorem parse_line_by_line :
    (∀ s t : String, EndsLine s →
      (parse (s ++ t)).entries = (parse s).entries ++ (parse t).entries ∧
      (parse (s ++ t)).reports =
        (parse s).reports ++ (parse t).reports.map (·.moved (lines s.toList).length)) ∧
    ∀ t : String,
      ((parse t).reports.Pairwise fun x y => x.line < y.line) ∧
      (∀ x ∈ (parse t).reports, ∃ front l back, lines t.toList = front ++ l :: back ∧
        x.line = front.length + 1 ∧ blankText l = false ∧
        ∀ m, x.flaw = .shape m → (parse t).entries =
          (parseLines 1 front).entries ++ .other :: (parseLines (x.line + 1) back).entries) ∧
      (parse t).reports.countP (fun x => x.flaw = .notJson) = (lines t.toList).countP isDropped ∧
      (parse t).entries.length + (lines t.toList).countP isDropped =
        (lines t.toList).countP fun l => !blankText l := by
  refine ⟨fun s t hs => ⟨entries_parse_append hs t, reports_parse_append hs t⟩, fun t => ?_⟩
  refine ⟨pairwise_reports_parseLines 1 _, fun x hx => ?_, countP_reports_parseLines 1 _,
    length_entries_parseLines 1 _⟩
  obtain ⟨front, l, back, hlines, hline, hflaw⟩ := mem_reports_parseLines hx
  have hnumber : x.line = front.length + 1 := hline.trans (Nat.add_comm _ _)
  refine ⟨front, l, back, hlines, hnumber, ?_, fun m hm => ?_⟩
  · rw [blankText_eq]
    revert hflaw
    cases outcome l with
    | blank => exact nofun
    | notJson | misshapen | good => exact fun _ => rfl
  · rw [parse, parseList, hlines, hline]
    exact entries_of_misshapen 1 (hflaw.trans (congrArg some hm))

/-- Behind a line that is no JSON and an empty one stand one of another shape, and a turn. -/
theorem parse_line_by_line_ofKinds :
    let s := "no entry\n\n"
    let t := "[]\r\n[\"user\"]"
    EndsLine s ∧
    (parse (s ++ t)).reports = (parse s).reports ++ (parse t).reports.map (·.moved 2) ∧
    (parse (s ++ t)).reports.map (·.line) = [1, 3] ∧ (parse (s ++ t)).entries.length = 2 := by
  intro s t
  have hs : EndsLine s := .inr ⟨"no entry\n", rfl⟩
  have hlines : (lines s.toList).length = 2 := by decide +kernel
  have hreports := (parse_line_by_line.1 s t hs).2
  rw [hlines] at hreports
  exact ⟨hs, hreports, by decide +kernel, by decide +kernel⟩

end CycleLog.Transcript
