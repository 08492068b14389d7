import CycleLog.Proofs.Pieces
import CycleLog.Proofs.Recognition
import CycleLog.Proofs.Scanning
import CycleLog.Proofs.Wire

/-!
# How an output is packaged

A tool may answer with a text, with an object that holds it, or with a list of blocks whose texts are
the parts of it. A passed method is reported within one line (`ReportsAt`), so that a report neither
begins nor ends at the boundary of two blocks: a line end put between two texts changes nothing
(`reports_join`), since the carriage return that it may take from the line in front belongs to no
report (`passedIn?_return`). The filter looks at the packed text alone (`check_congr`).
-/

namespace CycleLog.Trigger
set_option autoImplicit false

open Json Text Tool

/-! ## Reports -/

/-- `> name() PASSED` stands at the front, with blanks in the two gaps. -/
def ReportsAt (cs name : List Char) : Prop :=
  ∃ blanks gap rest,
    cs = '>' :: (blanks ++ (name ++ ("()".toList ++ (gap ++ ("PASSED".toList ++ rest))))) ∧
    blanks ≠ [] ∧ Stretch isBlank blanks name ∧
    name ≠ [] ∧ (∀ c ∈ name, isWordChar c = true) ∧
    gap ≠ [] ∧ ∀ c ∈ gap, isBlank c = true

theorem passedAt?_eq_some_iff {cs name : List Char} :
    passedAt? cs = some name ↔ ReportsAt cs name := by
  unfold passedAt?
  simp only [Option.bind_eq_bind, Option.bind_eq_some_iff]
  constructor
  · rintro ⟨r, hmark, r', hblanks, ⟨w, behind⟩, hrun, r'', hcall, r''', hgap, rest, hpassed, hname⟩
    obtain rfl := Option.some.inj hname
    obtain ⟨blanks, rfl, hblanksNe, hs⟩ := blanks?_eq_some_iff.mp hblanks
    obtain ⟨rfl, hne, hword⟩ := run?_eq_some_iff.mp hrun
    obtain ⟨gap, rfl, hgapNe, hg⟩ := blanks?_eq_some_iff.mp hgap
    obtain rfl := word?_eq_some_iff.mp hcall
    obtain rfl := word?_eq_some_iff.mp hpassed
    refine ⟨blanks, gap, rest, word?_eq_some_iff.mp hmark, hblanksNe, ⟨hs.inside, ?_⟩, hne,
      hword.inside, hgapNe, hg.inside⟩
    intro c hc
    exact hs.boundary c (List.mem_head?_append_of_mem_head? hc)
  · rintro ⟨blanks, gap, rest, rfl, hblanksNe, hs, hne, hword, hgapNe, hg⟩
    obtain ⟨c, w, rfl⟩ := List.exists_cons_of_ne_nil hne
    have hblanks : Stretch isBlank blanks
        (c :: w ++ ("()".toList ++ (gap ++ ("PASSED".toList ++ rest)))) :=
      ⟨hs.inside, fun d hd => hs.boundary d hd⟩
    have hname : Stretch isWordChar (c :: w) ("()".toList ++ (gap ++ ("PASSED".toList ++ rest))) :=
      ⟨hword, fun d hd => Option.some.inj hd ▸ by decide⟩
    have hgap : Stretch isBlank gap ("PASSED".toList ++ rest) :=
      ⟨hg, fun d hd => Option.some.inj hd ▸ by decide⟩
    exact ⟨_, word?_eq_some_iff.mpr rfl, _, blanks?_eq_some_iff.mpr ⟨_, rfl, hblanksNe, hblanks⟩,
      (c :: w, _), run?_eq_some_iff.mpr ⟨rfl, hne, hname⟩, _, word?_eq_some_iff.mpr rfl, _,
      blanks?_eq_some_iff.mpr ⟨_, rfl, hgapNe, hgap⟩, _, word?_eq_some_iff.mpr rfl, rfl⟩

/-- A carriage return at the end of a line is behind every report in it. -/
theorem reportsAt_return {cs name : List Char} : ReportsAt (cs ++ ['\r']) name ↔ ReportsAt cs name := by
  constructor
  · rintro ⟨blanks, gap, rest, hcs, h⟩
    rcases List.eq_nil_or_concat' rest with rfl | ⟨rest, d, rfl⟩
    · -- the text would end with the last letter of the report
      have hlast : cs ++ ['\r'] =
          ('>' :: (blanks ++ (name ++ ("()".toList ++ (gap ++ "PASSE".toList))))) ++ ['D'] := by
        rw [hcs]
        simp
      exact absurd (List.append_inj' hlast rfl).2 (by decide)
    · have hsplit : cs ++ ['\r'] =
          ('>' :: (blanks ++ (name ++ ("()".toList ++ (gap ++ ("PASSED".toList ++ rest)))))) ++ [d] := by
        rw [hcs]
        simp
      exact ⟨blanks, gap, rest, (List.append_inj' hsplit rfl).1, h⟩
  · rintro ⟨blanks, gap, rest, rfl, h⟩
    exact ⟨blanks, gap, rest ++ ['\r'], by simp, h⟩

theorem passedAt?_return (cs : List Char) : passedAt? (cs ++ ['\r']) = passedAt? cs := by
  ext name
  rw [passedAt?_eq_some_iff, passedAt?_eq_some_iff, reportsAt_return]

theorem passedIn?_return (line : List Char) : passedIn? (line ++ ['\r']) = passedIn? line := by
  unfold passedIn?
  induction line with
  | nil => rfl
  | cons c line ih =>
    rw [List.cons_append, firstAt?, firstAt?, ← List.cons_append, passedAt?_return, ih]

/-! ## Texts with line ends between them -/

/-- The methods that the lines of a text report. -/
def reports (cs : List Char) : List (List Char) := (lines cs).filterMap passedIn?

theorem passedMethods_eq (s : String) : passedMethods s = (reports s.toList).map String.ofList := rfl

/-- The line end at the end of a text is not part of a report. -/
theorem reports_concat (cs : List Char) : reports (cs ++ ['\n']) = reports cs := by
  obtain ⟨front, q, -, hq, hpieces⟩ := exists_whole_pieces cs
  have hcs := hpieces []
  rw [List.append_nil, List.append_nil] at hcs
  -- only the last line differs, by a carriage return or by being there
  have hlast : reports (q ++ ['\n']) = reports q := by
    have hne : q ++ ['\n'] ≠ [] := by simp
    have hline : lines (q ++ ['\n']) = [withoutEnd (q ++ ['\n'])] := by
      rw [lines, pieces_append_of_not_mem hq hne]
      rfl
    unfold reports
    rw [hline]
    by_cases hnil : q = []
    · rw [hnil]
      rfl
    · rw [lines_of_not_mem hq hnil]
      rcases withoutEnd_append (s := ['\n']) hq with hkept | ⟨-, hreturn⟩
      · rw [hkept, show withoutEnd ['\n'] = [] from rfl, List.append_nil]
      · conv_rhs => rw [hreturn]
        rw [List.filterMap_cons, List.filterMap_cons, passedIn?_return]
  have hfront (rest : List Char) : reports (cs ++ rest) =
      (front.map withoutEnd).filterMap passedIn? ++ reports (q ++ rest) := by
    rw [reports, lines, hpieces, List.map_append, List.filterMap_append]
    rfl
  have hwhole := hfront []
  rw [List.append_nil, List.append_nil] at hwhole
  rw [hfront, hlast, hwhole]

/-- No report goes over a line end. -/
theorem reports_append (a b : List Char) : reports (a ++ '\n' :: b) = reports a ++ reports b := by
  rw [← reports_concat a]
  unfold reports lines
  rw [pieces_append_newline, List.map_append, List.filterMap_append]

/-- The texts with a line end between each two of them. -/
def joined (ts : List String) : String := "\n".intercalate ts

theorem passedMethods_joined (ts : List String) :
    passedMethods (joined ts) = ts.flatMap passedMethods := by
  induction ts with
  | nil => rfl
  | cons t ts ih =>
    cases ts with
    | nil => simp [joined]
    | cons u ts =>
      have hjoined : (joined (t :: u :: ts)).toList = t.toList ++ '\n' :: (joined (u :: ts)).toList := by
        simp [joined, String.intercalate_cons_cons]
      rw [List.flatMap_cons, ← ih, passedMethods_eq, hjoined, reports_append, List.map_append]
      rfl

/-! ## Packagings -/

/-- A block that is listed for its text. -/
def IsTextBlock (v : Value) : Prop := v.member? "type" = some (.text "text")

/-- The blocks of a list that hold texts hold these, in this order; what else is in the list is no such
block. -/
inductive Packed : List Value → List String → Prop where
  | nil : Packed [] []
  | text {v : Value} {t : String} {vs : List Value} {ts : List String} (block : IsTextBlock v)
      (holds : v.member? "text" = some (.text t)) (rest : Packed vs ts) : Packed (v :: vs) (t :: ts)
  | other {v : Value} {vs : List Value} {ts : List String} (block : ¬ IsTextBlock v)
      (rest : Packed vs ts) : Packed (v :: vs) ts

/-- The answers that stand for one output. -/
inductive Carries : Value → String → Prop where
  | text (s : String) : Carries (.text s) s
  | blocks {vs : List Value} {ts : List String} (packed : Packed vs ts) : Carries (.list vs) (joined ts)
  | stdout {ms : List Member} {s : String} (holds : ms.lookup "stdout" = some (.text s)) :
      Carries (.object ms) s
  | content {ms : List Member} {s : String} (absent : ms.lookup "stdout" = none)
      (holds : ms.lookup "content" = some (.text s)) : Carries (.object ms) s

theorem blockText?_of_isTextBlock {v : Value} {t : String} (h : IsTextBlock v)
    (ht : v.member? "text" = some (.text t)) : blockText? v = some t := by
  unfold IsTextBlock at h
  unfold blockText?
  rw [h, ht]
  rfl

theorem blockText?_of_not_isTextBlock {v : Value} (h : ¬ IsTextBlock v) : blockText? v = none := by
  unfold IsTextBlock at h
  unfold blockText?
  split
  · next htype => exact absurd htype h
  · rfl

theorem Packed.filterMap_blockText? {vs : List Value} {ts : List String} (h : Packed vs ts) :
    vs.filterMap blockText? = ts := by
  induction h with
  | nil => rfl
  | text block holds _ ih =>
    rw [List.filterMap_cons, blockText?_of_isTextBlock block holds, ih]
  | other block _ ih =>
    rw [List.filterMap_cons, blockText?_of_not_isTextBlock block]
    exact ih

theorem Carries.printedText_eq {v : Value} {s : String} (h : Carries v s) : printedText v = s := by
  cases h with
  | text => rfl
  | blocks packed => exact congrArg joined packed.filterMap_blockText?
  | stdout holds =>
    rw [printedText, holds]
    rfl
  | content absent holds =>
    rw [printedText, absent, holds]
    rfl

/-! ## The filter -/

/-- The event of the same call with another answer. -/
def answered (e : Event) (v : Value) : Event := { e with answer := v }

/-- Of the answer only the text that it stands for is looked at. -/
theorem check_congr (f : Filter) (e : Event) {v w : Value} (h : printedText v = printedText w) :
    f.check (answered e v) = f.check (answered e w) := by
  have hstdout : (answered e v).stdout = (answered e w).stdout := h
  have hcall : (answered e v).call = (answered e w).call := rfl
  unfold Filter.check
  rw [hstdout, hcall]

theorem eq_of_check_eq_ok {f : Filter} {e : Event} {run : TestRun} (h : f.check e = .ok run) :
    run = ⟨e.call.shellCommand?.getD "", e.stdout⟩ := by
  unfold Filter.check at h
  dsimp only at h
  split at h
  · cases h
  · split at h
    · cases h
    · split at h
      · cases h
      · exact (Except.ok.inj h).symm

/-- Texts in blocks report the methods that they report one by one. The filter gives the same for every
answer that carries these texts with line ends between them, and if it lets the event through, the run
has the same subject and the same methods. -/
theorem same_in_every_packaging {vs : List Value} {ts : List String} (h : Packed vs ts) :
    passedMethods (printedText (.list vs)) = ts.flatMap passedMethods ∧
    ∀ (f : Filter) (e : Event) (v : Value), Carries v (joined ts) →
      f.check (answered e v) = f.check (answered e (.list vs)) ∧
      ∀ run, f.check (answered e v) = .ok run →
        run.subject = subject (e.call.shellCommand?.getD "") ∧
        run.passedMethods = ts.flatMap passedMethods := by
  have hlist : printedText (.list vs) = joined ts := (Carries.blocks h).printedText_eq
  refine ⟨by rw [hlist, passedMethods_joined], fun f e v hv => ?_⟩
  have hprinted : printedText v = joined ts := hv.printedText_eq
  refine ⟨check_congr f e (hprinted.trans hlist.symm), fun run hrun => ?_⟩
  obtain rfl := eq_of_check_eq_ok hrun
  refine ⟨rfl, ?_⟩
  have hmethods : passedMethods (printedText v) = ts.flatMap passedMethods := by
    rw [hprinted, passedMethods_joined]
  exact hmethods

/-- A block of type `text`. -/
def textBlock (t : String) : Value := Value.make [("type", .text "text"), ("text", .text t)]

/-- A report that breaks off at the end of a block is none, and one in front of a carriage return is. -/
theorem same_in_every_packaging_ofBrokenReport :
    let vs := [textBlock "Sums > add() PASSED\r", .text "image", textBlock "Sums > sub()",
      textBlock " PASSED\n"]
    let ts := ["Sums > add() PASSED\r", "Sums > sub()", " PASSED\n"]
    Packed vs ts ∧ passedMethods (printedText (.list vs)) = ["add"] := by
  intro vs ts
  have hpacked : Packed vs ts :=
    .text rfl rfl (.other nofun (.text rfl rfl (.text rfl rfl .nil)))
  refine ⟨hpacked, ?_⟩
  rw [(same_in_every_packaging hpacked).1]
  decide +kernel

end CycleLog.Trigger
