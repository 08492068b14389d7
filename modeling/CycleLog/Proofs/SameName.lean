import CycleLog.Proofs.Accounting
import CycleLog.Proofs.FirstTouch
import CycleLog.Proofs.Success
import Mathlib.Data.Set.Function

/-!
# Files of one name

The strategy is told of the names of files, without the folders that they are in. By first touch a
contribution goes to refactor when each of its files has the name of one that was written before, and
this need not be the same file (`refactors_by_name`). Where no two source files of a window have the
same name, refactor only revisits files that are there.
-/

namespace CycleLog.Phase
set_option autoImplicit false

open Transcript Tool

/-! ## Paths of source files -/

/-- The paths of the source files that an entry writes. -/
def sourcePaths (p : FilePatterns) (e : Entry) : List String := (writesOf p .source e).map (·.path)

theorem writtenNames_source (p : FilePatterns) (e : Entry) :
    writtenNames p .source e = (sourcePaths p e).map fileName := by
  unfold writtenNames sourcePaths
  rw [List.map_map]
  rfl

theorem sourceWork?_eq_none_iff_paths {c : Classifier} {e : Entry} :
    c.sourceWork? e = none ↔ sourcePaths c.patterns e = [] := by
  rw [sourceWork?_eq_none_iff, writtenNames_source, List.map_eq_nil_iff]

/-- Each source file that the entry writes has been written before. -/
def RevisitsPaths (p : FilePatterns) (before : List Entry) (e : Entry) : Prop :=
  ∀ path ∈ sourcePaths p e, ∃ d ∈ before, path ∈ sourcePaths p d

/-- Each source file that the entry writes has the name of one that has been written before. -/
def RevisitsNames (p : FilePatterns) (before : List Entry) (e : Entry) : Prop :=
  ∀ path ∈ sourcePaths p e, ∃ d ∈ before, ∃ other ∈ sourcePaths p d, fileName other = fileName path

/-- No two of the source files that are written have the same name. -/
def NamesTellApart (p : FilePatterns) (es : List Entry) : Prop :=
  Set.InjOn fileName {path | ∃ e ∈ es, path ∈ sourcePaths p e}

section Revisits
variable {p : FilePatterns} {before : List Entry} {e : Entry}

theorem RevisitsPaths.names (h : RevisitsPaths p before e) : RevisitsNames p before e := by
  intro path hpath
  obtain ⟨d, hd, hmem⟩ := h path hpath
  exact ⟨d, hd, path, hmem, rfl⟩

theorem RevisitsNames.paths (hapart : NamesTellApart p (before ++ [e]))
    (h : RevisitsNames p before e) : RevisitsPaths p before e := by
  intro path hpath
  obtain ⟨d, hd, other, hother, hname⟩ := h path hpath
  have hwritten : ∃ d ∈ before ++ [e], path ∈ sourcePaths p d := ⟨e, by simp, hpath⟩
  obtain rfl := hapart ⟨d, List.mem_append_left [e] hd, hother⟩ hwritten hname
  exact ⟨d, hd, hother⟩

theorem revisits_iff_names {c : Classifier} {w : Work} (h : c.sourceWork? e = some w) :
    Revisits c.patterns before w ↔ RevisitsNames c.patterns before e := by
  unfold Revisits RevisitsNames
  rw [(files_of_sourceWork? h).1]
  simp only [List.mem_eraseDups, writtenNames_source, List.mem_map, forall_exists_index, and_imp,
    forall_apply_eq_imp_iff₂]

end Revisits

/-! ## Contributions to refactor -/

/-- What the entry writes of source files is a contribution to refactor. -/
def Classifier.Refactors (c : Classifier) (before : List Entry) (e : Entry) : Prop :=
  ∃ w, c.sourceWork? e = some w ∧
    (c.sort (before ++ [e])).refactor = (c.sort before).refactor ++ [w]

theorem refactors_iff_strategy {c : Classifier} {before : List Entry} {e : Entry} :
    c.Refactors before e ↔
      ∃ w, c.sourceWork? e = some w ∧ c.strategy (c.walk before).seen w.files = .refactor := by
  have hstep := worksIn_step c (c.walk before) e .refactor
  rw [← Classifier.walk_concat] at hstep
  change (c.sort (before ++ [e])).refactor = (c.sort before).refactor ++ _ at hstep
  refine exists_congr fun w => and_congr_right fun hw => ?_
  rw [hstep, hw, Option.filter_some, List.append_cancel_left_eq]
  by_cases hs : c.strategy (c.walk before).seen w.files = .refactor <;> simp [hs]

/-- By first touch an entry contributes to refactor when each source file that it writes has the name
of one written before. When names tell the files apart, these are the same files; and an entry that
only writes files written before always does so. What follows in the window adds to refactor and takes
nothing away. -/
theorem refactors_by_name (p : FilePatterns) (limit : Nat) (before : List Entry) (e : Entry) :
    let c : Classifier := ⟨p, limit, firstTouch⟩
    (c.Refactors before e ↔ sourcePaths p e ≠ [] ∧ RevisitsNames p before e) ∧
    (NamesTellApart p (before ++ [e]) → c.Refactors before e → RevisitsPaths p before e) ∧
    (sourcePaths p e ≠ [] → RevisitsPaths p before e → c.Refactors before e) ∧
    ∀ after, (c.sort (before ++ [e])).refactor <+: (c.sort (before ++ e :: after)).refactor := by
  intro c
  have hc : c.strategy = firstTouch := rfl
  have hnames : c.Refactors before e ↔ sourcePaths p e ≠ [] ∧ RevisitsNames p before e := by
    rw [refactors_iff_strategy]
    constructor
    · rintro ⟨w, hw, hs⟩
      refine ⟨fun hnil => ?_, ?_⟩
      · rw [sourceWork?_eq_none_iff_paths.mpr hnil] at hw
        cases hw
      · exact (revisits_iff_names hw).mp ((strategy_eq_refactor_iff hc hw before).mp hs)
    · rintro ⟨hne, hrevisits⟩
      have hsome : c.sourceWork? e ≠ none := fun h => hne (sourceWork?_eq_none_iff_paths.mp h)
      obtain ⟨w, hw⟩ := Option.ne_none_iff_exists'.mp hsome
      exact ⟨w, hw, (strategy_eq_refactor_iff hc hw before).mpr ((revisits_iff_names hw).mpr hrevisits)⟩
  refine ⟨hnames, fun hapart h => (hnames.mp h).2.paths hapart,
    fun hne h => hnames.mpr ⟨hne, h.names⟩, fun after => ?_⟩
  have hprefix := worksIn_prefix c (before ++ [e]) after .refactor
  rw [List.append_assoc, List.singleton_append] at hprefix
  exact hprefix

/-- A turn that writes an empty file. -/
def writing (path : String) : Entry :=
  .assistant ⟨none, .blocks [.toolUse "Write" (.object [("file_path", .text path)])]⟩

/-- A file that is written for the first time goes to refactor, since a file of another folder has its
name. -/
theorem refactors_ofOtherFolder : ∃ c, Classifier.make .standard = .ok c ∧
    c.Refactors [writing "/a/App.java"] (writing "/b/App.java") ∧
    sourcePaths c.patterns (writing "/b/App.java") = ["/b/App.java"] ∧
    ¬ RevisitsPaths c.patterns [writing "/a/App.java"] (writing "/b/App.java") := by
  have hfacts : (do
      let c ← Classifier.make .standard
      .ok (c.sourceWork? (writing "/b/App.java"),
        (c.sort [writing "/a/App.java"]).refactor,
        (c.sort [writing "/a/App.java", writing "/b/App.java"]).refactor,
        sourcePaths c.patterns (writing "/a/App.java"),
        sourcePaths c.patterns (writing "/b/App.java")) : Except Problem _) =
      .ok (some ⟨"", ["App.java"], []⟩, [], [⟨"", ["App.java"], []⟩], ["/a/App.java"],
        ["/b/App.java"]) := by decide +kernel
  obtain ⟨c, hmake, hfacts⟩ := bind_eq_ok_iff.mp hfacts
  obtain ⟨hwork, hfacts⟩ := Prod.mk.inj (Except.ok.inj hfacts)
  obtain ⟨hbefore, hfacts⟩ := Prod.mk.inj hfacts
  obtain ⟨hboth, hfacts⟩ := Prod.mk.inj hfacts
  obtain ⟨ha, hb⟩ := Prod.mk.inj hfacts
  refine ⟨c, hmake, ⟨_, hwork, ?_⟩, hb, fun h => ?_⟩
  · rw [hbefore]
    exact hboth
  · obtain ⟨d, hd, hpath⟩ := h "/b/App.java" (by rw [hb]; exact List.mem_singleton_self _)
    rw [List.mem_singleton.mp hd, ha] at hpath
    exact absurd (List.mem_singleton.mp hpath) (by decide)

end CycleLog.Phase
