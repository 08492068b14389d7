import CycleLog.Proofs.Sorting

/-!
# Refactoring by first touch

Under `firstTouch` a contribution goes to refactor when all its files have been touched before, by
whatever phase. The strategy is told only of the files of green, so the argument is that refactor
never holds a file that green does not: `implemented_walk` says that green implements every source
file of the window.
-/

namespace CycleLog.Phase
set_option autoImplicit false

open Transcript Tool

theorem firstTouch_eq_refactor_iff {seen touched : List String} :
    firstTouch seen touched = .refactor ↔ seen ≠ [] ∧ ∀ f ∈ touched, f ∈ seen := by
  simp [firstTouch]

/-- All files of a contribution are among the source files that the entries in front write. -/
def Revisits (p : FilePatterns) (before : List Entry) (w : Work) : Prop :=
  ∀ f ∈ w.files, ∃ e ∈ before, f ∈ writtenNames p .source e

instance (p : FilePatterns) (before : List Entry) (w : Work) : Decidable (Revisits p before w) :=
  inferInstanceAs (Decidable (∀ f ∈ w.files, ∃ e ∈ before, f ∈ writtenNames p .source e))

section FirstTouch
variable {c : Classifier} (hc : c.strategy = firstTouch)
include hc

/-- What is implemented are the source files of all entries, those of refactor included. -/
theorem implemented_walk (es : List Entry) : (c.walk es).sorted.implemented =
    (es.flatMap (writtenNames c.patterns .source)).eraseDups := by
  induction es using List.reverseRecOn with
  | nil => rfl
  | append_singleton es e ih =>
    rw [Classifier.walk_concat, implemented_step, Classifier.sourceStep, List.flatMap_append,
      List.flatMap_singleton]
    cases h : c.sourceWork? e with
    | none =>
      rw [sourceWork?_eq_none_iff.mp h, List.append_nil]
      exact ih
    | some w =>
      have hw := (files_of_sourceWork? h).1
      simp only [Option.elim_some, Progress.addSource]
      cases hs : c.strategy (c.walk es).seen w.files with
      | refactor =>
        rw [hc, firstTouch_eq_refactor_iff] at hs
        rw [eraseDups_append_of_subset]
        · exact ih
        · intro f hf
          have hseen := hs.2 f (by rw [hw]; exact List.mem_eraseDups.mpr hf)
          rw [agrees_walk c es f, ih] at hseen
          exact List.mem_eraseDups.mp hseen
      | green =>
        rw [Progress.addGreen_sorted, ((agrees_walk c es).foldl_see w.files).2, ih, hw,
          foldl_addNew_eraseDups, eraseDups_append_eraseDups]

theorem mem_seen_walk {es : List Entry} {f : String} :
    f ∈ (c.walk es).seen ↔ ∃ e ∈ es, f ∈ writtenNames c.patterns .source e := by
  rw [agrees_walk c es f, implemented_walk hc, List.mem_eraseDups, List.mem_flatMap]

/-- The guard against an empty `seen` never decides: a contribution has a file. -/
theorem strategy_eq_refactor_iff {e : Entry} {w : Work} (h : c.sourceWork? e = some w)
    (before : List Entry) :
    c.strategy (c.walk before).seen w.files = .refactor ↔ Revisits c.patterns before w := by
  rw [hc, firstTouch_eq_refactor_iff]
  constructor
  · exact fun h' f hf => (mem_seen_walk hc).mp (h'.2 f hf)
  · intro h'
    have hall : ∀ f ∈ w.files, f ∈ (c.walk before).seen := fun f hf => (mem_seen_walk hc).mpr (h' f hf)
    obtain ⟨f, hf⟩ := List.exists_mem_of_ne_nil _ (files_of_sourceWork? h).2
    exact ⟨List.ne_nil_of_mem (hall f hf), hall⟩

/-- The first contribution goes to green, since nothing has been seen before it. -/
theorem green_ne_nil_walk (es : List Entry) :
    ((c.walk es).seen ≠ [] → (c.walk es).sorted.green ≠ []) ∧
      ((c.walk es).sorted.refactor ≠ [] → (c.walk es).sorted.green ≠ []) := by
  induction es using List.reverseRecOn with
  | nil => exact ⟨fun h => absurd rfl h, fun h => absurd rfl h⟩
  | append_singleton es e ih =>
    rw [Classifier.walk_concat, seen_step, green_step, refactor_step, Classifier.sourceStep]
    cases c.sourceWork? e with
    | none => exact ih
    | some w =>
      simp only [Option.elim_some, Progress.addSource]
      cases hs : c.strategy (c.walk es).seen w.files with
      | green => simp [Progress.addGreen_sorted]
      | refactor =>
        rw [hc, firstTouch_eq_refactor_iff] at hs
        exact ⟨fun _ => ih.1 hs.1, fun _ => ih.1 hs.1⟩

end FirstTouch

/-- How a window is sorted by first touch. A contribution of source files goes to refactor when an
entry in front, green or refactor, has touched each of its files, and to green otherwise. What is
implemented are the source files of the whole window in the order of their first appearance, and at
every entry the strategy is told of just what is implemented before it. Where there is refactor
there is green. -/
theorem sort_by_firstTouch (p : FilePatterns) (limit : Nat) (es : List Entry) :
    let c : Classifier := ⟨p, limit, firstTouch⟩
    (c.sort es).refactor = c.worksWhere (fun before w => Revisits p before w) es ∧
    (c.sort es).green = c.worksWhere (fun before w => ¬ Revisits p before w) es ∧
    (c.sort es).implemented.Nodup ∧
    (c.sort es).implemented = (es.flatMap (writtenNames p .source)).eraseDups ∧
    (∀ before e after, es = before ++ e :: after →
      (∀ f, f ∈ (c.walk before).seen ↔ f ∈ (c.sort before).implemented) ∧
      ∀ ph, (c.sort (before ++ [e])).worksIn ph = (c.sort before).worksIn ph ++
        ((c.sourceWork? e).filter fun w => firstTouch (c.walk before).seen w.files = ph).toList) ∧
    ((c.sort es).refactor ≠ [] → (c.sort es).green ≠ []) := by
  intro c
  have hc : c.strategy = firstTouch := rfl
  refine ⟨?_, ?_, nodup_implemented_walk c es, implemented_walk hc es, ?_, (green_ne_nil_walk hc es).2⟩
  · have h := worksIn_sort c es .refactor
    rw [Sorted.worksIn] at h
    rw [h]
    apply worksWhere_congr
    intro before e w hw
    exact decide_eq_decide.mpr (strategy_eq_refactor_iff hc hw before)
  · have h := worksIn_sort c es .green
    rw [Sorted.worksIn] at h
    rw [h]
    apply worksWhere_congr
    intro before e w hw
    have hg : c.strategy (c.walk before).seen w.files = .green ↔ ¬ Revisits p before w := by
      rw [← strategy_eq_refactor_iff hc hw before]
      cases c.strategy (c.walk before).seen w.files <;> simp
    exact decide_eq_decide.mpr hg
  · intro before e after _
    refine ⟨agrees_walk c before, fun ph => ?_⟩
    unfold Classifier.sort
    rw [Classifier.walk_concat, worksIn_step]

end CycleLog.Phase
