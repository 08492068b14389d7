import CycleLog.Proofs.Sorting

/-!
# Every contribution counts once

Whatever the strategy, red holds what each entry writes of test files, and green and refactor share
out what each entry writes of source files: `shared_out_walk` finds the phase of each contribution.
What is implemented are the files of green (`implemented_walk_eq`). A longer window only adds to each
of them.
-/

namespace CycleLog.Phase
set_option autoImplicit false

open Transcript Tool

section Step
variable (c : Classifier) (p : Progress) (e : Entry)

theorem red_sourceStep : (c.sourceStep p e).sorted.red = p.sorted.red := by
  unfold Classifier.sourceStep
  cases c.sourceWork? e with
  | none => rfl
  | some w =>
    simp only [Option.elim_some, Progress.addSource]
    cases c.strategy p.seen w.files with
    | refactor => rfl
    | green => rw [Progress.addGreen_sorted]

theorem red_step : (c.step p e).sorted.red = p.sorted.red ++ (c.redWork? e).toList := by
  rw [Classifier.step_eq]
  cases c.redWork? e with
  | none =>
    rw [Option.elim_none, red_sourceStep, Option.toList_none, List.append_nil]
  | some w =>
    rw [Option.elim_some, Option.toList_some, ← red_sourceStep c p e]
    rfl

end Step

section Walk
variable (c : Classifier) (es : List Entry)

/-- Red holds what each entry contributes to it, and no strategy has a say in that. -/
theorem red_sort : (c.sort es).red = es.filterMap c.redWork? := by
  unfold Classifier.sort
  induction es using List.reverseRecOn with
  | nil => rfl
  | append_singleton es e ih =>
    rw [Classifier.walk_concat, red_step, ih, List.filterMap_append]
    cases h : c.redWork? e <;> simp [h]

/-- Each contribution of source files is in one of the two phases, in the order of the window. -/
theorem shared_out_walk : ∃ placed : List (Work × SourcePhase),
    placed.map Prod.fst = es.filterMap c.sourceWork? ∧
    ∀ ph, (c.walk es).sorted.worksIn ph = (placed.filter (·.2 = ph)).map Prod.fst := by
  induction es using List.reverseRecOn with
  | nil => exact ⟨[], rfl, fun ph => by cases ph <;> rfl⟩
  | append_singleton es e ih =>
    obtain ⟨placed, hall, hin⟩ := ih
    -- a contribution goes where the strategy puts it, told of the entries in front
    cases hw : c.sourceWork? e with
    | none =>
      refine ⟨placed, ?_, fun ph => ?_⟩
      · rw [hall, List.filterMap_append]
        simp [hw]
      · rw [Classifier.walk_concat, worksIn_step, hw, ← hin ph]
        simp
    | some w =>
      refine ⟨placed ++ [(w, c.strategy (c.walk es).seen w.files)], ?_, fun ph => ?_⟩
      · rw [List.map_append, hall, List.filterMap_append]
        simp [hw]
      · rw [Classifier.walk_concat, worksIn_step, hw, hin ph, List.filter_append, List.map_append]
        congr 1
        by_cases hph : c.strategy (c.walk es).seen w.files = ph <;> simp [Option.filter, hph]

/-- What is implemented are the files of green, each once. -/
theorem implemented_walk_eq : (c.walk es).sorted.implemented =
    ((c.walk es).sorted.green.flatMap (·.files)).eraseDups := by
  induction es using List.reverseRecOn with
  | nil => rfl
  | append_singleton es e ih =>
    rw [Classifier.walk_concat, implemented_step, green_step, Classifier.sourceStep]
    cases c.sourceWork? e with
    | none => exact ih
    | some w =>
      simp only [Option.elim_some, Progress.addSource]
      cases c.strategy (c.walk es).seen w.files with
      | refactor => exact ih
      | green =>
        rw [Progress.addGreen_sorted, ((agrees_walk c es).foldl_see w.files).2, ih,
          foldl_addNew_eraseDups, List.flatMap_append, List.flatMap_singleton]

theorem worksIn_prefix (more : List Entry) (ph : SourcePhase) :
    (c.sort es).worksIn ph <+: (c.sort (es ++ more)).worksIn ph := by
  unfold Classifier.sort
  induction more using List.reverseRecOn with
  | nil =>
    have hnil : es ++ [] = es := List.append_nil es
    simp only [hnil, List.prefix_rfl]
  | append_singleton more e ih =>
    rw [← List.append_assoc, Classifier.walk_concat, worksIn_step]
    exact ih.trans (List.prefix_append _ _)

theorem implemented_prefix (more : List Entry) :
    (c.sort es).implemented <+: (c.sort (es ++ more)).implemented := by
  obtain ⟨rest, hgreen⟩ := worksIn_prefix c es more .green
  have hgreen' : (c.walk (es ++ more)).sorted.green = (c.walk es).sorted.green ++ rest := hgreen.symm
  unfold Classifier.sort
  rw [implemented_walk_eq, implemented_walk_eq, hgreen', List.flatMap_append, List.eraseDups_append]
  exact List.prefix_append _ _

end Walk

theorem reasoning_eq_of_works {c : Classifier} {e : Entry} {v w : Work} (hv : c.redWork? e = some v)
    (hw : c.sourceWork? e = some w) : v.reasoning = w.reasoning := by
  unfold Classifier.redWork? at hv
  unfold Classifier.sourceWork? at hw
  cases hb : e.blocks? with
  | none =>
    rw [hb] at hv
    cases hv
  | some blocks =>
    rw [hb, Option.bind_some] at hv hw
    split at hv
    · cases hv
    · split at hw
      · cases hw
      · rw [← Option.some.inj hv, ← Option.some.inj hw]

/-- Sorting accounts for a window whatever the strategy. Red has what each entry writes of test files,
and green and refactor have what each entry writes of source files, each contribution in one of them
and all in order. What an entry contributes to both sides has one reason. What is implemented are the
files of green. With more entries there is only more of each. -/
theorem sort_accounts (p : FilePatterns) (limit : Nat) (strategy : Strategy) (es : List Entry) :
    let c : Classifier := ⟨p, limit, strategy⟩
    (c.sort es).red = es.filterMap c.redWork? ∧
    (∃ placed : List (Work × SourcePhase), placed.map Prod.fst = es.filterMap c.sourceWork? ∧
      (c.sort es).green = (placed.filter (·.2 = .green)).map Prod.fst ∧
      (c.sort es).refactor = (placed.filter (·.2 = .refactor)).map Prod.fst) ∧
    (∀ e v w, c.redWork? e = some v → c.sourceWork? e = some w → v.reasoning = w.reasoning) ∧
    (c.sort es).implemented = ((c.sort es).green.flatMap (·.files)).eraseDups ∧
    (∀ other, (Classifier.sort ⟨p, limit, other⟩ es).red = (c.sort es).red) ∧
    ∀ more, (c.sort es).red <+: (c.sort (es ++ more)).red ∧
      (c.sort es).green <+: (c.sort (es ++ more)).green ∧
      (c.sort es).refactor <+: (c.sort (es ++ more)).refactor ∧
      (c.sort es).implemented <+: (c.sort (es ++ more)).implemented := by
  intro c
  obtain ⟨placed, hall, hin⟩ := shared_out_walk c es
  refine ⟨red_sort c es, ⟨placed, hall, hin .green, hin .refactor⟩,
    fun e v w => reasoning_eq_of_works, implemented_walk_eq c es, fun other => ?_, fun more =>
    ⟨?_, worksIn_prefix c es more .green, worksIn_prefix c es more .refactor,
      implemented_prefix c es more⟩⟩
  · rw [red_sort, red_sort]
    rfl
  · rw [red_sort, red_sort, List.filterMap_append]
    exact List.prefix_append _ _

end CycleLog.Phase
