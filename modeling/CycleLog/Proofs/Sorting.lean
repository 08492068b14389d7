import Mathlib.Data.List.Basic
import CycleLog.Phase.Sorting
import CycleLog.Proofs.Distinct

/-!
# What the entries of a window contribute

`redWork?` and `sourceWork?` say what a single entry contributes. `Classifier.step_eq` takes a step
apart into these two, and what a strategy is told of is shown to be what is implemented
(`Progress.Agrees`), whatever the strategy. `worksIn_sort` follows: green and refactor hold the
contributions of source files in the order of the window, each where the strategy puts it.
-/

namespace CycleLog.Phase
set_option autoImplicit false

open Transcript Tool

/-! ## Contributions of one entry -/

/-- The names of the files of one kind that an entry writes, in order and with repetitions. -/
def writtenNames (p : FilePatterns) (k : FileKind) (e : Entry) : List String :=
  (writesOf p k e).map (·.name)

/-- What an entry contributes to red. -/
def Classifier.redWork? (c : Classifier) (e : Entry) : Option Work :=
  e.blocks?.bind fun blocks =>
    if writtenNames c.patterns .test e = [] then none
    else some ⟨reasoning blocks c.thoughtLimit, (writtenNames c.patterns .test e).eraseDups,
      ((writesOf c.patterns .test e).flatMap fun w => testNames w.text).eraseDups⟩

/-- What an entry contributes with its source files. -/
def Classifier.sourceWork? (c : Classifier) (e : Entry) : Option Work :=
  e.blocks?.bind fun blocks =>
    if writtenNames c.patterns .source e = [] then none
    else some ⟨reasoning blocks c.thoughtLimit, (writtenNames c.patterns .source e).eraseDups, []⟩

theorem writtenNames_eq_nil {e : Entry} (h : e.blocks? = none) (p : FilePatterns) (k : FileKind) :
    writtenNames p k e = [] := by
  simp [writtenNames, writesOf, Entry.calls, h]

theorem sourceWork?_eq_none_iff {c : Classifier} {e : Entry} :
    c.sourceWork? e = none ↔ writtenNames c.patterns .source e = [] := by
  unfold Classifier.sourceWork?
  cases h : e.blocks? with
  | none => simp [writtenNames_eq_nil h]
  | some blocks => simp

theorem files_of_sourceWork? {c : Classifier} {e : Entry} {w : Work} (h : c.sourceWork? e = some w) :
    w.files = (writtenNames c.patterns .source e).eraseDups ∧ w.files ≠ [] := by
  unfold Classifier.sourceWork? at h
  cases hb : e.blocks? with
  | none => simp [hb] at h
  | some blocks =>
    rw [hb, Option.bind_some] at h
    split at h
    · simp at h
    · next hn =>
      obtain rfl := Option.some.inj h
      exact ⟨rfl, fun h' => hn (eraseDups_eq_nil_iff.mp h')⟩

/-! ## One step -/

namespace Progress

theorem see_addRed (p : Progress) (w : Work) (f : String) : (p.addRed w).see f = (p.see f).addRed w := by
  unfold see addRed
  split <;> rfl

theorem foldl_see_addRed (p : Progress) (w : Work) (fs : List String) :
    fs.foldl see (p.addRed w) = (fs.foldl see p).addRed w := by
  induction fs generalizing p with
  | nil => rfl
  | cons f fs ih => rw [List.foldl_cons, see_addRed, ih, List.foldl_cons]

/-- Red and the other phases do not meet. -/
theorem addSource_addRed (p : Progress) (strategy : Strategy) (v w : Work) :
    (p.addRed v).addSource strategy w = (p.addSource strategy w).addRed v := by
  unfold addSource
  rw [show (p.addRed v).seen = p.seen from rfl]
  cases strategy p.seen w.files with
  | refactor => rfl
  | green =>
    simp only [addGreen, foldl_see_addRed]
    rfl

theorem foldl_see_sorted (p : Progress) (fs : List String) :
    (fs.foldl see p).sorted = { p.sorted with implemented := (fs.foldl see p).sorted.implemented } := by
  induction fs generalizing p with
  | nil => rfl
  | cons f fs ih =>
    have hf : (p.see f).sorted = { p.sorted with implemented := (p.see f).sorted.implemented } := by
      unfold see
      split <;> rfl
    rw [List.foldl_cons, ih, hf]

theorem addGreen_sorted (p : Progress) (w : Work) :
    (p.addGreen w).sorted = { p.sorted with
      green := p.sorted.green ++ [w]
      implemented := (w.files.foldl see p).sorted.implemented } := by
  unfold addGreen
  simp only
  rw [foldl_see_sorted]

end Progress

/-- What the source files of an entry change. -/
def Classifier.sourceStep (c : Classifier) (p : Progress) (e : Entry) : Progress :=
  (c.sourceWork? e).elim p (p.addSource c.strategy)

/-- A step adds the contribution of source files and the one to red. -/
theorem Classifier.step_eq (c : Classifier) (p : Progress) (e : Entry) :
    c.step p e = (c.redWork? e).elim (c.sourceStep p e) (c.sourceStep p e).addRed := by
  unfold step sourceStep redWork? sourceWork?
  cases e.blocks? with
  | none => rfl
  | some blocks =>
    simp only [touched, distinct_eq_eraseDups, eraseDups_eq_nil_iff, Option.bind_some, writtenNames]
    by_cases ht : (writesOf c.patterns .test e).map (·.name) = [] <;>
      by_cases hs : (writesOf c.patterns .source e).map (·.name) = [] <;>
      simp [ht, hs, Progress.addSource_addRed]

section Step
variable (c : Classifier) (p : Progress) (e : Entry)

theorem seen_step : (c.step p e).seen = (c.sourceStep p e).seen := by
  rw [Classifier.step_eq]
  cases c.redWork? e <;> rfl

theorem green_step : (c.step p e).sorted.green = (c.sourceStep p e).sorted.green := by
  rw [Classifier.step_eq]
  cases c.redWork? e <;> rfl

theorem refactor_step : (c.step p e).sorted.refactor = (c.sourceStep p e).sorted.refactor := by
  rw [Classifier.step_eq]
  cases c.redWork? e <;> rfl

theorem implemented_step :
    (c.step p e).sorted.implemented = (c.sourceStep p e).sorted.implemented := by
  rw [Classifier.step_eq]
  cases c.redWork? e <;> rfl

end Step

/-! ## What the strategy is told of -/

namespace Progress

/-- The strategy is told of what is implemented. -/
def Agrees (p : Progress) : Prop := ∀ f, f ∈ p.seen ↔ f ∈ p.sorted.implemented

theorem implemented_see {p : Progress} (h : p.Agrees) (f : String) :
    (p.see f).sorted.implemented = addNew p.sorted.implemented f := by
  unfold see addNew
  by_cases hf : f ∈ p.seen
  · rw [if_pos hf, if_pos ((h f).mp hf)]
  · rw [if_neg hf, if_neg fun h' => hf ((h f).mpr h')]

theorem Agrees.see {p : Progress} (h : p.Agrees) (f : String) : (p.see f).Agrees := by
  intro g
  rw [implemented_see h, mem_addNew, ← h g]
  unfold Progress.see
  split
  · next hf => exact ⟨Or.inl, fun h' => h'.elim id fun e => e ▸ hf⟩
  · simp only [List.mem_cons]
    exact or_comm

/-- Green implements the files of a contribution one by one. -/
theorem Agrees.foldl_see {p : Progress} (h : p.Agrees) (fs : List String) :
    (fs.foldl Progress.see p).Agrees ∧
      (fs.foldl Progress.see p).sorted.implemented = fs.foldl addNew p.sorted.implemented := by
  induction fs generalizing p with
  | nil => exact ⟨h, rfl⟩
  | cons f fs ih =>
    obtain ⟨h₁, h₂⟩ := ih (h.see f)
    exact ⟨h₁, by rw [List.foldl_cons, h₂, implemented_see h, List.foldl_cons]⟩

theorem Agrees.addSource {p : Progress} (h : p.Agrees) (strategy : Strategy) (w : Work) :
    (p.addSource strategy w).Agrees := by
  unfold Progress.addSource
  cases strategy p.seen w.files with
  | refactor => exact h
  | green =>
    intro f
    have hf := (h.foldl_see w.files).1 f
    rw [addGreen_sorted]
    exact hf

end Progress

theorem agrees_step {c : Classifier} {p : Progress} (h : p.Agrees) (e : Entry) :
    (c.step p e).Agrees := by
  intro f
  rw [seen_step, implemented_step, Classifier.sourceStep]
  cases c.sourceWork? e with
  | none => exact h f
  | some w => exact h.addSource c.strategy w f

/-! ## Whole windows -/

theorem Classifier.walk_concat (c : Classifier) (es : List Entry) (e : Entry) :
    c.walk (es ++ [e]) = c.step (c.walk es) e := by
  simp [walk]

/-- Whatever the strategy does, it is told of what is implemented so far. -/
theorem agrees_walk (c : Classifier) (es : List Entry) : (c.walk es).Agrees := by
  induction es using List.reverseRecOn with
  | nil => exact fun f => Iff.rfl
  | append_singleton es e ih =>
    rw [Classifier.walk_concat]
    exact agrees_step ih e

theorem nodup_implemented_walk (c : Classifier) (es : List Entry) :
    (c.walk es).sorted.implemented.Nodup := by
  induction es using List.reverseRecOn with
  | nil => exact List.nodup_nil
  | append_singleton es e ih =>
    rw [Classifier.walk_concat, implemented_step, Classifier.sourceStep]
    cases c.sourceWork? e with
    | none => exact ih
    | some w =>
      simp only [Option.elim_some, Progress.addSource]
      cases c.strategy (c.walk es).seen w.files with
      | refactor => exact ih
      | green =>
        rw [Progress.addGreen_sorted, ((agrees_walk c es).foldl_see w.files).2]
        exact nodup_foldl_addNew ih w.files

/-- The contributions of source files that a choice keeps; it is told of the entries in front. -/
def Classifier.worksWhere (c : Classifier) (choose : List Entry → Work → Bool) (es : List Entry) :
    List Work :=
  es.zipIdx.filterMap fun (e, i) => (c.sourceWork? e).filter (choose (es.take i))

theorem worksWhere_concat (c : Classifier) (choose : List Entry → Work → Bool) (es : List Entry)
    (e : Entry) : c.worksWhere choose (es ++ [e]) =
      c.worksWhere choose es ++ ((c.sourceWork? e).filter (choose es)).toList := by
  unfold Classifier.worksWhere
  rw [List.zipIdx_append, List.filterMap_append]
  congr 1
  · apply List.filterMap_congr
    rintro ⟨d, i⟩ hd
    have hi : i < es.length := by
      have h := List.snd_lt_of_mem_zipIdx hd
      omega
    simp only [List.take_append_of_le_length (Nat.le_of_lt hi)]
  · simp only [Nat.zero_add, List.zipIdx_singleton, List.filterMap_cons, List.filterMap_nil,
      List.take_left]
    cases (c.sourceWork? e).filter (choose es) <;> rfl

theorem worksWhere_congr (c : Classifier) {f g : List Entry → Work → Bool}
    (h : ∀ before e w, c.sourceWork? e = some w → f before w = g before w) (es : List Entry) :
    c.worksWhere f es = c.worksWhere g es := by
  unfold Classifier.worksWhere
  apply List.filterMap_congr
  rintro ⟨e, i⟩ -
  show (c.sourceWork? e).filter (f (es.take i)) = (c.sourceWork? e).filter (g (es.take i))
  cases hw : c.sourceWork? e with
  | none => rfl
  | some w => simp only [Option.filter_some, h (es.take i) e w hw]

/-- The contributions of source files in a phase. -/
def Sorted.worksIn (s : Sorted) : SourcePhase → List Work
  | .green => s.green
  | .refactor => s.refactor

theorem worksIn_step (c : Classifier) (p : Progress) (e : Entry) (ph : SourcePhase) :
    (c.step p e).sorted.worksIn ph = p.sorted.worksIn ph ++
      ((c.sourceWork? e).filter fun w => c.strategy p.seen w.files = ph).toList := by
  have hs : (c.step p e).sorted.worksIn ph = (c.sourceStep p e).sorted.worksIn ph := by
    cases ph
    · exact green_step c p e
    · exact refactor_step c p e
  rw [hs, Classifier.sourceStep]
  cases c.sourceWork? e with
  | none => simp
  | some w =>
    simp only [Option.elim_some, Progress.addSource]
    cases h : c.strategy p.seen w.files <;> cases ph <;>
      simp [Sorted.worksIn, Progress.addRefactor, Progress.addGreen_sorted, Option.filter_some, h]

/-- Each phase holds the contributions that the strategy puts there, told of what is seen before. -/
theorem worksIn_sort (c : Classifier) (es : List Entry) (ph : SourcePhase) :
    (c.sort es).worksIn ph =
      c.worksWhere (fun before w => c.strategy (c.walk before).seen w.files = ph) es := by
  unfold Classifier.sort
  induction es using List.reverseRecOn with
  | nil => cases ph <;> rfl
  | append_singleton es e ih => rw [worksWhere_concat, ← ih, Classifier.walk_concat, worksIn_step]

end CycleLog.Phase
