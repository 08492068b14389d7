import Mathlib.Data.List.Induction
import CycleLog.Phase.TestName

/-!
# Items in the order in which they first occur

`distinct` collects items one by one and is the same as `List.eraseDups`, which keeps the first of
equal items. What is collected has no repetition.
-/

namespace CycleLog.Phase
set_option autoImplicit false

variable {α : Type} [DecidableEq α]

theorem mem_addNew {items : List α} {a b : α} : b ∈ addNew items a ↔ b ∈ items ∨ b = a := by
  unfold addNew
  split
  · next h => exact ⟨Or.inl, fun h' => h'.elim id fun e => e ▸ h⟩
  · simp

theorem nodup_addNew {items : List α} (h : items.Nodup) (a : α) : (addNew items a).Nodup := by
  unfold addNew
  split
  · exact h
  · next ha =>
    rw [List.nodup_append]
    refine ⟨h, by simp, ?_⟩
    intro x hx y hy e
    rw [List.mem_singleton] at hy
    exact ha (hy ▸ e ▸ hx)

theorem nodup_foldl_addNew {items : List α} (h : items.Nodup) (l : List α) :
    (l.foldl addNew items).Nodup := by
  induction l generalizing items with
  | nil => exact h
  | cons a l ih => exact ih (nodup_addNew h a)

theorem addNew_eraseDups (l : List α) (a : α) : addNew l.eraseDups a = (l ++ [a]).eraseDups := by
  rw [List.eraseDups_append]
  unfold addNew
  by_cases h : a ∈ l
  · rw [if_pos (List.mem_eraseDups.mpr h)]
    simp [List.removeAll, h]
  · rw [if_neg fun h' => h (List.mem_eraseDups.mp h')]
    simp [List.removeAll, h, List.eraseDups_cons]

theorem foldl_addNew_eraseDups (l m : List α) :
    m.foldl addNew l.eraseDups = (l ++ m).eraseDups := by
  induction m generalizing l with
  | nil => simp
  | cons a m ih =>
    rw [List.foldl_cons, addNew_eraseDups, ih, List.append_assoc, List.singleton_append]

theorem distinct_eq_eraseDups (l : List α) : distinct l = l.eraseDups := by
  have h := foldl_addNew_eraseDups [] l
  simpa [distinct] using h

theorem eraseDups_eq_nil_iff {l : List α} : l.eraseDups = [] ↔ l = [] := by
  cases l with
  | nil => simp
  | cons a l => simp [List.eraseDups_cons]

/-- Items that are already there do not count. -/
theorem eraseDups_append_of_subset {l m : List α} (h : ∀ a ∈ m, a ∈ l) :
    (l ++ m).eraseDups = l.eraseDups := by
  have hm : m.removeAll l = [] := by simpa [List.removeAll, List.filter_eq_nil_iff] using h
  rw [List.eraseDups_append, hm, List.eraseDups_nil, List.append_nil]

/-- Repetitions within the second list may be left out first. -/
theorem eraseDups_append_eraseDups (l m : List α) :
    (l ++ m.eraseDups).eraseDups = (l ++ m).eraseDups := by
  induction m using List.reverseRecOn with
  | nil => simp
  | append_singleton m a ih =>
    rw [← List.append_assoc, ← addNew_eraseDups (l ++ m), ← ih, addNew_eraseDups, ← addNew_eraseDups m]
    unfold addNew
    split
    · next h =>
      have ha : ∀ b ∈ [a], b ∈ l ++ m.eraseDups := by simpa using Or.inr (List.mem_eraseDups.mp h)
      exact (eraseDups_append_of_subset ha).symm
    · rw [List.append_assoc]

end CycleLog.Phase
