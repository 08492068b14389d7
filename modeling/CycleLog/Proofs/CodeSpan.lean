import CycleLog.Section.CodeSpan
import CycleLog.Text.Cut
import Mathlib.Algebra.Order.BigOperators.Group.List
import Mathlib.Algebra.Order.Ring.Nat
import Mathlib.Data.List.Flatten
import Mathlib.Data.List.TakeWhile

/-!
# Spans of a cut text

The spans of a text that was cut to a length are no longer than that length, but for one: the cut
text itself. So a span is never cut again, which is `cutList_content`.
-/

namespace CycleLog.Section
set_option autoImplicit false

open Text

/-! ## The characters of a span -/

/-- The characters that are shown for a span. -/
def Span.content : Span → List Char
  | .plain cs => cs
  | .code cs => cs

theorem Span.length_content_le (sp : Span) : sp.content.length ≤ sp.source.length := by
  cases sp with
  | plain cs => exact Nat.le_refl _
  | code cs =>
    simp only [Span.content, Span.source, List.length_append, List.length_cons, List.length_nil]
    omega

/-! ## The spans of a text -/

theorem codeAt?_ne_nil {cs code rest : List Char} (h : codeAt? cs = some (code, rest)) :
    code ≠ [] := by
  unfold codeAt? at h
  split at h
  · split at h
    · split at h
      · simp only [Option.some.injEq, Prod.mk.injEq] at h
        rw [← h.1]
        exact List.cons_ne_nil _ _
      · cases h
    · cases h
  · cases h

theorem tick_notMem_of_codeAt? {cs code rest : List Char} (h : codeAt? cs = some (code, rest)) :
    tick ∉ code := by
  unfold codeAt? at h
  split at h
  · next c r =>
    split at h
    · split at h
      · next d inner x tail hcode _ =>
        simp only [Option.some.injEq, Prod.mk.injEq] at h
        rw [← h.1, ← hcode]
        intro hmem
        simpa using List.mem_takeWhile_imp hmem
      · cases h
    · cases h
  · cases h

/-- Code at the front is a stretch without backticks between two of them. -/
theorem codeAt?_eq_some_iff {cs code rest : List Char} : codeAt? cs = some (code, rest) ↔
    cs = tick :: code ++ tick :: rest ∧ code ≠ [] ∧ tick ∉ code := by
  constructor
  · intro h
    refine ⟨?_, codeAt?_ne_nil h, tick_notMem_of_codeAt? h⟩
    simpa [Span.source] using eq_of_codeAt? h
  · rintro ⟨rfl, hne, htick⟩
    have hall : ∀ c ∈ code, (c != tick) = true := fun c hc => by
      rw [bne_iff_ne]
      exact fun heq => htick (heq ▸ hc)
    have htake : (code ++ tick :: rest).takeWhile (· != tick) = code := by
      rw [List.takeWhile_append_of_pos hall]
      simp
    have hdrop : (code ++ tick :: rest).dropWhile (· != tick) = tick :: rest := by
      rw [List.dropWhile_append_of_pos hall]
      simp
    obtain ⟨d, inner, rfl⟩ := List.exists_cons_of_ne_nil hne
    simp only [List.cons_append] at htake hdrop ⊢
    simp only [codeAt?, if_true, htake, hdrop]

theorem mem_plainSpan {back : List Char} {sp : Span} (h : sp ∈ plainSpan back) :
    sp = .plain back.reverse ∧ back ≠ [] := by
  unfold plainSpan at h
  split at h
  · cases h
  · next hne => exact ⟨List.mem_singleton.mp h, hne⟩

/-- A span is plain and not empty, or was found as code. -/
theorem mem_spansFrom {back cs : List Char} {fuel : Nat} {sp : Span}
    (h : sp ∈ spansFrom back fuel cs) : (∃ l, sp = .plain l ∧ l ≠ []) ∨
      ∃ text code rest, codeAt? text = some (code, rest) ∧ sp = .code code := by
  have hplain (b : List Char) (hb : sp ∈ plainSpan b) : ∃ l, sp = .plain l ∧ l ≠ [] :=
    ⟨b.reverse, (mem_plainSpan hb).1, List.reverse_ne_nil_iff.mpr (mem_plainSpan hb).2⟩
  induction fuel generalizing back cs with
  | zero => exact .inl (hplain _ h)
  | succ fuel ih =>
    cases cs with
    | nil => exact .inl (hplain _ h)
    | cons c r =>
      rw [spansFrom] at h
      cases hc : codeAt? (c :: r) with
      | none =>
        rw [hc] at h
        exact ih h
      | some x =>
        rw [hc] at h
        rcases List.mem_append.mp h with h | h
        · exact .inl (hplain _ h)
        · rcases List.mem_cons.mp h with h | h
          · exact .inr ⟨c :: r, x.1, x.2, hc, h⟩
          · exact ih h

theorem ne_nil_of_code_mem {back cs code : List Char} {fuel : Nat}
    (h : .code code ∈ spansFrom back fuel cs) : code ≠ [] := by
  rcases mem_spansFrom h with ⟨l, hl, -⟩ | ⟨text, code', rest, hcode, heq⟩
  · cases hl
  · obtain rfl := Span.code.inj heq
    exact codeAt?_ne_nil hcode

/-- Without code the whole text is one span. -/
theorem spansFrom_eq_or (back : List Char) (fuel : Nat) (cs : List Char) :
    spansFrom back fuel cs = plainSpan (cs.reverse ++ back) ∨
      ∃ code, .code code ∈ spansFrom back fuel cs := by
  induction fuel generalizing back cs with
  | zero => exact .inl rfl
  | succ fuel ih =>
    cases cs with
    | nil => exact .inl rfl
    | cons c r =>
      rw [spansFrom]
      cases codeAt? (c :: r) with
      | none =>
        rw [List.reverse_cons, List.append_assoc, List.singleton_append]
        exact ih (c :: back) r
      | some x =>
        right
        exact ⟨x.1, List.mem_append_right _ List.mem_cons_self⟩

/-! ## Lengths -/

theorem source_sublist {sp : Span} {ss : List Span} (h : sp ∈ ss) :
    sp.source.Sublist (ss.flatMap Span.source) := by
  simpa using (List.singleton_sublist.mpr h).flatMap Span.source

theorem length_source_add_le {sp sp' : Span} {ss : List Span} (h : sp ∈ ss) (h' : sp' ∈ ss)
    (hne : sp ≠ sp') :
    sp.source.length + sp'.source.length ≤ (ss.flatMap Span.source).length := by
  obtain ⟨front, rest, rfl⟩ := List.append_of_mem h
  have hmem : sp' ∈ front ++ rest := by
    simpa [Ne.symm hne] using h'
  have hle := (source_sublist hmem).length_le
  simp only [List.flatMap_append, List.flatMap_cons, List.length_append] at hle ⊢
  omega

theorem length_contents_le (ss : List Span) :
    (ss.map fun sp => sp.content.length).sum ≤ (ss.flatMap Span.source).length := by
  rw [List.length_flatMap]
  exact List.sum_le_sum fun sp _ => sp.length_content_le

/-! ## Cut texts -/

theorem cutList_cutList (cs : List Char) (max : Nat) :
    cutList (cutList cs max) max = cutList cs max := by
  by_cases h : cs.length ≤ max
  · rw [cutList_of_le h, cutList_of_le h]
  · have hl : (cs.take max).length = max := List.length_take_of_le (by omega)
    have hlong : ¬(cs.take max ++ ellipsis).length ≤ max := by
      rw [List.length_append, hl]
      simp [ellipsis]
    simp only [cutList, if_neg h, if_neg hlong]
    rw [List.take_append_of_le_length (Nat.le_of_eq hl.symm), List.take_take, Nat.min_self]

theorem tick_ne_last_cutList {cs front : List Char} {max : Nat} (h : max < cs.length) :
    cutList cs max ≠ front ++ [tick] := by
  rw [cutList, if_neg (by omega)]
  intro heq
  have hlast := congrArg List.getLast? heq
  rw [List.getLast?_append, List.getLast?_concat] at hlast
  exact absurd (Option.some.inj hlast) (by decide)

/-- The spans of a cut text are not cut once more. -/
theorem cutList_content {cs : List Char} {max : Nat} {sp : Span}
    (h : sp ∈ spans (cutList cs max)) : cutList sp.content max = sp.content := by
  by_cases hshort : sp.content.length ≤ max
  · exact cutList_of_le hshort
  have hsource := flatMap_source_spans (cutList cs max)
  have hle := (source_sublist h).length_le
  have hcontent := sp.length_content_le
  have hcut := length_cutList_le cs max
  rw [hsource] at hle
  have hlong : max < cs.length := by
    by_contra hcs
    rw [cutList_of_le (by omega)] at hle
    omega
  cases sp with
  | plain l =>
    -- Next to so long a stretch there is no room for code.
    rcases spansFrom_eq_or [] (cutList cs max).length (cutList cs max) with hall | ⟨code, hcode⟩
    · rw [spans, hall] at h
      have hl := (mem_plainSpan h).1
      obtain rfl : l = cutList cs max := by simpa using hl
      exact cutList_cutList cs max
    · have hpos := List.length_pos_of_ne_nil (ne_nil_of_code_mem hcode)
      have hboth := length_source_add_le h hcode (by simp)
      rw [hsource] at hboth
      simp only [Span.source, Span.content, List.length_append, List.length_cons,
        List.length_nil] at hboth hshort
      omega
  | code l =>
    -- Code of that length is all of the text, which ends with an ellipsis.
    have hall : tick :: l ++ [tick] = cutList cs max := by
      have hsub : (Span.code l).source.Sublist (cutList cs max) := hsource ▸ source_sublist h
      apply hsub.eq_of_length
      simp only [Span.source, Span.content, List.length_append, List.length_cons,
        List.length_nil] at hle hshort ⊢
      omega
    exact absurd hall.symm (tick_ne_last_cutList hlong)

end CycleLog.Section
