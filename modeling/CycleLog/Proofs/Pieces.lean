import CycleLog.Text.Lines

/-!
# The pieces of a text

A text is a number of whole pieces and the front of one more, which has no line feed in it
(`exists_whole_pieces`); whatever follows goes on with that front (`pieces_append_of_not_mem`). The line
of a piece is the piece itself, but for its end (`withoutEnd_append`).
-/

namespace CycleLog.Text
set_option autoImplicit false

/-! ## Whole pieces -/

theorem ne_nil_of_mem_pieces {cs p : List Char} (h : p ∈ pieces cs) : p ≠ [] := by
  induction cs generalizing p with
  | nil => cases h
  | cons c r ih =>
    unfold pieces at h
    split at h
    · rcases List.mem_cons.mp h with rfl | h
      · exact List.cons_ne_nil _ _
      · exact ih h
    · cases hr : pieces r with
      | nil =>
        rw [hr] at h
        rw [List.mem_singleton.mp h]
        exact List.cons_ne_nil _ _
      | cons q qs =>
        rw [hr] at h ih
        rcases List.mem_cons.mp h with rfl | h
        · exact List.cons_ne_nil _ _
        · exact ih (List.mem_cons_of_mem q h)

/-- A text is a number of whole pieces, which stay the same when it goes on, and the front of one more. -/
theorem exists_whole_pieces (cs : List Char) : ∃ front q, front.flatten ++ q = cs ∧ '\n' ∉ q ∧
    ∀ rest, pieces (cs ++ rest) = front ++ pieces (q ++ rest) := by
  induction cs with
  | nil => exact ⟨[], [], rfl, List.not_mem_nil, fun rest => rfl⟩
  | cons c r ih =>
    obtain ⟨front, q, rfl, hq, hpieces⟩ := ih
    by_cases hc : c = '\n'
    · refine ⟨['\n'] :: front, q, ?_, hq, fun rest => ?_⟩
      · rw [hc]
        rfl
      · rw [hc, List.cons_append, pieces, if_pos rfl, hpieces]
        rfl
    · cases front with
      | nil =>
        refine ⟨[], c :: q, rfl, ?_, fun rest => rfl⟩
        exact List.not_mem_cons_of_ne_of_not_mem (Ne.symm hc) hq
      | cons p ps =>
        refine ⟨(c :: p) :: ps, q, rfl, hq, fun rest => ?_⟩
        rw [List.cons_append, pieces, if_neg hc, hpieces]
        rfl

/-- What stands in front of a line feed belongs to one piece. -/
theorem pieces_append_of_not_mem {q rest : List Char} (hq : '\n' ∉ q) (h : q ++ rest ≠ []) :
    pieces (q ++ rest) = (q ++ (pieces rest).headD []) :: (pieces rest).tail := by
  induction q with
  | nil =>
    have hne : pieces rest ≠ [] := fun hnil => h (by rw [List.nil_append, ← flatten_pieces rest, hnil]; rfl)
    obtain ⟨p, ps, hp⟩ := List.exists_cons_of_ne_nil hne
    rw [List.nil_append, List.nil_append, hp]
    rfl
  | cons c q ih =>
    simp only [List.mem_cons, not_or] at hq
    obtain ⟨hc, hq⟩ := hq
    rw [List.cons_append, pieces, if_neg (Ne.symm hc)]
    by_cases hnil : q ++ rest = []
    · obtain ⟨rfl, rfl⟩ := List.append_eq_nil_iff.mp hnil
      rfl
    · rw [ih hq hnil]
      rfl

/-! ## The line of a piece -/

theorem withoutEnd_cons {c : Char} {r : List Char} (hc : c ≠ '\n') (h : ¬ (c = '\r' ∧ r = ['\n'])) :
    withoutEnd (c :: r) = c :: withoutEnd r :=
  withoutEnd.eq_4 c r (fun hn _ => hc hn) (fun hr hn => h ⟨hr, hn⟩)

/-- What stands in front of a line feed belongs to the line, but for the carriage return. -/
theorem withoutEnd_append {q s : List Char} (hq : '\n' ∉ q) :
    withoutEnd (q ++ s) = q ++ withoutEnd s ∨ s = ['\n'] ∧ q = withoutEnd (q ++ s) ++ ['\r'] := by
  induction q with
  | nil => exact .inl rfl
  | cons c q ih =>
    simp only [List.mem_cons, not_or] at hq
    obtain ⟨hc, hq⟩ := hq
    by_cases h : c = '\r' ∧ q ++ s = ['\n']
    · obtain ⟨rfl, hn⟩ := h
      cases q with
      | nil =>
        obtain rfl : s = ['\n'] := hn
        exact .inr ⟨rfl, rfl⟩
      | cons d q =>
        rw [(List.cons.inj hn).1] at hq
        exact absurd List.mem_cons_self hq
    · rw [List.cons_append, withoutEnd_cons (Ne.symm hc) h]
      rcases ih hq with heq | ⟨hs, heq⟩
      · exact .inl (congrArg (c :: ·) heq)
      · exact .inr ⟨hs, congrArg (c :: ·) heq⟩

theorem lines_of_not_mem {q : List Char} (hq : '\n' ∉ q) (hne : q ≠ []) : lines q = [q] := by
  have hpieces := pieces_append_of_not_mem hq (by rwa [List.append_nil] : q ++ [] ≠ [])
  have hend : withoutEnd (q ++ []) = q := by
    rcases withoutEnd_append hq with heq | ⟨hn, -⟩
    · exact heq.trans (List.append_nil q)
    · cases hn
  rw [List.append_nil] at hpieces
  rw [lines, hpieces]
  exact congrArg (fun l => [l]) hend

end CycleLog.Text
