import CycleLog.Transcript.Reader
import CycleLog.Proofs.Window

/-!
# The window of the latest entries

Leaving out the oldest entries of a transcript may leave out runs, so that the window is found in
another way. `cycle_append_right` says what becomes of a cycle when entries in front are left out: it
loses those of its own entries that are among them, and nothing else. `window_latest` says so of the
window.
-/

namespace CycleLog.Transcript
set_option autoImplicit false

open Tool

variable {isRun : Call → Bool} {a b es : List Entry}

/-! ## Runs behind other entries -/

theorem length_runPlaces_append (isRun : Call → Bool) (a b : List Entry) :
    (runPlaces isRun (a ++ b)).length = (runPlaces isRun a).length + (runPlaces isRun b).length := by
  rw [runPlaces_append, List.length_append, List.length_map]

theorem runPlace_append_right (a : List Entry) {i : Nat} (hi : i < (runPlaces isRun b).length) :
    runPlace isRun (a ++ b) ((runPlaces isRun a).length + i) = a.length + runPlace isRun b i := by
  have hi' : i < ((runPlaces isRun b).map (a.length + ·)).length := by rwa [List.length_map]
  unfold runPlace
  rw [runPlaces_append, List.getD_append_right _ _ _ _ (Nat.le_add_right _ _), Nat.add_sub_cancel_left,
    List.getD_eq_getElem _ _ hi', List.getElem_map, List.getD_eq_getElem _ _ hi]

theorem cycleStart_append_right (a : List Entry) {i : Nat} (hi : i < (runPlaces isRun b).length) :
    cycleStart isRun (a ++ b) ((runPlaces isRun a).length + (i + 1)) =
      a.length + cycleStart isRun b (i + 1) := by
  rw [← Nat.add_assoc, cycleStart, runPlace_append_right a hi, cycleStart, Nat.add_assoc]

/-- The cycle of the first run of `b` begins in `a`, or where `b` does. -/
theorem cycleStart_append_le (isRun : Call → Bool) (a b : List Entry) :
    cycleStart isRun (a ++ b) (runPlaces isRun a).length ≤ a.length := by
  cases h : (runPlaces isRun a).length with
  | zero => exact Nat.zero_le _
  | succ k =>
    have hk : k < (runPlaces isRun a).length := by omega
    have hplace : runPlace isRun (a ++ b) k = runPlace isRun a k := by
      rw [runPlace, runPlace, runPlaces_append, List.getD_append _ _ _ _ hk]
    rw [cycleStart, hplace]
    exact runPlace_lt_length hk

/-- Without the entries of `a` a cycle loses what it has of them. -/
theorem cycle_append_right (a : List Entry) {i : Nat} (hi : i < (runPlaces isRun b).length) :
    cycle isRun b i = (cycle isRun (a ++ b) ((runPlaces isRun a).length + i)).drop
      (a.length - cycleStart isRun (a ++ b) ((runPlaces isRun a).length + i)) := by
  unfold cycle
  rw [runPlace_append_right a hi, List.take_length_add_append]
  cases i with
  | zero =>
    -- the cycle of the first run of `b` may reach back into `a`
    have hs := cycleStart_append_le isRun a b
    rw [List.drop_drop, Nat.add_zero, Nat.add_sub_cancel' hs, List.drop_left, cycleStart,
      List.drop_zero]
  | succ i =>
    rw [cycleStart_append_right a (Nat.lt_of_succ_lt hi), Nat.sub_eq_zero_of_le (Nat.le_add_right _ _),
      List.drop_zero, List.drop_length_add_append]

/-! ## Where the window begins -/

/-- The place of the first entry of the window: the one behind the last run but one. -/
def windowStart (isRun : Call → Bool) (es : List Entry) : Nat :=
  match lastTwo (runPlaces isRun es) with
  | _ :: previous :: _ => previous + 1
  | _ => 0

theorem windowStart_eq_cycleStart {j : Nat} (hj : (runPlaces isRun es).length = j + 1) :
    windowStart isRun es = cycleStart isRun es j := by
  unfold windowStart lastTwo
  rw [runPlaces_eq_map, hj]
  cases j with
  | zero => rfl
  | succ j => simp [List.range_succ, cycleStart]

/-- Without the entries of `a` the window loses what it has of them, if there is a run in `b`. -/
theorem window_append_right (a : List Entry) (hb : ∃ e ∈ b, e.runs isRun = true) :
    window isRun b = (window isRun (a ++ b)).drop (a.length - windowStart isRun (a ++ b)) := by
  obtain ⟨j, hj⟩ := length_runPlaces_of_runs hb
  have hall : (runPlaces isRun (a ++ b)).length = (runPlaces isRun a).length + j + 1 := by
    rw [length_runPlaces_append, hj, Nat.add_assoc]
  rw [window_eq_cycle hj, window_eq_cycle hall, windowStart_eq_cycleStart hall,
    cycle_append_right a (by omega)]

theorem runPlace_of_getLast? {last : Nat} (h : (runPlaces isRun es).getLast? = some last) :
    ∃ j, (runPlaces isRun es).length = j + 1 ∧ runPlace isRun es j = last := by
  obtain ⟨places, hplaces⟩ := List.getLast?_eq_some_iff.mp h
  refine ⟨places.length, by rw [hplaces, List.length_append, List.length_singleton], ?_⟩
  rw [runPlace, hplaces, List.getD_append_right _ _ _ _ (Nat.le_refl _), Nat.sub_self]
  rfl

/-- All runs but the last one stand in front of its cycle. -/
theorem lt_cycleStart_of_lt_runPlace {i j : Nat} (hj : (runPlaces isRun es).length = j + 1)
    (hi : i ∈ runPlaces isRun es) (hlt : i < runPlace isRun es j) : i < cycleStart isRun es j := by
  obtain ⟨k, hk, rfl⟩ := List.getElem_of_mem hi
  rw [← List.getD_eq_getElem _ 0 hk, ← runPlace] at hlt ⊢
  have hkj : k ≠ j := by
    rintro rfl
    exact Nat.lt_irrefl _ hlt
  exact runPlace_lt_cycleStart (by omega) (by omega)

/-! ## The latest entries -/

theorem getElem_mem_latest {n i : Nat} (hi : i < es.length) (hn : es.length - n ≤ i) :
    es[i] ∈ latest n es := by
  rw [latest, List.mem_drop_iff_getElem]
  exact ⟨i - (es.length - n), by omega, by simp only [Nat.add_sub_cancel' hn]⟩

theorem window_latest_eq_drop {n : Nat} (h : ∃ e ∈ latest n es, e.runs isRun = true) :
    window isRun (latest n es) =
      (window isRun es).drop (es.length - n - windowStart isRun es) := by
  have hsplit := window_append_right (es.take (es.length - n)) h
  rwa [latest, List.take_append_drop, List.length_take, Nat.min_eq_left (Nat.sub_le _ _)] at hsplit

/-- With a run among the latest entries, their window is that of all entries without the part that is
left out. So it is the end of that window, and all of it when the entry behind the last run but one
is kept; and it lies behind all other runs and in front of the last one. -/
theorem window_latest (isRun : Call → Bool) (es : List Entry) (n : Nat) {last : Nat}
    (hlast : (runPlaces isRun es).getLast? = some last) (hn : es.length - n ≤ last) :
    let start := windowStart isRun es
    let cut := es.length - n
    window isRun (latest n es) = (window isRun es).drop (cut - start) ∧
    window isRun (latest n es) <:+ window isRun es ∧
    (cut ≤ start → window isRun (latest n es) = window isRun es) ∧
    window isRun (latest n es) = (es.take last).drop (max start cut) ∧
    ∀ i ∈ runPlaces isRun es, i < last → i < start := by
  intro start cut
  obtain ⟨j, hj, rfl⟩ := runPlace_of_getLast? hlast
  have hstart : start = cycleStart isRun es j := windowStart_eq_cycleStart hj
  obtain ⟨hlt, hrun⟩ := mem_runPlaces.mp (List.mem_of_getLast? hlast)
  have hdrop : window isRun (latest n es) = (window isRun es).drop (cut - start) :=
    window_latest_eq_drop ⟨_, getElem_mem_latest hlt hn, hrun⟩
  refine ⟨hdrop, ?_, ?_, ?_, ?_⟩
  · rw [hdrop]
    exact List.drop_suffix _ _
  · intro hcut
    rw [hdrop, Nat.sub_eq_zero_of_le hcut, List.drop_zero]
  · rw [hdrop, window_eq_cycle hj, cycle, ← hstart, List.drop_drop]
    congr 1
    omega
  · intro i hi hlt
    rw [hstart]
    exact lt_cycleStart_of_lt_runPlace hj hi hlt

/-- A turn of the assistant that uses one tool. -/
def Entry.ofTool (name tool : String) : Entry :=
  .assistant ⟨some name, .blocks [.toolUse tool .null]⟩

/-- The cut takes the run that the window begins behind, and the first of its two entries. -/
theorem window_latest_ofTools :
    let isRun := fun c : Call => c.tool == "Bash"
    let es := [Entry.ofTool "a" "Bash", .ofTool "b" "Write", .ofTool "c" "Edit", .ofTool "d" "Bash",
      .other]
    (runPlaces isRun es).getLast? = some 3 ∧ es.length - 3 ≤ 3 ∧
    window isRun es = [.ofTool "b" "Write", .ofTool "c" "Edit"] ∧
    window isRun (latest 3 es) = [.ofTool "c" "Edit"] ∧
    window isRun (latest 3 es) = (window isRun es).drop (es.length - 3 - windowStart isRun es) := by
  intro isRun es
  have hlast : (runPlaces isRun es).getLast? = some 3 := by decide
  have hn : es.length - 3 ≤ 3 := by decide
  refine ⟨hlast, hn, rfl, rfl, (window_latest isRun es 3 hlast hn).1⟩

end CycleLog.Transcript
