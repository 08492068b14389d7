import Mathlib.Data.List.GetD
import Mathlib.Data.List.Induction
import Mathlib.Order.Interval.Finset.Nat
import CycleLog.Transcript.Window

/-!
# Cycles tile a transcript

The places of the test runs cut a transcript into cycles: `cycleStart` is where the cycle in front
of a run begins, and `cycle` its entries. `window_of_countP` says that the window of any prefix is
the cycle of the last run in it, and `flatMap_cycle` that the cycles together leave out nothing but
the runs.
-/

namespace CycleLog.Transcript
set_option autoImplicit false

open Tool

variable {isRun : Call → Bool} {es : List Entry}

/-! ## Entries that run tests -/

/-- An entry of the assistant that uses a tool for a test run. -/
def Entry.Invokes (isRun : Call → Bool) (e : Entry) : Prop :=
  ∃ uuid blocks tool input, e = .assistant ⟨uuid, .blocks blocks⟩ ∧
    .toolUse tool input ∈ blocks ∧ isRun (.of tool input) = true

theorem runs_iff_invokes {e : Entry} : e.runs isRun = true ↔ e.Invokes isRun := by
  unfold Entry.runs Entry.calls Entry.Invokes
  constructor
  · intro h
    obtain ⟨call, hc, hrun⟩ := List.any_eq_true.mp h
    obtain ⟨block, hb, hcall⟩ := List.mem_filterMap.mp hc
    cases e with
    | user t => simp [Entry.blocks?] at hb
    | other => simp [Entry.blocks?] at hb
    | assistant t =>
      obtain ⟨uuid, content⟩ := t
      cases content with
      | text s => simp [Entry.blocks?] at hb
      | blocks bs =>
        cases block with
        | toolUse tool input =>
          obtain rfl := Option.some.inj hcall
          exact ⟨uuid, bs, tool, input, rfl, hb, hrun⟩
        | text s => simp [Block.call?] at hcall
        | thinking s => simp [Block.call?] at hcall
        | other => simp [Block.call?] at hcall
  · rintro ⟨uuid, bs, tool, input, rfl, hb, hrun⟩
    exact List.any_eq_true.mpr ⟨_, List.mem_filterMap.mpr ⟨_, hb, rfl⟩, hrun⟩

/-! ## Places of runs -/

theorem mem_runPlaces {i : Nat} :
    i ∈ runPlaces isRun es ↔ ∃ h : i < es.length, (es[i]).runs isRun = true := by
  simp only [runPlaces, List.mem_filter, List.mem_range]
  constructor
  · rintro ⟨h, hr⟩
    exact ⟨h, by simpa [List.getElem?_eq_getElem h] using hr⟩
  · rintro ⟨h, hr⟩
    exact ⟨h, by simpa [List.getElem?_eq_getElem h] using hr⟩

theorem pairwise_runPlaces (isRun : Call → Bool) (es : List Entry) :
    (runPlaces isRun es).Pairwise (· < ·) :=
  List.pairwise_lt_range.filter _

theorem runPlaces_append (isRun : Call → Bool) (a b : List Entry) :
    runPlaces isRun (a ++ b) = runPlaces isRun a ++ (runPlaces isRun b).map (a.length + ·) := by
  unfold runPlaces
  rw [List.length_append, List.range_add, List.filter_append, List.filter_map]
  congr 1
  · apply List.filter_congr
    intro i hi
    rw [List.getElem?_append_left (List.mem_range.mp hi)]
  · congr 1
    apply List.filter_congr
    intro i _
    simp only [Function.comp_apply]
    rw [List.getElem?_append_right (Nat.le_add_right _ _), Nat.add_sub_cancel_left]

theorem runPlaces_eq_nil_iff : runPlaces isRun es = [] ↔ ∀ e ∈ es, e.runs isRun = false := by
  rw [List.eq_nil_iff_forall_not_mem]
  constructor
  · intro h e he
    obtain ⟨i, hi, rfl⟩ := List.getElem_of_mem he
    exact Bool.eq_false_iff.mpr fun hr => h i (mem_runPlaces.mpr ⟨hi, hr⟩)
  · intro h i hi
    obtain ⟨hlt, hr⟩ := mem_runPlaces.mp hi
    exact absurd hr (Bool.eq_false_iff.mp (h _ (List.getElem_mem hlt)))

theorem length_runPlaces (isRun : Call → Bool) (es : List Entry) :
    (runPlaces isRun es).length = es.countP (·.runs isRun) := by
  induction es using List.reverseRecOn with
  | nil => rfl
  | append_singleton es e ih =>
    rw [runPlaces_append, List.length_append, ih, List.countP_append]
    cases h : e.runs isRun <;> simp [runPlaces, h, List.range_succ]

/-! ## Cycles -/

/-- The place of the run of that number. -/
def runPlace (isRun : Call → Bool) (es : List Entry) (j : Nat) : Nat := (runPlaces isRun es).getD j 0

/-- Where the cycle of the run of that number begins: behind the run before it. -/
def cycleStart (isRun : Call → Bool) (es : List Entry) : Nat → Nat
  | 0 => 0
  | j + 1 => runPlace isRun es j + 1

/-- The entries between the run of that number and the run before it. -/
def cycle (isRun : Call → Bool) (es : List Entry) (j : Nat) : List Entry :=
  (es.take (runPlace isRun es j)).drop (cycleStart isRun es j)

theorem runPlace_mem {j : Nat} (hj : j < (runPlaces isRun es).length) :
    runPlace isRun es j ∈ runPlaces isRun es := by
  rw [runPlace, List.getD_eq_getElem _ _ hj]
  exact List.getElem_mem hj

theorem runPlace_lt_length {j : Nat} (hj : j < (runPlaces isRun es).length) :
    runPlace isRun es j < es.length :=
  (mem_runPlaces.mp (runPlace_mem hj)).1

theorem runPlace_lt_runPlace {i j : Nat} (hij : i < j) (hj : j < (runPlaces isRun es).length) :
    runPlace isRun es i < runPlace isRun es j := by
  rw [runPlace, runPlace, List.getD_eq_getElem _ _ (Nat.lt_trans hij hj), List.getD_eq_getElem _ _ hj]
  exact List.pairwise_iff_getElem.mp (pairwise_runPlaces isRun es) i j _ hj hij

theorem cycleStart_le {j : Nat} (hj : j < (runPlaces isRun es).length) :
    cycleStart isRun es j ≤ runPlace isRun es j := by
  cases j with
  | zero => exact Nat.zero_le _
  | succ j => exact runPlace_lt_runPlace (Nat.lt_succ_self j) hj

/-- A cycle begins behind all runs before its own. -/
theorem runPlace_lt_cycleStart {i j : Nat} (hij : i < j)
    (hj : j ≤ (runPlaces isRun es).length) :
    runPlace isRun es i < cycleStart isRun es j := by
  cases j with
  | zero => omega
  | succ j =>
    rw [cycleStart]
    obtain h | rfl : i < j ∨ i = j := by omega
    · exact Nat.lt_succ_of_lt (runPlace_lt_runPlace h hj)
    · exact Nat.lt_succ_self _

/-- The places of two cycles do not meet. -/
theorem disjoint_cycles {i j : Nat} (hij : i < j) (hj : j < (runPlaces isRun es).length) :
    Disjoint (Finset.Ico (cycleStart isRun es i) (runPlace isRun es i))
      (Finset.Ico (cycleStart isRun es j) (runPlace isRun es j)) := by
  rw [Finset.disjoint_left]
  intro n hi hn
  rw [Finset.mem_Ico] at hi hn
  have h := runPlace_lt_cycleStart hij (Nat.le_of_lt hj)
  omega

/-- The entries of a cycle are those at the places from its start up to its run. -/
theorem mem_cycle_iff {j : Nat} {e : Entry} : e ∈ cycle isRun es j ↔
    ∃ i, cycleStart isRun es j ≤ i ∧ i < runPlace isRun es j ∧
      es[i]? = some e := by
  unfold cycle
  rw [List.mem_iff_getElem?]
  constructor
  · rintro ⟨n, hn⟩
    rw [List.getElem?_drop, List.getElem?_take] at hn
    split at hn
    · next h => exact ⟨_, Nat.le_add_right _ n, h, hn⟩
    · simp at hn
  · rintro ⟨i, hs, hi, he⟩
    refine ⟨i - cycleStart isRun es j, ?_⟩
    rw [List.getElem?_drop, Nat.add_sub_cancel' hs, List.getElem?_take, if_pos hi]
    exact he

theorem not_runs_of_mem_cycle {j : Nat} (hj : j < (runPlaces isRun es).length) {e : Entry}
    (he : e ∈ cycle isRun es j) : e.runs isRun = false := by
  obtain ⟨i, hs, hi, hei⟩ := mem_cycle_iff.mp he
  obtain ⟨hlt, rfl⟩ := List.getElem?_eq_some_iff.mp hei
  refine Bool.eq_false_iff.mpr fun hr => ?_
  obtain ⟨m, hm, hmi⟩ := List.getElem_of_mem (mem_runPlaces.mpr ⟨hlt, hr⟩)
  rw [← List.getD_eq_getElem _ 0 hm, ← runPlace] at hmi
  -- a run at a place of the cycle would be one of the runs before or behind it
  obtain h | h : m < j ∨ j ≤ m := by omega
  · have := runPlace_lt_cycleStart h (Nat.le_of_lt hj)
    omega
  · obtain h | rfl : j < m ∨ j = m := by omega
    · have := runPlace_lt_runPlace h hm
      omega
    · omega

/-- A cycle stays what it is when entries follow. -/
theorem cycle_append (a b : List Entry) {j : Nat} (hj : j < (runPlaces isRun a).length) :
    cycle isRun (a ++ b) j = cycle isRun a j := by
  have hd : ∀ i, i < (runPlaces isRun a).length →
      runPlace isRun (a ++ b) i = runPlace isRun a i := by
    intro i hi
    rw [runPlace, runPlace, runPlaces_append, List.getD_append _ _ _ _ hi]
  have hs : cycleStart isRun (a ++ b) j = cycleStart isRun a j := by
    cases j with
    | zero => rfl
    | succ j => rw [cycleStart, cycleStart, hd j (by omega)]
  unfold cycle
  rw [hd j hj, hs, List.take_append_of_le_length (Nat.le_of_lt (runPlace_lt_length hj))]

/-! ## Windows -/

/-- The window is the cycle of the last run. -/
theorem window_eq_cycle {j : Nat} (hj : (runPlaces isRun es).length = j + 1) :
    window isRun es = cycle isRun es j := by
  unfold window cycle runPlace lastTwo
  obtain h | ⟨ys, last, h⟩ := List.eq_nil_or_concat (runPlaces isRun es)
  · rw [h] at hj
    simp at hj
  · rw [h] at hj ⊢
    have hy : ys.length = j := by simpa using hj
    obtain rfl | ⟨xs, previous, rfl⟩ := List.eq_nil_or_concat ys
    · obtain rfl : j = 0 := by simpa using hy.symm
      simp [cycleStart]
    · obtain rfl : j = xs.length + 1 := by simpa using hy.symm
      simp [cycleStart, runPlace, h]

/-- The window of the beginning of a transcript is the cycle of the last run that is in it. -/
theorem window_of_countP {before : List Entry} (h : before <+: es) {j : Nat}
    (hj : before.countP (·.runs isRun) = j + 1) :
    j < (runPlaces isRun es).length ∧ window isRun before = cycle isRun es j := by
  obtain ⟨after, rfl⟩ := h
  rw [← length_runPlaces] at hj
  rw [cycle_append before after (by omega), window_eq_cycle hj, runPlaces_append, List.length_append]
  exact ⟨by omega, rfl⟩

theorem length_runPlaces_of_runs (h : ∃ e ∈ es, e.runs isRun = true) :
    ∃ j, (runPlaces isRun es).length = j + 1 := by
  apply Nat.exists_eq_succ_of_ne_zero
  rw [length_runPlaces, ← Nat.pos_iff_ne_zero, List.countP_pos_iff]
  exact h

/-- Once there is a run, no entry of the window is one. -/
theorem not_runs_of_mem_window (h : ∃ e ∈ es, e.runs isRun = true) {e : Entry}
    (he : e ∈ window isRun es) : e.runs isRun = false := by
  obtain ⟨j, hj⟩ := length_runPlaces_of_runs h
  rw [window_eq_cycle hj] at he
  exact not_runs_of_mem_cycle (by omega) he

/-- Entries without a run leave the window as it is, once there is a run. -/
theorem window_append {before after : List Entry} (hb : ∃ e ∈ before, e.runs isRun = true)
    (ha : ∀ e ∈ after, e.runs isRun = false) :
    window isRun (before ++ after) = window isRun before := by
  obtain ⟨j, hj⟩ := length_runPlaces_of_runs hb
  have hsame : (runPlaces isRun (before ++ after)).length = j + 1 := by
    rw [runPlaces_append, runPlaces_eq_nil_iff.mpr ha, List.map_nil, List.append_nil]
    exact hj
  rw [window_eq_cycle hsame, window_eq_cycle hj, cycle_append before after (by omega)]

/-! ## The tiling -/

/-- Between the starts of two cycles lie the earlier one and its run. -/
theorem take_cycleStart_succ {k : Nat} (hk : k < (runPlaces isRun es).length) :
    ∃ run, run.runs isRun = true ∧
      es.take (cycleStart isRun es (k + 1)) = es.take (cycleStart isRun es k) ++ cycle isRun es k ++ [run] := by
  have hlt := runPlace_lt_length hk
  refine ⟨es[runPlace isRun es k], (mem_runPlaces.mp (runPlace_mem hk)).2, ?_⟩
  have h := List.take_append_drop (cycleStart isRun es k) (es.take (runPlace isRun es k))
  rw [List.take_take, Nat.min_eq_left (cycleStart_le hk)] at h
  rw [cycleStart, List.take_succ_eq_append_getElem hlt, cycle, h]

/-- The first cycles together are the entries in front of the next one, without the runs. -/
theorem flatMap_cycle {k : Nat} (hk : k ≤ (runPlaces isRun es).length) :
    (List.range k).flatMap (cycle isRun es) =
      (es.take (cycleStart isRun es k)).filter fun e => !e.runs isRun := by
  induction k with
  | zero => simp [cycleStart]
  | succ k ih =>
    obtain ⟨run, hrun, htake⟩ := take_cycleStart_succ hk
    have hcycle : (cycle isRun es k).filter (fun e => !e.runs isRun) = cycle isRun es k := by
      rw [List.filter_eq_self]
      intro e he
      rw [not_runs_of_mem_cycle hk he]
      rfl
    rw [List.range_succ, List.flatMap_append, ih (Nat.le_of_succ_le hk), List.flatMap_singleton,
      htake, List.filter_append, List.filter_append, hcycle]
    simp [hrun]

/-- In front of a cycle there are as many runs as its number says. -/
theorem countP_take_cycleStart {k : Nat} (hk : k ≤ (runPlaces isRun es).length) :
    (es.take (cycleStart isRun es k)).countP (·.runs isRun) = k := by
  induction k with
  | zero => simp [cycleStart]
  | succ k ih =>
    obtain ⟨run, hrun, htake⟩ := take_cycleStart_succ hk
    have hcycle : (cycle isRun es k).countP (·.runs isRun) = 0 := by
      rw [List.countP_eq_zero]
      intro e he
      exact Bool.eq_false_iff.mp (not_runs_of_mem_cycle hk he)
    rw [htake, List.countP_append, List.countP_append, ih (Nat.le_of_succ_le hk), hcycle]
    simp [hrun]

/-- The window that ends with a run is the cycle of that run. -/
theorem window_take_runPlace {j : Nat} (hj : j < (runPlaces isRun es).length) :
    window isRun (es.take (runPlace isRun es j + 1)) = cycle isRun es j :=
  (window_of_countP (List.take_prefix _ es) (countP_take_cycleStart hj)).2

theorem runPlaces_eq_map (isRun : Call → Bool) (es : List Entry) :
    runPlaces isRun es = (List.range (runPlaces isRun es).length).map (runPlace isRun es) := by
  apply List.ext_getElem
  · simp
  · intro j hj _
    rw [List.getElem_map, List.getElem_range, runPlace, List.getD_eq_getElem _ _ hj]

/-- The windows of successive runs together are all entries up to the last run, without the runs. -/
theorem flatMap_window (isRun : Call → Bool) (es : List Entry) :
    (runPlaces isRun es).flatMap (fun i => window isRun (es.take (i + 1))) =
      (es.take (cycleStart isRun es (runPlaces isRun es).length)).filter fun e => !e.runs isRun := by
  rw [← flatMap_cycle (Nat.le_refl _)]
  conv_lhs => rw [runPlaces_eq_map, List.flatMap_map]
  rw [List.flatMap_def, List.flatMap_def]
  congr 1
  apply List.map_congr_left
  intro j hj
  exact window_take_runPlace (List.mem_range.mp hj)

/-- The runs of a transcript cut it into cycles. The window of a prefix is the cycle of the last run
in it, whatever follows that run. So the windows of successive runs hold stretches of the transcript
that do not meet, no entry of theirs is a run, and together they are all there is up to the last
run. -/
theorem windows_tile (isRun : Call → Bool) (es : List Entry) :
    let places := runPlaces isRun es
    (∀ i, i ∈ places ↔ ∃ h : i < es.length, (es[i]).Invokes isRun) ∧ places.Pairwise (· < ·) ∧
    (∀ before, before <+: es → before.countP (·.runs isRun) = 1 →
      ∃ _ : 0 < places.length, window isRun before = es.take places[0]) ∧
    (∀ before, before <+: es → ∀ j, before.countP (·.runs isRun) = j + 2 →
      ∃ _ : j + 1 < places.length,
        window isRun before = (es.take places[j + 1]).drop (places[j] + 1)) ∧
    (∀ i j, i < j → j < places.length →
      Disjoint (Finset.Ico (cycleStart isRun es i) (runPlace isRun es i))
        (Finset.Ico (cycleStart isRun es j) (runPlace isRun es j))) ∧
    (∀ before, before <+: es → (∃ e ∈ before, e.Invokes isRun) →
      ∀ e ∈ window isRun before, ¬ e.Invokes isRun) ∧
    (∀ before after, (∃ e ∈ before, e.Invokes isRun) → (∀ e ∈ after, ¬ e.Invokes isRun) →
      window isRun (before ++ after) = window isRun before) ∧
    places.flatMap (fun i => window isRun (es.take (i + 1))) =
      (es.take (cycleStart isRun es places.length)).filter fun e => !e.runs isRun := by
  intro places
  refine ⟨fun i => ?_, pairwise_runPlaces isRun es, ?_, ?_, fun i j => disjoint_cycles, ?_, ?_,
    flatMap_window isRun es⟩
  · simp only [places, mem_runPlaces, runs_iff_invokes]
  · intro before hb hcount
    obtain ⟨h, hw⟩ := window_of_countP hb hcount
    refine ⟨h, ?_⟩
    rw [hw, cycle, cycleStart, runPlace, List.getD_eq_getElem _ _ h, List.drop_zero]
  · intro before hb j hcount
    obtain ⟨h, hw⟩ := window_of_countP hb hcount
    refine ⟨h, ?_⟩
    rw [hw, cycle, cycleStart, runPlace, runPlace, List.getD_eq_getElem _ _ h,
      List.getD_eq_getElem _ _ (Nat.lt_of_succ_lt h)]
  · intro before _ hrun e he
    rw [← runs_iff_invokes, not_runs_of_mem_window (by simpa only [runs_iff_invokes] using hrun) he]
    exact Bool.false_ne_true
  · intro before after hb ha
    apply window_append
    · simpa only [runs_iff_invokes] using hb
    · intro e he
      exact Bool.eq_false_iff.mpr fun h => ha e he (runs_iff_invokes.mp h)

end CycleLog.Transcript
