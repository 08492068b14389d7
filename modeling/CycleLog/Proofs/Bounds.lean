import CycleLog.Proofs.CodeSpan
import CycleLog.Proofs.Success
import CycleLog.Proofs.Wire
import CycleLog.Section.Render

/-!
# The bounds of a section

`Block.Fits` says that a block keeps within what a page takes: few runs, short runs, short
paragraphs, and in a toggle nothing but one paragraph. It holds of every block that a renderer makes
(`fits_allBlocks`), however long the phrases are, since each text is cut before it becomes a run. The
runs of a paragraph are short together because the text is cut as a whole and its spans are not cut
once more (`content_spanRun`).
-/

namespace CycleLog

namespace Page
set_option autoImplicit false

/-! ## Blocks within bounds -/

/-- A rich text with few enough runs, of at most `n` characters each. -/
structure TextFits (n : Nat) (runs : List Run) : Prop where
  count : runs.length ≤ 100
  content : ∀ x ∈ runs, x.content.length ≤ n

/-- The runs of a paragraph behind its bold title. -/
def behindTitle : List Run → List Run
  | [] => []
  | x :: runs => if x.bold then runs else x :: runs

/-- The characters of a paragraph behind its bold title. -/
def bodyLength (runs : List Run) : Nat := ((behindTitle runs).map (·.content.length)).sum

theorem behindTitle_sublist_self (runs : List Run) : (behindTitle runs).Sublist runs := by
  unfold behindTitle
  split
  · exact List.Sublist.refl []
  · split
    · exact List.sublist_cons_self _ _
    · exact List.Sublist.refl _

/-- A block within bounds. A toggle holds one paragraph and nothing else. -/
inductive Block.Fits (n : Nat) : Block → Prop
  | heading {runs : List Run} : TextFits n runs → Block.Fits n (.heading runs)
  | paragraph {runs : List Run} :
    TextFits n runs → bodyLength runs ≤ n → Block.Fits n (.paragraph runs)
  | bullet {runs : List Run} : TextFits n runs → Block.Fits n (.bullet runs)
  | toggle {title runs : List Run} {color : Color} :
    TextFits n title → TextFits n runs → bodyLength runs ≤ n →
      Block.Fits n (.toggle title color [.paragraph runs])
  | divider : Block.Fits n .divider

mutual

/-- How many blocks a block is, with the ones that it holds. -/
def Block.count : Block → Nat
  | .toggle _ _ children => 1 + countAll children
  | .heading _ | .paragraph _ | .bullet _ | .divider => 1

def countAll : List Block → Nat
  | [] => 0
  | b :: bs => b.count + countAll bs

end

theorem Block.Fits.count_le {n : Nat} {b : Block} (h : b.Fits n) : b.count ≤ 2 := by
  cases h <;> simp [Block.count, countAll]

theorem countAll_le {n : Nat} {bs : List Block} (h : ∀ b ∈ bs, b.Fits n) :
    countAll bs ≤ 2 * bs.length := by
  induction bs with
  | nil => exact Nat.le_refl 0
  | cons b bs ih =>
    obtain ⟨hb, hbs⟩ := List.forall_mem_cons.mp h
    have hcount := hb.count_le
    have hrest := ih hbs
    rw [countAll, List.length_cons]
    omega

/-! ## What is sent -/

/-- How many blocks a value shows when what it holds shows one block each. -/
def shownCount (v : Json.Value) : Nat := 1 + ((payload v).listAt "children").length

theorem Block.Fits.shownCount_eq {n : Nat} {b : Block} {v : Json.Value} (h : b.Fits n)
    (hv : b.ShownBy v) : shownCount v = b.count := by
  unfold shownCount
  cases h with
  | heading | paragraph | bullet | divider => rw [hv.2]; rfl
  | @toggle title runs color =>
    have hchild : AllShownBy [.paragraph runs] ((payload v).listAt "children") := hv.2
    rw [← hchild.length_eq]
    rfl

theorem sum_shownCount {n : Nat} {bs : List Block} {vs : List Json.Value}
    (h : ∀ b ∈ bs, b.Fits n) (hv : AllShownBy bs vs) : (vs.map shownCount).sum = countAll bs := by
  induction bs generalizing vs with
  | nil =>
    cases vs with
    | nil => rfl
    | cons v vs => exact hv.elim
  | cons b bs ih =>
    obtain ⟨hb, hbs⟩ := List.forall_mem_cons.mp h
    cases vs with
    | nil => exact hv.elim
    | cons v vs => rw [List.map_cons, List.sum_cons, hb.shownCount_eq hv.1, ih hbs hv.2, countAll]

end Page

namespace Section
set_option autoImplicit false

open Page Text

/-! ## Runs -/

theorem length_cut_le (s : String) (max : Nat) : (cut s max).length ≤ max + 3 := by
  rw [cut, String.length_ofList]
  exact length_cutList_le s.toList max

namespace Renderer
variable (r : Renderer)

theorem length_run_le (x : Run) : (r.run x).content.length ≤ r.maxText + 3 :=
  length_cut_le x.content r.maxText

theorem textFits_run (x : Run) : TextFits (r.maxText + 3) [r.run x] where
  count := by
    rw [List.length_singleton]
    decide
  content := by
    intro y hy
    obtain rfl := List.mem_singleton.mp hy
    exact r.length_run_le x

theorem length_spanRun_le (sp : Span) : (r.spanRun sp).content.length ≤ r.maxText + 3 := by
  cases sp <;> exact r.length_run_le _

/-- The run of a span of a cut text shows the whole span. -/
theorem content_spanRun {cs : List Char} {sp : Span} (h : sp ∈ spans (cutList cs r.maxText)) :
    (r.spanRun sp).content = String.ofList sp.content := by
  have hcut : (r.spanRun sp).content = String.ofList (cutList sp.content r.maxText) := by
    cases sp <;> simp [spanRun, run, Run.plain, Run.mono, cut, Span.content]
  rw [hcut, cutList_content h]

theorem length_spanRuns_le (text : String) :
    (((spans (cutList text.toList r.maxText)).map r.spanRun).map (·.content.length)).sum ≤
      r.maxText + 3 := by
  have hsame : ((spans (cutList text.toList r.maxText)).map r.spanRun).map (·.content.length) =
      (spans (cutList text.toList r.maxText)).map (·.content.length) := by
    rw [List.map_map]
    apply List.map_congr_left
    intro sp hsp
    rw [Function.comp_apply, r.content_spanRun hsp, String.length_ofList]
  calc (((spans (cutList text.toList r.maxText)).map r.spanRun).map (·.content.length)).sum
      = ((spans (cutList text.toList r.maxText)).map (·.content.length)).sum := by rw [hsame]
    _ ≤ ((spans (cutList text.toList r.maxText)).flatMap Span.source).length :=
      length_contents_le _
    _ = (cutList text.toList r.maxText).length := by rw [flatMap_source_spans]
    _ ≤ r.maxText + 3 := length_cutList_le _ _

/-! ## Paragraphs -/

theorem textFits_paragraph (title : Option String) (text : String) :
    TextFits (r.maxText + 3) ((r.paragraphRuns title text).take pageRuns) where
  count := List.length_take_le _ _
  content := by
    intro x hx
    rcases List.mem_append.mp (List.mem_of_mem_take hx) with hx | hx
    · obtain ⟨t, -, rfl⟩ := List.mem_map.mp hx
      exact r.length_run_le _
    · obtain ⟨sp, -, rfl⟩ := List.mem_map.mp hx
      exact r.length_spanRun_le sp

/-- Behind the title stand the runs of the spans, as many as there is room for. -/
theorem behindTitle_sublist (title : Option String) (text : String) :
    (behindTitle ((r.paragraphRuns title text).take pageRuns)).Sublist
      ((spans (cutList text.toList r.maxText)).map r.spanRun) := by
  cases title with
  | none =>
    have hruns : r.paragraphRuns none text = (spans (cutList text.toList r.maxText)).map r.spanRun :=
      rfl
    rw [hruns]
    exact (behindTitle_sublist_self _).trans (List.take_sublist _ _)
  | some t => exact List.take_sublist _ _

theorem bodyLength_paragraph (title : Option String) (text : String) :
    bodyLength ((r.paragraphRuns title text).take pageRuns) ≤ r.maxText + 3 := by
  have hsub := (r.behindTitle_sublist title text).map (·.content.length)
  exact (hsub.sum_le_sum fun _ _ => Nat.zero_le _).trans (r.length_spanRuns_le text)

theorem fits_paragraph (title : Option String) (text : String) :
    (r.paragraph title text).Fits (r.maxText + 3) :=
  .paragraph (r.textFits_paragraph title text) (r.bodyLength_paragraph title text)

/-! ## Parts of a section -/

theorem fits_headingBlock {c : Cycle} {b : Block} (h : r.headingBlock c = .ok b) :
    b.Fits (r.maxText + 3) := by
  obtain ⟨s, -, h⟩ := bind_eq_ok_iff.mp h
  obtain rfl := Except.ok.inj h
  exact .heading (r.textFits_run _)

theorem fits_fileBlock {file : String} {b : Block} (h : r.fileBlock file = .ok b) :
    b.Fits (r.maxText + 3) := by
  obtain ⟨s, -, h⟩ := bind_eq_ok_iff.mp h
  obtain rfl := Except.ok.inj h
  exact .bullet (r.textFits_run _)

theorem fits_reasoningBlock (color : Color) (why : String) :
    (r.reasoningBlock color why).Fits (r.maxText + 3) :=
  .toggle (r.textFits_run _) (r.textFits_paragraph none why) (r.bodyLength_paragraph none why)

theorem fits_workBlocks {color : Color} {w : Phase.Work} {bs : List Block}
    (h : r.workBlocks color w = .ok bs) : ∀ b ∈ bs, b.Fits (r.maxText + 3) := by
  obtain ⟨files, hfiles, h⟩ := bind_eq_ok_iff.mp h
  obtain rfl := Except.ok.inj h
  rw [List.forall_mem_append]
  constructor
  · intro b hb
    split at hb
    · cases hb
    · obtain rfl := List.mem_singleton.mp hb
      exact r.fits_reasoningBlock color w.reasoning
  · exact forall_mem_of_mapM hfiles fun _ _ => r.fits_fileBlock

theorem fits_phaseBlocks {color : Color} {ws : List Phase.Work} {bs : List Block}
    (h : r.phaseBlocks color ws = .ok bs) : ∀ b ∈ bs, b.Fits (r.maxText + 3) := by
  obtain ⟨parts, hparts, h⟩ := bind_eq_ok_iff.mp h
  obtain rfl := Except.ok.inj h
  intro b hb
  obtain ⟨part, hpart, hb⟩ := List.mem_flatten.mp hb
  exact forall_mem_of_mapM hparts (fun _ _ => r.fits_workBlocks) part hpart b hb

theorem fits_refactorBlocks {ws : List Phase.Work} {bs : List Block}
    (h : r.refactorBlocks ws = .ok bs) : ∀ b ∈ bs, b.Fits (r.maxText + 3) := by
  unfold refactorBlocks at h
  split at h
  · obtain rfl := Except.ok.inj h
    simp
  · obtain ⟨parts, hparts, h⟩ := bind_eq_ok_iff.mp h
    obtain rfl := Except.ok.inj h
    rw [List.forall_mem_cons]
    exact ⟨r.fits_paragraph _ _, r.fits_phaseBlocks hparts⟩

/-! ## Sections -/

theorem fits_allBlocks {c : Cycle} {bs : List Block} (h : r.allBlocks c = .ok bs) :
    ∀ b ∈ bs, b.Fits (r.maxText + 3) := by
  obtain ⟨heading, hheading, h⟩ := bind_eq_ok_iff.mp h
  obtain ⟨summary, -, h⟩ := bind_eq_ok_iff.mp h
  obtain ⟨red, hred, h⟩ := bind_eq_ok_iff.mp h
  obtain ⟨green, hgreen, h⟩ := bind_eq_ok_iff.mp h
  obtain ⟨refactor, hrefactor, h⟩ := bind_eq_ok_iff.mp h
  obtain rfl := Except.ok.inj h
  simp only [List.forall_mem_append, List.forall_mem_cons, List.not_mem_nil, false_implies,
    implies_true, and_true]
  exact ⟨⟨⟨⟨⟨⟨r.fits_headingBlock hheading, r.fits_paragraph _ _⟩, r.fits_phaseBlocks hred⟩,
    r.fits_paragraph _ _⟩, r.fits_phaseBlocks hgreen⟩, r.fits_refactorBlocks hrefactor⟩,
    r.fits_paragraph _ _, .divider⟩

theorem render_eq_ok_iff {c : Cycle} {bs : List Block} : r.render c = .ok bs ↔
    ∃ all, r.allBlocks c = .ok all ∧ bs = all.take r.maxBlocks := by
  unfold render
  rw [bind_eq_ok_iff]
  constructor
  · rintro ⟨all, hall, h⟩
    exact ⟨all, hall, (Except.ok.inj h).symm⟩
  · rintro ⟨all, hall, rfl⟩
    exact ⟨all, hall, rfl⟩

theorem bounds_of_make {s : Settings} {r : Renderer} (h : Renderer.make s = .ok r) :
    r.maxBlocks = min s.maxBlocks 100 ∧ r.maxText = min s.maxText 1997 := by
  obtain ⟨heading, -, h⟩ := bind_eq_ok_iff.mp h
  obtain ⟨red, -, h⟩ := bind_eq_ok_iff.mp h
  obtain ⟨file, -, h⟩ := bind_eq_ok_iff.mp h
  obtain rfl := Except.ok.inj h
  exact ⟨rfl, rfl⟩

end Renderer

/-- A section keeps within the bounds of a page and within the configured ones, and what is sent for
it shows the same blocks and as many of them. -/
theorem render_fits {s : Settings} {r : Renderer} {c : Cycle} {bs : List Block}
    (hr : Renderer.make s = .ok r) (h : r.render c = .ok bs) :
    bs.length ≤ min s.maxBlocks 100 ∧
    (∀ b ∈ bs, b.Fits (min s.maxText 1997 + 3)) ∧ min s.maxText 1997 + 3 ≤ 2000 ∧
    countAll bs ≤ 200 ∧
    AllShownBy bs ((appendBody bs).listAt "children") ∧
    ((appendBody bs).listAt "children").length = bs.length ∧
    (((appendBody bs).listAt "children").map shownCount).sum = countAll bs := by
  obtain ⟨hblocks, htext⟩ := Renderer.bounds_of_make hr
  obtain ⟨all, hall, hbs⟩ := r.render_eq_ok_iff.mp h
  have hlength : bs.length ≤ min s.maxBlocks 100 := by
    rw [hbs, ← hblocks]
    exact List.length_take_le _ _
  have hfits : ∀ b ∈ bs, b.Fits (min s.maxText 1997 + 3) := by
    intro b hb
    rw [hbs] at hb
    rw [← htext]
    exact r.fits_allBlocks hall b (List.mem_of_mem_take hb)
  have hcount := countAll_le hfits
  have hshows := appendBody_shows bs
  exact ⟨hlength, hfits, by omega, by omega, hshows, hshows.length_eq.symm,
    sum_shownCount hfits hshows⟩

/-- A cycle with one test, and a reason for it. -/
def Cycle.ofOneTest : Cycle where
  subject := "App"
  stamp := "2024-01-02 03:04"
  phases := ⟨[⟨"It fails without `x`.", ["AppTest.kt"], ["works"]⟩], [], [], []⟩
  passed := []

/-- Four blocks of the section of that cycle, with eight characters in a run. -/
theorem render_fits_ofOneTest : ∃ r bs, Renderer.make ⟨4, 5, 9, .standard⟩ = .ok r ∧
    r.render .ofOneTest = .ok bs ∧ bs.length = 4 ∧ countAll bs = 5 ∧
    bs.length ≤ min 4 100 ∧ (∀ b ∈ bs, b.Fits (min 5 1997 + 3)) ∧ min 5 1997 + 3 ≤ 2000 ∧
    countAll bs ≤ 200 ∧
    AllShownBy bs ((appendBody bs).listAt "children") ∧
    ((appendBody bs).listAt "children").length = bs.length ∧
    (((appendBody bs).listAt "children").map shownCount).sum = countAll bs := by
  have hcounts : (do
      let r ← Renderer.make ⟨4, 5, 9, .standard⟩
      let bs ← r.render .ofOneTest
      .ok (bs.length, countAll bs)) = .ok (4, 5) := by decide +kernel
  obtain ⟨r, hr, h⟩ := bind_eq_ok_iff.mp hcounts
  obtain ⟨bs, hbs, h⟩ := bind_eq_ok_iff.mp h
  obtain ⟨hlength, hcount⟩ := Prod.mk.inj (Except.ok.inj h)
  exact ⟨r, bs, hr, hbs, hlength, hcount, render_fits hr hbs⟩

end Section
end CycleLog
