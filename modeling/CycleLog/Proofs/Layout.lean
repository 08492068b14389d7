import CycleLog.Proofs.Bounds

/-!
# The layout of a section

`Renderer.layout` lays a section out from the words that its phrases give, without a thought of what
can go wrong or of how much a page takes. All blocks of a section are laid out so when the phrases can
be rendered, and there are none otherwise (`allBlocks_eq_ok_iff`). What is sent is the front of that
list, so that sections with different bounds on their blocks differ only in where they end.
-/

namespace CycleLog.Section
set_option autoImplicit false

open Page
open Phase (Work)

/-! ## Words -/

/-- What the phrases of a section say. -/
structure Words where
  heading : String
  summary : String
  line : String → String

def Cycle.works (c : Cycle) : List Work := c.phases.red ++ c.phases.green ++ c.phases.refactor

def Renderer.fileLine (r : Renderer) (file : String) : Except Problem String :=
  phrase r.phrases.file r.file [("file", file)]

/-- The phrases of a renderer say this of a cycle. -/
structure Words.Of (r : Renderer) (c : Cycle) (w : Words) : Prop where
  heading : phrase r.phrases.heading r.heading [("subject", c.subject), ("timestamp", c.stamp)] =
    .ok w.heading
  summary : r.redSummary c = .ok w.summary
  line : ∀ x ∈ c.works, ∀ f ∈ x.files, r.fileLine f = .ok (w.line f)

/-! ## The layout -/

namespace Renderer

/-- A toggle if there is a reason, and a line for each file. -/
def entryLayout (r : Renderer) (line : String → String) (color : Color) (x : Work) : List Block :=
  (if x.reasoning = "" then []
    else [.toggle [r.run (.plain r.phrases.reasoningTitle)] color [r.paragraph none x.reasoning]]) ++
  x.files.map fun f => .bullet [r.run (.plain (line f))]

def phaseLayout (r : Renderer) (line : String → String) (color : Color) (xs : List Work) :
    List Block :=
  xs.flatMap (r.entryLayout line color)

def refactorLayout (r : Renderer) (line : String → String) (xs : List Work) : List Block :=
  if xs = [] then []
  else r.paragraph (some "Refactor: ") r.phrases.refactor :: r.phaseLayout line .blue xs

def layout (r : Renderer) (w : Words) (c : Cycle) : List Block :=
  [.heading [r.run (.plain w.heading)]] ++
  [r.paragraph (some "Red: ") w.summary] ++ r.phaseLayout w.line .red c.phases.red ++
  [r.paragraph (some "Green: ")
    (if c.phases.green = [] then r.phrases.greenVerified else r.phrases.greenImplemented)] ++
  r.phaseLayout w.line .green c.phases.green ++
  r.refactorLayout w.line c.phases.refactor ++
  [r.paragraph (some "Result: ") r.phrases.result] ++ [.divider]

end Renderer

/-! ## Its length -/

def blockCount (x : Work) : Nat := (if x.reasoning = "" then 0 else 1) + x.files.length

section Length
variable (r : Renderer) (line : String → String)

theorem length_entryLayout (color : Color) (x : Work) :
    (r.entryLayout line color x).length = blockCount x := by
  unfold Renderer.entryLayout blockCount
  rw [List.length_append, List.length_map]
  split <;> rfl

theorem length_phaseLayout (color : Color) (xs : List Work) :
    (r.phaseLayout line color xs).length = (xs.map blockCount).sum := by
  unfold Renderer.phaseLayout
  rw [List.length_flatMap]
  simp only [length_entryLayout]

theorem length_refactorLayout (xs : List Work) : (r.refactorLayout line xs).length =
    (if xs = [] then 0 else 1) + (xs.map blockCount).sum := by
  unfold Renderer.refactorLayout
  split
  · next h => simp [h]
  · rw [List.length_cons, length_phaseLayout, Nat.add_comm]

theorem length_layout (w : Words) (c : Cycle) : (r.layout w c).length =
    5 + (if c.phases.refactor = [] then 0 else 1) + (c.works.map blockCount).sum := by
  have hworks : (c.works.map blockCount).sum = (c.phases.red.map blockCount).sum +
      (c.phases.green.map blockCount).sum + (c.phases.refactor.map blockCount).sum := by
    simp [Cycle.works, Nat.add_assoc]
  have hrefactor := length_refactorLayout r w.line c.phases.refactor
  have hred := length_phaseLayout r w.line .red c.phases.red
  have hgreen := length_phaseLayout r w.line .green c.phases.green
  simp only [Renderer.layout, List.length_append, List.length_singleton]
  omega

end Length

/-! ## Blocks that are laid out so -/

namespace Renderer
variable {r : Renderer} {line : String → String}

theorem workBlocks_of_line {x : Work} (color : Color) (h : ∀ f ∈ x.files, r.fileLine f = .ok (line f)) :
    r.workBlocks color x = .ok (r.entryLayout line color x) := by
  have hfiles : x.files.mapM r.fileBlock = .ok (x.files.map fun f => .bullet [r.run (.plain (line f))]) := by
    apply mapM_eq_ok_map
    intro f hf
    exact bind_eq_ok_iff.mpr ⟨line f, h f hf, rfl⟩
  exact bind_eq_ok_iff.mpr ⟨_, hfiles, rfl⟩

theorem phaseBlocks_of_line {xs : List Work} (color : Color)
    (h : ∀ x ∈ xs, ∀ f ∈ x.files, r.fileLine f = .ok (line f)) :
    r.phaseBlocks color xs = .ok (r.phaseLayout line color xs) := by
  have hparts : xs.mapM (r.workBlocks color) = .ok (xs.map (r.entryLayout line color)) :=
    mapM_eq_ok_map fun x hx => workBlocks_of_line color (h x hx)
  exact bind_eq_ok_iff.mpr ⟨_, hparts, rfl⟩

theorem refactorBlocks_of_line {xs : List Work}
    (h : ∀ x ∈ xs, ∀ f ∈ x.files, r.fileLine f = .ok (line f)) :
    r.refactorBlocks xs = .ok (r.refactorLayout line xs) := by
  cases xs with
  | nil => rfl
  | cons x xs => exact bind_eq_ok_iff.mpr ⟨_, phaseBlocks_of_line .blue h, rfl⟩

/-- Where the blocks of a phase can be made, there is a line for every file. -/
theorem line_of_phaseBlocks {color : Color} {xs : List Work} {bs : List Block}
    (h : r.phaseBlocks color xs = .ok bs) :
    ∀ x ∈ xs, ∀ f ∈ x.files, ∃ s, r.fileLine f = .ok s := by
  obtain ⟨parts, hparts, -⟩ := bind_eq_ok_iff.mp h
  intro x hx f hf
  obtain ⟨part, hpart⟩ := exists_of_mapM hparts hx
  obtain ⟨files, hfiles, -⟩ := bind_eq_ok_iff.mp hpart
  obtain ⟨b, hb⟩ := exists_of_mapM hfiles hf
  obtain ⟨s, hs, -⟩ := bind_eq_ok_iff.mp hb
  exact ⟨s, hs⟩

theorem line_of_refactorBlocks {xs : List Work} {bs : List Block}
    (h : r.refactorBlocks xs = .ok bs) :
    ∀ x ∈ xs, ∀ f ∈ x.files, ∃ s, r.fileLine f = .ok s := by
  cases xs with
  | nil => simp
  | cons x xs =>
    obtain ⟨parts, hparts, -⟩ := bind_eq_ok_iff.mp h
    exact line_of_phaseBlocks hparts

theorem allBlocks_of_words {c : Cycle} {w : Words} (h : w.Of r c) :
    r.allBlocks c = .ok (r.layout w c) := by
  have hheading : r.headingBlock c = .ok (.heading [r.run (.plain w.heading)]) :=
    bind_eq_ok_iff.mpr ⟨_, h.heading, rfl⟩
  have hline := h.line
  simp only [Cycle.works, List.forall_mem_append] at hline
  have hred := phaseBlocks_of_line .red hline.1.1
  have hgreen := phaseBlocks_of_line .green hline.1.2
  have hrefactor := refactorBlocks_of_line hline.2
  have htext : r.greenText c.phases.green =
      if c.phases.green = [] then r.phrases.greenVerified else r.phrases.greenImplemented := by
    cases c.phases.green <;> rfl
  unfold allBlocks
  rw [hheading, h.summary, hred, hgreen, hrefactor, htext]
  change Except.ok _ = Except.ok _
  simp [layout]

/-- A section can be made when all its phrases can be rendered, and is laid out from their words. -/
theorem allBlocks_eq_ok_iff {c : Cycle} {bs : List Block} :
    r.allBlocks c = .ok bs ↔ ∃ w : Words, w.Of r c ∧ bs = r.layout w c := by
  constructor
  · intro h
    obtain ⟨b, hb, hrest⟩ := bind_eq_ok_iff.mp h
    obtain ⟨summary, hsummary, hrest⟩ := bind_eq_ok_iff.mp hrest
    obtain ⟨red, hred, hrest⟩ := bind_eq_ok_iff.mp hrest
    obtain ⟨green, hgreen, hrest⟩ := bind_eq_ok_iff.mp hrest
    obtain ⟨refactor, hrefactor, -⟩ := bind_eq_ok_iff.mp hrest
    obtain ⟨heading, hheading, -⟩ := bind_eq_ok_iff.mp hb
    have hlines : ∀ x ∈ c.works, ∀ f ∈ x.files, ∃ s, r.fileLine f = .ok s := by
      simp only [Cycle.works, List.forall_mem_append]
      exact ⟨⟨line_of_phaseBlocks hred, line_of_phaseBlocks hgreen⟩, line_of_refactorBlocks hrefactor⟩
    -- one function has to give the line of every file, so it asks the phrase again
    let w : Words := ⟨heading, summary, fun f => (r.fileLine f).toOption.getD ""⟩
    have hw : w.Of r c := by
      refine ⟨hheading, hsummary, fun x hx f hf => ?_⟩
      obtain ⟨s, hs⟩ := hlines x hx f hf
      have hline : w.line f = s := by
        change (r.fileLine f).toOption.getD "" = s
        rw [hs]
        rfl
      rw [hs, hline]
    exact ⟨w, hw, Except.ok.inj (h.symm.trans (allBlocks_of_words hw))⟩
  · rintro ⟨w, hw, rfl⟩
    exact allBlocks_of_words hw

/-! ## Bounds on the blocks -/

/-- Settings with another bound make the same renderer, but for that bound. -/
theorem make_maxBlocks {s : Settings} (h : Renderer.make s = .ok r) (n : Nat) :
    Renderer.make { s with maxBlocks := n } = .ok { r with maxBlocks := min n 100 } := by
  obtain ⟨heading, hheading, h⟩ := bind_eq_ok_iff.mp h
  obtain ⟨red, hred, h⟩ := bind_eq_ok_iff.mp h
  obtain ⟨file, hfile, h⟩ := bind_eq_ok_iff.mp h
  obtain rfl := Except.ok.inj h
  unfold Renderer.make
  rw [hheading, hred, hfile]
  rfl

theorem render_maxBlocks {c : Cycle} {all : List Block} (h : r.allBlocks c = .ok all) (n : Nat) :
    ({ r with maxBlocks := n } : Renderer).render c = .ok (all.take n) := by
  have hall : ({ r with maxBlocks := n } : Renderer).allBlocks c = .ok all := h
  exact (render_eq_ok_iff _).mpr ⟨all, hall, rfl⟩

end Renderer

/-- A section is the front of its layout, as long as the bound on its blocks allows: heading, red,
green, refactor if there is one, result, divider; and for every contribution a toggle if it has a
reason, and a line for each file. Its length follows from that. With another bound on the blocks there
is a section too, and the shorter of the two is the front of the longer one. -/
theorem render_lays_out {s : Settings} {r : Renderer} {c : Cycle} {bs : List Block}
    (hr : Renderer.make s = .ok r) (h : r.render c = .ok bs) :
    (∃ w : Words, w.Of r c ∧ bs = (r.layout w c).take (min s.maxBlocks 100)) ∧
    bs.length = min (min s.maxBlocks 100)
      (5 + (if c.phases.refactor = [] then 0 else 1) + (c.works.map blockCount).sum) ∧
    ∀ n, ∃ r' bs', Renderer.make { s with maxBlocks := n } = .ok r' ∧ r'.render c = .ok bs' ∧
      (bs'.length ≤ bs.length → bs' <+: bs) ∧ (bs.length ≤ bs'.length → bs <+: bs') := by
  obtain ⟨hblocks, -⟩ := Renderer.bounds_of_make hr
  obtain ⟨all, hall, hbs⟩ := r.render_eq_ok_iff.mp h
  obtain ⟨w, hw, hlayout⟩ := Renderer.allBlocks_eq_ok_iff.mp hall
  rw [hblocks] at hbs
  refine ⟨⟨w, hw, hlayout ▸ hbs⟩, ?_, fun n => ?_⟩
  · rw [hbs, List.length_take, hlayout, length_layout]
  · have hfront : bs <+: all := hbs ▸ List.take_prefix _ all
    have hfront' := List.take_prefix (min n 100) all
    exact ⟨_, _, Renderer.make_maxBlocks hr n, Renderer.render_maxBlocks hall _,
      List.prefix_of_prefix_length_le hfront' hfront, List.prefix_of_prefix_length_le hfront hfront'⟩

/-- A cycle with work of every phase, some of it without a reason. -/
def Cycle.ofThreePhases : Cycle where
  subject := "App"
  stamp := "2024-01-02 03:04"
  phases := ⟨[⟨"It fails.", ["AppTest.kt"], ["works"]⟩], [⟨"", ["App.kt", "Main.kt"], []⟩],
    [⟨"It reads better.", ["App.kt"], []⟩], ["App.kt", "Main.kt"]⟩
  passed := []

/-- Of the twelve blocks of that cycle nine are sent: the cut falls behind the toggle of the refactor. -/
theorem render_lays_out_ofThreePhases : ∃ r bs, Renderer.make ⟨9, 1900, 9, .standard⟩ = .ok r ∧
    r.render .ofThreePhases = .ok bs ∧ bs.length = 9 ∧
    (∃ w : Words, w.Of r .ofThreePhases ∧ bs = (r.layout w .ofThreePhases).take (min 9 100)) ∧
    bs.length = min (min 9 100) (5 + 1 + (2 + 2 + 2)) ∧
    ∀ n, ∃ r' bs', Renderer.make ⟨n, 1900, 9, .standard⟩ = .ok r' ∧
      r'.render .ofThreePhases = .ok bs' ∧
      (bs'.length ≤ bs.length → bs' <+: bs) ∧ (bs.length ≤ bs'.length → bs <+: bs') := by
  have hlength : (do
      let r ← Renderer.make ⟨9, 1900, 9, .standard⟩
      let bs ← r.render .ofThreePhases
      .ok bs.length) = .ok 9 := by decide +kernel
  obtain ⟨r, hr, h⟩ := bind_eq_ok_iff.mp hlength
  obtain ⟨bs, hbs, h⟩ := bind_eq_ok_iff.mp h
  exact ⟨r, bs, hr, hbs, Except.ok.inj h, render_lays_out hr hbs⟩

end CycleLog.Section
