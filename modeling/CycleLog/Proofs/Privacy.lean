import Mathlib.Data.List.Forall2
import CycleLog.Hook
import CycleLog.Proofs.History
import CycleLog.Proofs.Sorting

/-!
# What stays private

Two transcripts agree (`EntriesAgree`) when they differ only in what must not reach a page: what the
user typed, what was replaced by an edit, what stands in source files, what other tools are asked,
and thoughts of which something was also said. The relation is carried through a run, stage by stage:
the same entries run tests, so the windows agree; agreeing entries contribute the same work; and so
the sections are equal (`sections_agree`).
-/

namespace CycleLog
set_option autoImplicit false

open Tool Transcript Phase

variable {p : FilePatterns} {shell : String}

/-! ## Calls -/

/-- Calls that may differ in what is replaced, in what is put into files that are no test files, and
in what is asked of a tool that neither is the shell nor writes a file. -/
inductive CallsAgree (p : FilePatterns) (shell : String) : Call → Call → Prop where
  | same (c : Call) : CallsAgree p shell c c
  | write {path s t : String} (test : p.kind? (fileName path) = some .test → s = t) :
      CallsAgree p shell (.write path s) (.write path t)
  | edit {path old before s t : String} {everywhere : Option Bool}
      (test : p.kind? (fileName path) = some .test → s = t) :
      CallsAgree p shell (.edit path old s everywhere) (.edit path before t everywhere)
  | multiEdit {path : String} {rs ts : List Replacement}
      (test : p.kind? (fileName path) = some .test → rs.map (·.new) = ts.map (·.new)) :
      CallsAgree p shell (.multiEdit path rs) (.multiEdit path ts)
  | unread {c d : Call} (tool : c.tool = d.tool) (noShell : c.tool ≠ shell)
      (left : c.fileWrite? = none) (right : d.fileWrite? = none) : CallsAgree p shell c d

/-- A change of the same file; in a test file the same text is put in. -/
structure WritesAgree (p : FilePatterns) (w v : FileWrite) : Prop where
  path : w.path = v.path
  test : p.kind? w.name = some .test → w.text = v.text

theorem WritesAgree.name {w v : FileWrite} (h : WritesAgree p w v) : w.name = v.name := by
  rw [FileWrite.name, FileWrite.name, h.path]

theorem WritesAgree.refl (w : FileWrite) : WritesAgree p w w := ⟨rfl, fun _ => rfl⟩

theorem WritesAgree.filter {a b : Option FileWrite} (h : Option.Rel (WritesAgree p) a b) :
    Option.Rel (WritesAgree p) (a.filter fun w => w.path ≠ "") (b.filter fun w => w.path ≠ "") := by
  cases h with
  | none => exact .none
  | some h =>
    rw [Option.filter_some, Option.filter_some, h.path]
    split
    · exact .some h
    · exact .none

theorem CallsAgree.fileWrite? {c d : Call} (h : CallsAgree p shell c d) :
    Option.Rel (WritesAgree p) c.fileWrite? d.fileWrite? := by
  cases h with
  | same =>
    cases c.fileWrite? with
    | none => exact .none
    | some w => exact .some (.refl w)
  | write test => exact WritesAgree.filter (.some ⟨rfl, test⟩)
  | edit test => exact WritesAgree.filter (.some ⟨rfl, test⟩)
  | multiEdit test =>
    exact WritesAgree.filter (.some ⟨rfl, fun h => congrArg (String.intercalate "\n") (test h)⟩)
  | unread tool noShell left right =>
    rw [left, right]
    exact .none

/-- The matcher of test runs looks at calls of the shell only. -/
theorem CallsAgree.accepts {m : Trigger.Matcher} {c d : Call} (h : CallsAgree p m.tool c d) :
    m.accepts c = m.accepts d := by
  cases h with
  | same => rfl
  | write test => rfl
  | edit test => rfl
  | multiEdit test => rfl
  | unread tool noShell left right =>
    have hc : m.isShellTool c = false := beq_eq_false_iff_ne.mpr noShell
    have hd : m.isShellTool d = false := beq_eq_false_iff_ne.mpr (tool ▸ noShell)
    rw [Trigger.Matcher.accepts, Trigger.Matcher.accepts, hc, hd, Bool.false_and, Bool.false_and]

/-! ## Entries -/

/-- The same is said and the calls agree. Thoughts are the same where nothing is said. -/
structure BlocksAgree (p : FilePatterns) (shell : String) (bs ds : List Block) : Prop where
  said : bs.filterMap said? = ds.filterMap said?
  calls : List.Forall₂ (CallsAgree p shell) (bs.filterMap Block.call?) (ds.filterMap Block.call?)
  thoughts : (∀ s, Block.text s ∈ bs → Text.trimmed s = "") →
    bs.filterMap thought? = ds.filterMap thought?

/-- Entries of one kind. Of what the user says, and of a turn of the assistant that is a mere text,
nothing has to agree. -/
inductive EntriesAgree (p : FilePatterns) (shell : String) : Entry → Entry → Prop where
  | user (t u : Turn) : EntriesAgree p shell (.user t) (.user u)
  | other : EntriesAgree p shell .other .other
  | text (i j : Option String) (s t : String) :
      EntriesAgree p shell (.assistant ⟨i, .text s⟩) (.assistant ⟨j, .text t⟩)
  | blocks (i j : Option String) {bs ds : List Block} (h : BlocksAgree p shell bs ds) :
      EntriesAgree p shell (.assistant ⟨i, .blocks bs⟩) (.assistant ⟨j, .blocks ds⟩)

theorem trimmedParts_eq_nil {bs : List Block} (h : trimmedParts (bs.filterMap said?) = []) :
    ∀ s, Block.text s ∈ bs → Text.trimmed s = "" := by
  intro s hs
  by_contra hne
  have hmem : Text.trimmed s ∈ trimmedParts (bs.filterMap said?) := by
    unfold trimmedParts
    rw [List.mem_filter]
    exact ⟨List.mem_map.mpr ⟨s, List.mem_filterMap.mpr ⟨_, hs, rfl⟩, rfl⟩, decide_eq_true hne⟩
  rw [h] at hmem
  cases hmem

theorem BlocksAgree.reasoning {bs ds : List Block} (h : BlocksAgree p shell bs ds) (limit : Nat) :
    reasoning bs limit = reasoning ds limit := by
  unfold Phase.reasoning
  rw [← h.said]
  cases hparts : trimmedParts (bs.filterMap said?) with
  | cons s ss => rfl
  | nil =>
    dsimp only
    rw [h.thoughts (trimmedParts_eq_nil hparts)]

namespace EntriesAgree
variable {e d : Entry} (h : EntriesAgree p shell e d)
include h

theorem blocks? : (e.blocks? = none ∧ d.blocks? = none) ∨
    ∃ bs ds, e.blocks? = some bs ∧ d.blocks? = some ds ∧ BlocksAgree p shell bs ds := by
  cases h with
  | user => exact .inl ⟨rfl, rfl⟩
  | other => exact .inl ⟨rfl, rfl⟩
  | text => exact .inl ⟨rfl, rfl⟩
  | blocks i j h => exact .inr ⟨_, _, rfl, rfl, h⟩

theorem calls : List.Forall₂ (CallsAgree p shell) e.calls d.calls := by
  cases h with
  | user => exact .nil
  | other => exact .nil
  | text => exact .nil
  | blocks i j h => exact h.calls

theorem fileWrites : List.Forall₂ (WritesAgree p) (e.calls.filterMap Call.fileWrite?)
    (d.calls.filterMap Call.fileWrite?) :=
  List.rel_filterMap (fun _ _ hc => CallsAgree.fileWrite? hc) h.calls

end EntriesAgree

/-! ## Contributions -/

theorem names_eq {ws vs : List FileWrite} (h : List.Forall₂ (WritesAgree p) ws vs) (k : FileKind) :
    (ws.filter fun w => p.kind? w.name == some k).map (·.name) =
      (vs.filter fun w => p.kind? w.name == some k).map (·.name) := by
  induction h with
  | nil => rfl
  | cons hw _ ih =>
    rw [List.filter_cons, List.filter_cons, hw.name]
    split
    · rw [List.map_cons, List.map_cons, hw.name, ih]
    · exact ih

theorem testWrites_eq {ws vs : List FileWrite} (h : List.Forall₂ (WritesAgree p) ws vs) :
    (ws.filter fun w => p.kind? w.name == some .test) =
      vs.filter fun w => p.kind? w.name == some .test := by
  induction h with
  | nil => rfl
  | @cons w v ws vs hw _ ih =>
    rw [List.filter_cons, List.filter_cons, ← hw.name, ih]
    split
    · next htest =>
      have hwv : w = v := by
        cases w
        cases v
        exact congrArg₂ FileWrite.mk hw.path (hw.test (beq_iff_eq.mp htest))
      rw [hwv]
    · rfl

section Contributions
variable {c : Classifier} {e d : Entry} (h : EntriesAgree c.patterns shell e d)
include h

theorem redWork?_agree : c.redWork? e = c.redWork? d := by
  unfold Classifier.redWork? writtenNames writesOf
  rw [testWrites_eq h.fileWrites]
  obtain ⟨he, hd⟩ | ⟨bs, ds, he, hd, hb⟩ := h.blocks?
  · rw [he, hd]
  · simp only [he, hd, Option.bind_some, hb.reasoning]

theorem sourceWork?_agree : c.sourceWork? e = c.sourceWork? d := by
  unfold Classifier.sourceWork? writtenNames writesOf
  rw [names_eq h.fileWrites]
  obtain ⟨he, hd⟩ | ⟨bs, ds, he, hd, hb⟩ := h.blocks?
  · rw [he, hd]
  · simp only [he, hd, Option.bind_some, hb.reasoning]

theorem step_agree (q : Progress) : c.step q e = c.step q d := by
  rw [c.step_eq, c.step_eq, Classifier.sourceStep, Classifier.sourceStep, redWork?_agree h,
    sourceWork?_agree h]

end Contributions

/-- Agreeing entries take a window from the same progress to the same progress. -/
theorem sort_agree {c : Classifier} {es ds : List Entry}
    (h : List.Forall₂ (EntriesAgree c.patterns shell) es ds) : c.sort es = c.sort ds := by
  have hfold : ∀ q, es.foldl c.step q = ds.foldl c.step q := by
    induction h with
    | nil => exact fun _ => rfl
    | cons he _ ih =>
      intro q
      rw [List.foldl_cons, List.foldl_cons, step_agree he, ih]
  exact congrArg Progress.sorted (hfold .start)

/-! ## Windows -/

section Windows
variable {m : Trigger.Matcher} {es ds : List Entry}

theorem any_accepts_agree {cs bs : List Call} (h : List.Forall₂ (CallsAgree p m.tool) cs bs) :
    cs.any m.accepts = bs.any m.accepts := by
  induction h with
  | nil => rfl
  | cons hc _ ih => rw [List.any_cons, List.any_cons, hc.accepts, ih]

theorem map_runs_agree (h : List.Forall₂ (EntriesAgree p m.tool) es ds) :
    es.map (·.runs m.accepts) = ds.map (·.runs m.accepts) := by
  induction h with
  | nil => rfl
  | cons he _ ih =>
    rw [List.map_cons, List.map_cons, Entry.runs, Entry.runs, any_accepts_agree he.calls, ih]

/-- The same places of both transcripts run tests. -/
theorem runPlaces_agree (h : List.Forall₂ (EntriesAgree p m.tool) es ds) :
    runPlaces m.accepts es = runPlaces m.accepts ds := by
  unfold runPlaces
  rw [h.length_eq]
  -- a place tells only whether its entry runs tests
  apply List.filter_congr
  intro i _
  rw [← List.getElem?_map, ← List.getElem?_map, map_runs_agree h]

theorem window_agree (h : List.Forall₂ (EntriesAgree p m.tool) es ds) :
    List.Forall₂ (EntriesAgree p m.tool) (window m.accepts es) (window m.accepts ds) := by
  unfold window
  rw [runPlaces_agree h]
  split
  · exact h
  · exact List.forall₂_take _ h
  · exact List.forall₂_drop _ (List.forall₂_take _ h)

theorem latest_agree (n : Nat) (h : List.Forall₂ (EntriesAgree p m.tool) es ds) :
    List.Forall₂ (EntriesAgree p m.tool) (latest n es) (latest n ds) := by
  unfold latest
  rw [h.length_eq]
  exact List.forall₂_drop _ h

end Windows

/-! ## Sections -/

theorem Hook.sorted_agree {h : Hook} {es ds : List Entry}
    (hs : List.Forall₂ (EntriesAgree h.classifier.patterns h.filter.matcher.tool) es ds) :
    h.sorted es = h.sorted ds :=
  sort_agree (window_agree hs)

/-- Transcripts that differ only in what is private give the same section, and so the same request,
however many of their entries are kept. -/
theorem sections_agree (h : Hook) (run : Trigger.TestRun) {es ds : List Entry}
    (hs : List.Forall₂ (EntriesAgree h.classifier.patterns h.filter.matcher.tool) es ds) :
    (∀ now, (h.blocksFor run now (latest h.maxEntries es)).map Page.appendBody =
      (h.blocksFor run now (latest h.maxEntries ds)).map Page.appendBody) ∧
    ∀ (w v : World) (here there s t : String), w.now = v.now →
      w.files.text here = .ok s → (parse s).entries = es →
      v.files.text there = .ok t → (parse t).entries = ds →
      (h.section w run here).1.map Page.appendBody = (h.section v run there).1.map Page.appendBody := by
  have hblocks : ∀ now, h.blocksFor run now (latest h.maxEntries es) =
      h.blocksFor run now (latest h.maxEntries ds) := by
    intro now
    unfold Hook.blocksFor
    rw [Hook.sorted_agree (latest_agree h.maxEntries hs)]
  refine ⟨fun now => congrArg _ (hblocks now), ?_⟩
  rintro w v here there s t hnow hw rfl hv rfl
  rw [h.section_eq_blocksFor, h.section_eq_blocksFor, transcriptOf_of_text hw, transcriptOf_of_text hv,
    hnow, hblocks]

/-- A turn that thinks, says, writes a source file and edits a test. -/
def workTurn (s : String) : List Block :=
  [.thinking s, .text "It is not there yet.",
    .toolUse "Write" (.list [.text "/App.java", .text s]), .other,
    .toolUse "Edit" (.list [.text "/AppTest.java", .text s, .text "void works() "])]

/-- A cycle with the same text wherever it stays private. -/
def withPrivate (s : String) : List Entry :=
  [.user ⟨none, .text s⟩, .assistant ⟨none, .blocks (workTurn s)⟩,
    .assistant ⟨none, .blocks [.toolUse "Read" (.text s)]⟩,
    .assistant ⟨none, .blocks [.toolUse "Bash" (.list [.text "gradlew test"])]⟩]

theorem workTurn_agree (hp : p.kind? "App.java" = some .source) (s t : String) :
    BlocksAgree p "Bash" (workTurn s) (workTurn t) := by
  have hname : fileName "/App.java" = "App.java" := by decide +kernel
  refine ⟨rfl, .cons (.write fun h => ?_) (.cons (.edit fun _ => rfl) .nil), fun h => ?_⟩
  · rw [hname, hp] at h
    cases h
  · have hsaid := h "It is not there yet." (by simp [workTurn])
    exact absurd hsaid (by decide +kernel)

theorem withPrivate_agree (hp : p.kind? "App.java" = some .source) (s t : String) :
    List.Forall₂ (EntriesAgree p "Bash") (withPrivate s) (withPrivate t) := by
  have hread : BlocksAgree p "Bash" [.toolUse "Read" (.text s)] [.toolUse "Read" (.text t)] :=
    ⟨rfl, .cons (.unread rfl (show "Read" ≠ "Bash" by decide) rfl rfl) .nil, fun _ => rfl⟩
  have hrun : BlocksAgree p "Bash" [.toolUse "Bash" (.list [.text "gradlew test"])]
      [.toolUse "Bash" (.list [.text "gradlew test"])] :=
    ⟨rfl, .cons (.same _) .nil, fun _ => rfl⟩
  exact .cons (.user _ _) (.cons (.blocks _ _ (workTurn_agree hp s t))
    (.cons (.blocks _ _ hread) (.cons (.blocks _ _ hrun) .nil)))

/-- Two contents of everything that is private, under the standard configuration. -/
theorem sections_agree_withPrivate : ∃ h, Hook.make .standard = .ok h ∧
    List.Forall₂ (EntriesAgree h.classifier.patterns h.filter.matcher.tool)
      (withPrivate "one") (withPrivate "another") ∧
    (h.sorted (withPrivate "one")).green.length = 1 ∧
    ∀ run now, (h.blocksFor run now (latest h.maxEntries (withPrivate "one"))).map Page.appendBody =
      (h.blocksFor run now (latest h.maxEntries (withPrivate "another"))).map Page.appendBody := by
  have hfacts : (do
      let h ← Hook.make .standard
      .ok (h.classifier.patterns.kind? "App.java", h.filter.matcher.tool,
        (h.sorted (withPrivate "one")).green.length) : Except Problem (Option FileKind × String × Nat)) =
        .ok (some .source, "Bash", 1) := by decide +kernel
  obtain ⟨h, hmake, hfacts⟩ := bind_eq_ok_iff.mp hfacts
  obtain ⟨hkind, hrest⟩ := Prod.mk.inj (Except.ok.inj hfacts)
  obtain ⟨htool, hgreen⟩ := Prod.mk.inj hrest
  have hagree : List.Forall₂ (EntriesAgree h.classifier.patterns h.filter.matcher.tool)
      (withPrivate "one") (withPrivate "another") := by
    rw [htool]
    exact withPrivate_agree hkind _ _
  exact ⟨h, hmake, hagree, hgreen, fun run => (sections_agree h run hagree).1⟩

end CycleLog
