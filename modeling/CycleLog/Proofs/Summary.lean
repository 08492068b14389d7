import CycleLog.Proofs.Layout
import CycleLog.Proofs.Splitting
import CycleLog.Proofs.Subject

/-!
# The summary of red

The summary writes each name between backticks and joins them; a paragraph finds code by looking for
backticks. For a text that is made of plain text and code without backticks, the spans are what it was
made of (`spans_plain_code`). So a paragraph shows the names of the summary as code, unless one of them
has a backtick: code never has one.
-/

namespace CycleLog.Section
set_option autoImplicit false

open Page Text

/-! ## Spans of plain text and code -/

theorem spansFrom_congr {m n : Nat} {cs : List Char} (hm : cs.length ≤ m) (hn : cs.length ≤ n)
    (back : List Char) : spansFrom back m cs = spansFrom back n cs := by
  induction m generalizing n cs back with
  | zero =>
    obtain rfl := List.eq_nil_of_length_eq_zero (Nat.le_zero.mp hm)
    cases n <;> rfl
  | succ m ih =>
    cases cs with
    | nil => cases n <;> rfl
    | cons c r =>
      rw [List.length_cons] at hm hn
      obtain ⟨n, rfl⟩ : ∃ k, n = k + 1 := ⟨n - 1, by omega⟩
      rw [spansFrom, spansFrom]
      cases hc : codeAt? (c :: r) with
      | none => exact ih (by omega) (by omega) _
      | some x =>
        have hlength := congrArg List.length (codeAt?_eq_some_iff.mp hc).1
        simp only [List.length_append, List.length_cons] at hlength
        have hm' : x.2.length ≤ m := by omega
        have hn' : x.2.length ≤ n := by omega
        dsimp only
        rw [ih hm' hn']

theorem codeAt?_of_ne_tick {c : Char} (h : c ≠ tick) (r : List Char) : codeAt? (c :: r) = none := by
  simp [codeAt?, h]

theorem spansFrom_plain {front : List Char} (h : tick ∉ front) (back rest : List Char) :
    spansFrom back (front ++ rest).length (front ++ rest) =
      spansFrom (front.reverse ++ back) rest.length rest := by
  induction front generalizing back with
  | nil => rfl
  | cons c front ih =>
    rw [List.mem_cons, not_or] at h
    rw [List.cons_append, List.length_cons, spansFrom, codeAt?_of_ne_tick (Ne.symm h.1)]
    dsimp only
    rw [ih h.2, List.reverse_cons, List.append_assoc, List.singleton_append]

theorem spans_plain {front : List Char} (h : tick ∉ front) : spans front = plainSpan front.reverse := by
  have hall := spansFrom_plain h [] []
  rw [List.append_nil, List.append_nil] at hall
  rw [spans, hall]
  rfl

theorem spans_plain_code {front code : List Char} (hfront : tick ∉ front) (hne : code ≠ [])
    (htick : tick ∉ code) (rest : List Char) :
    spans (front ++ ((Span.code code).source ++ rest)) =
      plainSpan front.reverse ++ .code code :: spans rest := by
  have hsource : (Span.code code).source ++ rest = tick :: (code ++ tick :: rest) := by
    simp [Span.source]
  have hcode : codeAt? (tick :: (code ++ tick :: rest)) = some (code, rest) :=
    codeAt?_eq_some_iff.mpr ⟨rfl, hne, htick⟩
  have hlength : rest.length ≤ (code ++ tick :: rest).length := by
    rw [List.length_append, List.length_cons]
    omega
  rw [spans, spansFrom_plain hfront, List.append_nil, hsource, List.length_cons, spansFrom, hcode]
  dsimp only
  rw [spansFrom_congr hlength (Nat.le_refl _), spans]

/-! ## The code of a text -/

def Span.code? : Span → Option (List Char)
  | .plain _ => none
  | .code cs => some cs

theorem length_plainSpan_le (back : List Char) : (plainSpan back).length ≤ 1 := by
  unfold plainSpan
  split <;> simp

theorem code?_plainSpan (back : List Char) : (plainSpan back).filterMap Span.code? = [] := by
  unfold plainSpan
  split <;> rfl

section Listed
variable {sep tail : List Char} (hsep : tick ∉ sep) (htail : tick ∉ tail)
include hsep htail

/-- Of names between backticks, joined by a text without any, the code is these names. -/
theorem code?_spans_listed {front : List Char} {names : List (List Char)} (hfront : tick ∉ front)
    (hnames : ∀ n ∈ names, n ≠ [] ∧ tick ∉ n) :
    let ss := spans (front ++ (sep.intercalate (names.map fun n => (Span.code n).source) ++ tail))
    ss.filterMap Span.code? = names ∧ ss.length ≤ 2 * names.length + 1 := by
  -- on the names that are left; what separates two of them stands in front of the later one
  induction names generalizing front with
  | nil =>
    intro ss
    have hplain : tick ∉ front ++ tail := by simp [hfront, htail]
    have hss : ss = plainSpan (front ++ tail).reverse := spans_plain hplain
    rw [hss]
    exact ⟨code?_plainSpan _, length_plainSpan_le _⟩
  | cons a names ih =>
    obtain ⟨⟨hne, htick⟩, hrest⟩ := List.forall_mem_cons.mp hnames
    intro ss
    obtain ⟨rest, hrest, hcode, hlength⟩ : ∃ rest,
        sep.intercalate ((a :: names).map fun n => (Span.code n).source) ++ tail =
          (Span.code a).source ++ rest ∧
        (spans rest).filterMap Span.code? = names ∧ (spans rest).length ≤ 2 * names.length + 1 := by
      cases names with
      | nil =>
        refine ⟨tail, by simp, ?_⟩
        rw [spans_plain htail]
        exact ⟨code?_plainSpan _, length_plainSpan_le _⟩
      | cons b names =>
        exact ⟨_, by simp [List.intercalate_cons_cons], ih hsep hrest⟩
    have hss : ss = plainSpan front.reverse ++ .code a :: spans rest := by
      rw [← spans_plain_code hfront hne htick, ← hrest]
    have hone := length_plainSpan_le front.reverse
    rw [hss]
    constructor
    · rw [List.filterMap_append, code?_plainSpan, List.nil_append, List.filterMap_cons, hcode]
      rfl
    · simp only [List.length_append, List.length_cons]
      omega

end Listed

/-! ## The runs of a paragraph -/

/-- The texts that are shown as code. -/
def codeTexts (runs : List Run) : List String := (runs.filter (·.code)).map (·.content)

theorem codeTexts_map_run (ss : List Span) :
    codeTexts (ss.map Span.run) = (ss.filterMap Span.code?).map String.ofList := by
  induction ss with
  | nil => rfl
  | cons sp ss ih =>
    unfold codeTexts at ih ⊢
    cases sp with
    | plain cs => exact ih
    | code cs => exact congrArg (String.ofList cs :: ·) ih

/-- What a paragraph with a title shows, when its text is not too long. -/
theorem paragraph_titled {r : Renderer} {title text : String} (htitle : title.length ≤ r.maxText)
    (htext : text.length ≤ r.maxText) : r.paragraph (some title) text =
      .paragraph (.strong title :: ((spans text.toList).map Span.run).take 99) := by
  have hcut : cutList text.toList r.maxText = text.toList := cutList_of_le htext
  have hruns : (spans text.toList).map r.spanRun = (spans text.toList).map Span.run := by
    apply List.map_congr_left
    intro sp hsp
    rw [← hcut] at hsp
    exact r.spanRun_eq hsp
  have hstrong : r.run (.strong title) = .strong title := by
    simp [Renderer.run, Run.strong, cut, cutList_of_le htitle]
  unfold Renderer.paragraph Renderer.paragraphRuns
  rw [hcut, hruns, Option.toList_some, List.map_singleton, hstrong]
  rfl

/-- The names between backticks and joined are shown as code when none of them has a backtick; and code
has none. -/
theorem codeTexts_listed_iff {sep tail : String} (hsep : tick ∉ sep.toList) (htail : tick ∉ tail.toList)
    {names : List String} (hne : ∀ n ∈ names, n ≠ "") (hfew : names.length ≤ 5) :
    codeTexts (((spans (sep.intercalate (names.map Renderer.ticked) ++ tail).toList).map
      Span.run).take 99) = names ↔ ∀ n ∈ names, tick ∉ n.toList := by
  constructor
  · intro h n hn
    rw [← h, ← List.map_take, codeTexts_map_run] at hn
    obtain ⟨cs, hcs, rfl⟩ := List.mem_map.mp hn
    obtain ⟨sp, hsp, hcode⟩ := List.mem_filterMap.mp hcs
    cases sp with
    | plain => cases hcode
    | code code =>
      obtain rfl := Option.some.inj hcode
      rw [String.toList_ofList]
      exact tick_notMem_of_code_mem (List.mem_of_mem_take hsp)
  · intro h
    have hnames : ∀ n ∈ names.map String.toList, n ≠ [] ∧ tick ∉ n := by
      rintro _ hmem
      obtain ⟨n, hn, rfl⟩ := List.mem_map.mp hmem
      exact ⟨fun hnil => hne n hn (String.toList_eq_nil_iff.mp hnil), h n hn⟩
    have hnil : tick ∉ ([] : List Char) := List.not_mem_nil
    obtain ⟨hcode, hlength⟩ := code?_spans_listed hsep htail hnil hnames
    have htext : (sep.intercalate (names.map Renderer.ticked) ++ tail).toList =
        [] ++ (sep.toList.intercalate ((names.map String.toList).map fun n => (Span.code n).source) ++
          tail.toList) := by
      simp [Renderer.ticked, Function.comp_def]
    rw [← htext] at hcode hlength
    rw [List.length_map] at hlength
    have htake : ((spans (sep.intercalate (names.map Renderer.ticked) ++ tail).toList).map
        Span.run).length ≤ 99 := by
      rw [List.length_map]
      omega
    rw [List.take_of_length_le htake, codeTexts_map_run, hcode]
    simp

/-! ## The standard phrases -/

/-- What the standard phrases say of a cycle with named tests. -/
def standardSummary (c : Cycle) : String :=
  ", ".intercalate ((Renderer.chosenNames c).map Renderer.ticked) ++ " 테스트 작성"

def standardWords (c : Cycle) : Words where
  heading := c.subject ++ " (" ++ c.stamp ++ ")"
  summary := standardSummary c
  line file := "파일: " ++ file

/-- The standard phrases can be read and rendered. -/
theorem make_of_standard {s : Settings} (hs : s.phrases = .standard) : ∃ r, Renderer.make s = .ok r ∧
    ∀ c, Renderer.chosenNames c ≠ [] → (standardWords c).Of r c := by
  have hheading : template "heading" Phrases.standard.heading =
      .ok [.output (.var "subject"), .text " (", .output (.var "timestamp"), .text ")"] := rfl
  have hred : template "red" Phrases.standard.red = .ok [.output (.var "names"), .text " 테스트 작성"] :=
    rfl
  have hfile : template "file" Phrases.standard.file = .ok [.text "파일: ", .output (.var "file")] := rfl
  unfold Renderer.make
  rw [hs, hheading, hred, hfile]
  refine ⟨_, rfl, fun c hnames => ?_⟩
  constructor
  · exact phrase_standardHeading _ _ _
  · unfold Renderer.redSummary
    split
    · next h => exact absurd h hnames
    · exact phrase_of_plainText? (by simp [standardWords, standardSummary, Template.Node.plainText?])
  · intro x _ f _
    exact phrase_of_plainText? (by simp [standardWords, Template.Node.plainText?])

theorem length_chosenNames_le (c : Cycle) : (Renderer.chosenNames c).length ≤ 5 := by
  unfold Renderer.chosenNames
  split
  · exact List.length_take_le _ _
  · exact List.length_take_le _ _

/-- With the standard phrases and room for two blocks and for the summary, the second block of a section
tells of red. What it shows as code are the names that were chosen, if none of them has a backtick, and
not if one has. -/
theorem red_shows_names {s : Settings} {c : Cycle} (hphrases : s.phrases = .standard)
    (hblocks : 2 ≤ s.maxBlocks) (hnames : Renderer.chosenNames c ≠ [])
    (hne : ∀ n ∈ Renderer.chosenNames c, n ≠ "")
    (hlength : (standardSummary c).length ≤ min s.maxText 1997) :
    ∃ r bs runs, Renderer.make s = .ok r ∧ r.redSummary c = .ok (standardSummary c) ∧
      r.render c = .ok bs ∧ bs[1]? = some (.paragraph (.strong "Red: " :: runs)) ∧
      (codeTexts runs = Renderer.chosenNames c ↔
        ∀ n ∈ Renderer.chosenNames c, tick ∉ n.toList) := by
  obtain ⟨r, hr, hwords⟩ := make_of_standard hphrases
  obtain ⟨hmaxBlocks, hmaxText⟩ := Renderer.bounds_of_make hr
  have hw := hwords c hnames
  have hrender : r.render c = .ok ((r.layout (standardWords c) c).take r.maxBlocks) :=
    r.render_eq_ok_iff.mpr ⟨_, Renderer.allBlocks_of_words hw, rfl⟩
  have hsummary : (standardSummary c).length =
      (", ".intercalate ((Renderer.chosenNames c).map Renderer.ticked)).length + 7 := by
    rw [standardSummary, String.length_append]
    rfl
  have htitle : "Red: ".length ≤ r.maxText := by
    change 5 ≤ r.maxText
    omega
  have hsecond : (r.layout (standardWords c) c)[1]? =
      some (r.paragraph (some "Red: ") (standardSummary c)) := rfl
  have hsep : tick ∉ ", ".toList := by decide
  have htail : tick ∉ " 테스트 작성".toList := by decide
  have hcode := codeTexts_listed_iff hsep htail hne (length_chosenNames_le c)
  refine ⟨r, _, _, hr, hw.summary, hrender, ?_, hcode⟩
  rw [List.getElem?_take_of_lt (by omega), hsecond, paragraph_titled htitle (by omega)]
  rfl

/-- A cycle whose tests have no names, and whose run reported six methods, some of them with characters
that also stand between names. -/
def Cycle.ofPassed : Cycle where
  subject := "App"
  stamp := "2024-01-02 03:04"
  phases := .empty
  passed := ["adds, subtracts", "a\nb", ", ", "d", "e", "f"]

/-- The first five of these methods, with no more room than the summary needs. -/
theorem red_shows_names_ofPassed :
    Renderer.chosenNames .ofPassed = ["adds, subtracts", "a\nb", ", ", "d", "e"] ∧
    (standardSummary .ofPassed).length = 47 ∧
    ∃ r bs runs, Renderer.make ⟨2, 47, 9, .standard⟩ = .ok r ∧ r.render .ofPassed = .ok bs ∧
      bs[1]? = some (.paragraph (.strong "Red: " :: runs)) ∧
      codeTexts runs = ["adds, subtracts", "a\nb", ", ", "d", "e"] := by
  have hchosen : Renderer.chosenNames .ofPassed = ["adds, subtracts", "a\nb", ", ", "d", "e"] := rfl
  have hlength : (standardSummary .ofPassed).length = 47 := by decide +kernel
  have hne : ∀ n ∈ Renderer.chosenNames .ofPassed, n ≠ "" := by decide +kernel
  have hticks : ∀ n ∈ Renderer.chosenNames .ofPassed, tick ∉ n.toList := by decide +kernel
  obtain ⟨r, bs, runs, hr, -, hbs, hsecond, hcode⟩ :=
    red_shows_names (s := ⟨2, 47, 9, .standard⟩) rfl (Nat.le_refl 2) (by rw [hchosen]; decide) hne
      (Nat.le_of_eq hlength)
  exact ⟨hchosen, hlength, r, bs, runs, hr, hbs, hsecond, hcode.mpr hticks⟩

end CycleLog.Section
