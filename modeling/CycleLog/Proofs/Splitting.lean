import CycleLog.Proofs.Bounds
import Mathlib.Data.List.Chain

/-!
# How a paragraph is split

What the spans of a text are, beyond that they put together give the text: no span is empty, code has
no backtick in it, plain text is not cut in two (`isChain_spansFrom`) and has no code in it. The last is
`uncoded_of_plain_mem`: code is looked for at every place of a plain span, with all that follows in
view. Where a text was cut, the ellipsis stands in plain text at the end (`plain_last_spans`).
-/

namespace CycleLog.Section
set_option autoImplicit false

open Page Text

/-! ## Single spans -/

def Span.isCode : Span → Bool
  | .plain _ => false
  | .code _ => true

theorem content_ne_nil_of_mem {back cs : List Char} {fuel : Nat} {sp : Span}
    (h : sp ∈ spansFrom back fuel cs) : sp.content ≠ [] := by
  rcases mem_spansFrom h with ⟨l, rfl, hne⟩ | ⟨text, code, rest, hcode, rfl⟩
  · exact hne
  · exact codeAt?_ne_nil hcode

theorem tick_notMem_of_code_mem {back cs code : List Char} {fuel : Nat}
    (h : .code code ∈ spansFrom back fuel cs) : tick ∉ code := by
  rcases mem_spansFrom h with ⟨l, hl, -⟩ | ⟨text, code', rest, hcode, heq⟩
  · cases hl
  · obtain rfl := Span.code.inj heq
    exact tick_notMem_of_codeAt? hcode

/-- A stretch in front of `rest` at no place of which code begins. -/
def Uncoded (front rest : List Char) : Prop :=
  ∀ a b, front = a ++ b → b ≠ [] → codeAt? (b ++ rest) = none

theorem uncoded_nil (rest : List Char) : Uncoded ([] : List Char).reverse rest := by
  intro a b hab hb
  exact absurd (List.append_eq_nil_iff.mp hab.symm).2 hb

theorem Uncoded.not_infix {l rest : List Char} (h : Uncoded l rest) {code : List Char}
    (hne : code ≠ []) (htick : tick ∉ code) : ¬ (tick :: code ++ [tick]) <:+: l := by
  rintro ⟨a, b, rfl⟩
  have hcode : codeAt? (tick :: code ++ [tick] ++ b ++ rest) = some (code, b ++ rest) :=
    codeAt?_eq_some_iff.mpr ⟨by simp, hne, htick⟩
  rw [h a (tick :: code ++ [tick] ++ b) (by simp) (by simp)] at hcode
  cases hcode

theorem Uncoded.concat {front rest : List Char} {c : Char} (h : Uncoded front (c :: rest))
    (hc : codeAt? (c :: rest) = none) : Uncoded (front ++ [c]) rest := by
  intro a b heq hb
  obtain ⟨b', d, rfl⟩ := (List.eq_nil_or_concat' b).resolve_left hb
  rw [← List.append_assoc] at heq
  obtain ⟨hfront, hd⟩ := List.append_inj' heq rfl
  obtain rfl := (List.cons.inj hd).1
  rw [List.append_assoc, List.singleton_append]
  by_cases hnil : b' = []
  · rw [hnil]
    exact hc
  · exact h a b' hfront hnil

theorem uncoded_of_plain_mem {back cs l : List Char} {fuel : Nat} (hfuel : cs.length ≤ fuel)
    (h : Uncoded back.reverse cs) (hl : .plain l ∈ spansFrom back fuel cs) : ∃ rest, Uncoded l rest := by
  -- what has been gone through since the last code is uncoded in front of what is left
  induction fuel generalizing back cs with
  | zero =>
    obtain rfl := List.eq_nil_of_length_eq_zero (Nat.le_zero.mp hfuel)
    obtain rfl := Span.plain.inj (mem_plainSpan hl).1
    exact ⟨[], h⟩
  | succ fuel ih =>
    cases cs with
    | nil =>
      obtain rfl := Span.plain.inj (mem_plainSpan hl).1
      exact ⟨[], h⟩
    | cons c r =>
      rw [List.length_cons] at hfuel
      rw [spansFrom] at hl
      cases hc : codeAt? (c :: r) with
      | none =>
        rw [hc] at hl
        refine ih (by omega) ?_ hl
        rw [List.reverse_cons]
        exact h.concat hc
      | some x =>
        obtain ⟨code, rest⟩ := x
        rw [hc] at hl
        rcases List.mem_append.mp hl with hl | hl
        · obtain rfl := Span.plain.inj (mem_plainSpan hl).1
          exact ⟨c :: r, h⟩
        · have hlength := congrArg List.length (codeAt?_eq_some_iff.mp hc).1
          simp only [List.length_append, List.length_cons] at hlength
          have hlater : .plain l ∈ spansFrom [] fuel rest :=
            (List.mem_cons.mp hl).resolve_left (by simp)
          exact ih (by omega) (uncoded_nil rest) hlater

/-! ## Neighbours -/

/-- One of two neighbours is code, so that plain text is not cut in two. -/
def Span.Alternate (a b : Span) : Prop := a.isCode ∨ b.isCode

theorem isChain_plainSpan (back : List Char) : (plainSpan back).IsChain Span.Alternate := by
  unfold plainSpan
  split
  · exact List.IsChain.nil
  · exact List.IsChain.singleton _

theorem isChain_spansFrom (back : List Char) (fuel : Nat) (cs : List Char) :
    (spansFrom back fuel cs).IsChain Span.Alternate := by
  induction fuel generalizing back cs with
  | zero => exact isChain_plainSpan _
  | succ fuel ih =>
    cases cs with
    | nil => exact isChain_plainSpan _
    | cons c r =>
      rw [spansFrom]
      cases codeAt? (c :: r) with
      | none => exact ih (c :: back) r
      | some x =>
        refine (isChain_plainSpan back).append ?_ fun a _ b hb => ?_
        · exact List.isChain_cons.mpr ⟨fun b _ => .inl rfl, ih [] x.2⟩
        · obtain rfl := Option.some.inj hb
          exact .inr rfl

/-! ## The end of a cut text -/

/-- In front of plain text at the end stands nothing, or the backtick that ends code. -/
theorem source_before_plain {front : List Span} {l : List Char}
    (h : (front ++ [Span.plain l]).IsChain Span.Alternate) :
    front.flatMap Span.source = [] ∨ ∃ cs, front.flatMap Span.source = cs ++ [tick] := by
  rcases List.eq_nil_or_concat' front with rfl | ⟨front, sp, rfl⟩
  · exact .inl rfl
  · have hcode := (List.isChain_append.mp h).2.2 sp (by simp) (.plain l) rfl
    cases sp with
    | plain k => exact (hcode.elim Bool.false_ne_true Bool.false_ne_true).elim
    | code k =>
      refine .inr ⟨front.flatMap Span.source ++ tick :: k, ?_⟩
      rw [List.flatMap_append, List.flatMap_singleton, Span.source, List.append_assoc]

/-- Where a text was cut, it ends in plain text, and with an ellipsis. -/
theorem plain_last_spans {cs : List Char} {max : Nat} (h : max < cs.length) :
    ∃ front l, spans (cutList cs max) = front ++ [.plain l] ∧ ellipsis <:+ l := by
  have hsource := flatMap_source_spans (cutList cs max)
  have hchain : (spans (cutList cs max)).IsChain Span.Alternate := isChain_spansFrom _ _ _
  generalize spans (cutList cs max) = ss at hsource hchain ⊢
  have hcut : cutList cs max = cs.take max ++ ellipsis := by rw [cutList, if_neg (by omega)]
  rcases List.eq_nil_or_concat' ss with rfl | ⟨front, sp, rfl⟩
  · rw [hcut] at hsource
    exact absurd (List.append_eq_nil_iff.mp hsource.symm).2 (by decide)
  rw [List.flatMap_append, List.flatMap_singleton] at hsource
  cases sp with
  | code l =>
    -- a text that ends with code ends with a backtick
    have hend : cutList cs max = (front.flatMap Span.source ++ tick :: l) ++ [tick] := by
      rw [← hsource, Span.source, List.append_assoc]
    exact absurd hend (tick_ne_last_cutList h)
  | plain l =>
    refine ⟨front, l, rfl, ?_⟩
    rw [Span.source, hcut] at hsource
    rcases List.append_eq_append_iff.mp hsource with ⟨c, -, hl⟩ | ⟨c, hfront, hdots⟩
    · exact ⟨c, hl.symm⟩
    · rcases List.eq_nil_or_concat' c with rfl | ⟨c, d, rfl⟩
      · exact ⟨[], hdots⟩
      · -- the backtick in front of the plain text would be a point
        have hd : d = '.' := by
          have hmem : d ∈ ellipsis := by rw [hdots]; simp
          simpa [ellipsis] using hmem
        rcases source_before_plain hchain with hnil | ⟨k, hk⟩
        · rw [hnil] at hfront
          simp at hfront
        · rw [hk, ← List.append_assoc] at hfront
          have htick := (List.append_inj' hfront rfl).2
          rw [hd] at htick
          exact absurd htick (by decide)

/-! ## Paragraphs -/

/-- The run that shows a span, whatever its length. -/
def Span.run : Span → Run
  | .plain cs => .plain (String.ofList cs)
  | .code cs => .mono (String.ofList cs)

theorem Renderer.spanRun_eq (r : Renderer) {cs : List Char} {sp : Span}
    (h : sp ∈ spans (cutList cs r.maxText)) : r.spanRun sp = sp.run := by
  have hstyle : r.spanRun sp = { sp.run with content := (r.spanRun sp).content } := by
    cases sp <;> rfl
  rw [hstyle, r.content_spanRun h]
  cases sp <;> rfl

/-- The spans of a paragraph. Put together they are the text, cut to what is allowed; none is empty,
code is without backticks, plain text stands between code and has none in it. No span is cut again, so
that the paragraph shows the title and the spans, as many as there is room for; and a text that was too
long ends in plain text with an ellipsis. -/
theorem paragraph_shows_spans (r : Renderer) (title : Option String) (text : String) :
    let pieces := spans (cut text r.maxText).toList
    pieces.flatMap Span.source = (cut text r.maxText).toList ∧
    (∀ sp ∈ pieces, sp.content ≠ []) ∧
    (∀ cs, .code cs ∈ pieces → tick ∉ cs) ∧
    pieces.IsChain Span.Alternate ∧
    (∀ cs, .plain cs ∈ pieces → ∀ code, code ≠ [] → tick ∉ code →
      ¬ (tick :: code ++ [tick]) <:+: cs) ∧
    (∀ sp ∈ pieces, r.spanRun sp = sp.run) ∧
    r.paragraph title text = .paragraph
      ((title.toList.map (fun t => Run.strong (cut t r.maxText)) ++ pieces.map Span.run).take 100) ∧
    (r.maxText < text.length →
      ∃ front cs, pieces = front ++ [.plain cs] ∧ "...".toList <:+ cs) := by
  intro pieces
  have hpieces : pieces = spans (cutList text.toList r.maxText) :=
    congrArg spans String.toList_ofList
  have hruns : ∀ sp ∈ pieces, r.spanRun sp = sp.run := fun sp hsp =>
    r.spanRun_eq (hpieces ▸ hsp)
  refine ⟨flatMap_source_spans _, fun sp => content_ne_nil_of_mem, fun cs => tick_notMem_of_code_mem,
    isChain_spansFrom _ _ _, fun cs hcs code hne htick => ?_, hruns, ?_, fun hlong => ?_⟩
  · obtain ⟨rest, hrest⟩ := uncoded_of_plain_mem (Nat.le_refl _) (uncoded_nil _) hcs
    exact hrest.not_infix hne htick
  · unfold Renderer.paragraph Renderer.paragraphRuns
    rw [← hpieces, List.map_congr_left hruns]
    rfl
  · rw [hpieces]
    exact plain_last_spans hlong

end CycleLog.Section
