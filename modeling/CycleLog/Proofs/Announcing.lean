import CycleLog.Proofs.Distinct
import CycleLog.Proofs.Scanning

/-!
# Names of annotated test methods

`TestMethod` is a method with its annotation lines, and `source` the text of a class made of such
methods. `testNames` finds one name for each method, but two where `@DisplayName` stands in front of
`@Test`: the first annotation is taken with its name and without the method, and the second one is
taken with the method (`testNames_source`).
-/

namespace CycleLog.Phase
set_option autoImplicit false

open Text

/-! ## Reading on -/

section Reader
variable {read : List Char → Option (Option (List Char) × List Char)}

/-- Where the reader succeeds, it leaves less than it was given. -/
def Advances (read : List Char → Option (Option (List Char) × List Char)) : Prop :=
  ∀ cs name rest, read cs = some (name, rest) → rest.length < cs.length

theorem namesBy_of_le (hread : Advances read) {fuel : Nat} {cs : List Char}
    (h : cs.length ≤ fuel) : namesBy read fuel cs = namesBy read cs.length cs := by
  -- two amounts that suffice are compared, since the readings use them up at different places
  suffices hboth : ∀ n m (cs : List Char), cs.length ≤ n → cs.length ≤ m →
      namesBy read n cs = namesBy read m cs from
    hboth fuel cs.length cs h (Nat.le_refl _)
  intro n
  induction n with
  | zero =>
    intro m cs hn hm
    obtain rfl := List.length_eq_zero_iff.mp (Nat.le_zero.mp hn)
    cases m <;> rfl
  | succ n ih =>
    intro m cs hn hm
    cases cs with
    | nil => cases m <;> rfl
    | cons c r =>
      rw [List.length_cons] at hn hm
      obtain ⟨m, rfl⟩ := Nat.exists_eq_add_one_of_ne_zero (by omega : m ≠ 0)
      simp only [namesBy]
      cases hc : read (c :: r) with
      | none => exact ih m r (by omega) (by omega)
      | some found =>
        obtain ⟨name, rest⟩ := found
        have hless := hread (c :: r) name rest hc
        rw [List.length_cons] at hless
        exact congrArg (name.toList ++ ·) (ih m rest (by omega) (by omega))

theorem namesBy_of_some (hread : Advances read) {cs rest : List Char} {name : Option (List Char)}
    (h : read cs = some (name, rest)) :
    namesBy read cs.length cs = name.toList ++ namesBy read rest.length rest := by
  have hless := hread cs name rest h
  cases cs with
  | nil => exact absurd hless (Nat.not_lt_zero _)
  | cons c r =>
    rw [List.length_cons] at hless ⊢
    simp only [namesBy, h]
    rw [namesBy_of_le hread (Nat.le_of_lt_succ hless)]

theorem namesBy_of_barren {front rest : List Char} (h : Barren read front rest) :
    namesBy read (front ++ rest).length (front ++ rest) = namesBy read rest.length rest := by
  induction front with
  | nil => rfl
  | cons c front ih =>
    obtain ⟨hc, hfront⟩ := barren_cons.mp h
    rw [List.cons_append, List.length_cons]
    simp only [namesBy, hc]
    exact ih hfront

end Reader

/-! ## What the parts of an announcement leave -/

section Suffix
variable {cs rest : List Char}

theorem suffix_of_displayName? {name : List Char} (h : displayName? cs = some (name, rest)) :
    rest <:+ cs := by
  simp only [displayName?, Option.bind_eq_bind, Option.bind_eq_some_iff, Option.some.injEq,
    Prod.mk.injEq] at h
  obtain ⟨r, hopen, ⟨w, r'⟩, hname, r'', hclose, rfl, rfl⟩ := h
  exact (suffix_of_word? hclose).trans ((suffix_of_run? hname).trans (suffix_of_word? hopen))

theorem suffix_of_pastLineEnd? (h : pastLineEnd? cs = some rest) : rest <:+ cs := by
  unfold pastLineEnd? at h
  split at h
  · obtain rfl := Option.some.inj h
    exact trimStart_suffix cs
  · cases h

theorem methodPart_suffix (cs : List Char) : (methodPart cs).2 <:+ cs := by
  unfold methodPart
  cases h : voidName? cs with
  | none => exact List.suffix_refl cs
  | some found =>
    obtain ⟨name, r⟩ := found
    simp only [voidName?, Option.bind_eq_bind, Option.bind_eq_some_iff] at h
    obtain ⟨r', hvoid, r'', hblanks, hname⟩ := h
    exact (suffix_of_run? hname).trans ((suffix_of_blanks? hblanks).trans (suffix_of_word? hvoid))

end Suffix

/-! ## Where no test is announced -/

def marks : List (List Char) := ["@Test".toList, "@DisplayName".toList]

theorem announced?_eq_none_iff {cs : List Char} :
    announced? cs = none ↔ ∀ w ∈ marks, word? w cs = none := by
  simp [announced?, marks]

theorem mark_of_announced? {cs rest : List Char} (h : announced? cs = some rest) :
    ∃ w ∈ marks, cs = w ++ rest := by
  rcases Option.or_eq_some_iff.mp h with h | ⟨-, h⟩
  · exact ⟨_, List.mem_cons_self, word?_eq_some_iff.mp h⟩
  · exact ⟨_, List.mem_cons_of_mem _ List.mem_cons_self, word?_eq_some_iff.mp h⟩

theorem length_of_announced? {cs rest : List Char} (h : announced? cs = some rest) :
    rest.length < cs.length := by
  obtain ⟨w, hw, rfl⟩ := mark_of_announced? h
  have hpos : 0 < w.length := (by decide : ∀ w ∈ marks, 0 < w.length) w hw
  rw [List.length_append]
  omega

theorem advances_announcement? : Advances announcement? := by
  intro cs name rest h
  obtain ⟨r, hword, h⟩ := Option.bind_eq_some_iff.mp h
  have hless := length_of_announced? hword
  have hrest : rest <:+ r := by
    -- with a name in quotes, or else without
    rcases Option.or_eq_some_iff.mp h with h | ⟨-, h⟩
    · simp only [Option.bind_eq_bind, Option.bind_eq_some_iff, Option.some.injEq,
        Prod.mk.injEq] at h
      obtain ⟨⟨name', after⟩, hname, after', hline, -, rfl⟩ := h
      exact (methodPart_suffix after').trans ((suffix_of_pastLineEnd? hline).trans
        ((suffix_of_displayName? hname).trans (trimStart_suffix r)))
    · simp only [Option.bind_eq_bind, Option.bind_eq_some_iff, Option.some.injEq] at h
      obtain ⟨after, hline, hpart⟩ := h
      have hsuffix := methodPart_suffix after
      rw [hpart] at hsuffix
      exact hsuffix.trans (suffix_of_pastLineEnd? hline)
  exact Nat.lt_of_le_of_lt hrest.length_le hless

theorem announcement?_eq_none {cs : List Char} (h : announced? cs = none) :
    announcement? cs = none := by
  simp [announcement?, h]

def Unannounced (cs : List Char) : Prop := ∀ w ∈ marks, ¬ w <:+: cs

instance (cs : List Char) : Decidable (Unannounced cs) :=
  inferInstanceAs (Decidable (∀ w ∈ marks, ¬ w <:+: cs))

/-- The text begins as a method does: with its indentation or with an annotation. -/
def MethodStart (cs : List Char) : Prop := ∀ c ∈ cs.head?, c = '@' ∨ isBlank c = true

theorem barren_of_unannounced {front rest : List Char} (hfront : Unannounced front)
    (hrest : MethodStart rest) : Barren announcement? front rest := by
  intro a b hab hb
  refine announcement?_eq_none (announced?_eq_none_iff.mpr fun w hw => ?_)
  refine barren_word (hfront w hw) (fun c hc htail => ?_) a b hab hb
  have hmark : ∀ w ∈ marks, (w.tail.all fun c => c != '@' && !isBlank c) = true := by decide
  have hall := List.all_eq_true.mp (hmark w hw) c htail
  obtain ⟨hat, hblank⟩ : c ≠ '@' ∧ isBlank c = false := by simpa using hall
  rcases hrest c hc with rfl | h
  · exact hat rfl
  · rw [hblank] at h
    cases h

theorem unannounced_of_blank {cs : List Char} (h : ∀ c ∈ cs, isBlank c = true) :
    Unannounced cs := by
  intro w hw hoccurs
  have hat : '@' ∈ w := (by decide : ∀ w ∈ marks, '@' ∈ w) w hw
  exact absurd (h '@' (hoccurs.subset hat)) (by decide)

/-! ## Annotated methods -/

/-- Blanks among which a line ends. -/
structure LineBreak where
  blanks : List Char
  blank : ∀ c ∈ blanks, isBlank c = true
  line : '\n' ∈ blanks

structure DisplayName where
  name : List Char
  named : name ≠ []
  unquoted : '"' ∉ name

inductive Annotations where
  | test
  | display (d : DisplayName)
  | testDisplay (between : LineBreak) (d : DisplayName)
  | displayTest (d : DisplayName) (between : LineBreak)

/-- A test method. The blanks between `void` and the name go as far as they can, and the body has no
annotation of its own. -/
structure TestMethod where
  indent : List Char
  indented : ∀ c ∈ indent, isBlank c = true
  annotations : Annotations
  gap : LineBreak
  space : List Char
  spaced : space ≠ []
  name : List Char
  apart : Stretch isBlank space name
  named : name ≠ []
  word : ∀ c ∈ name, isWordChar c = true
  body : List Char
  unannounced : Unannounced body

def DisplayName.quoted (d : DisplayName) : List Char := ['(', '"'] ++ (d.name ++ ['"', ')'])

def DisplayName.text (d : DisplayName) : List Char := "@DisplayName".toList ++ d.quoted

def Annotations.text : Annotations → List Char
  | test => "@Test".toList
  | display d => d.text
  | testDisplay between d => "@Test".toList ++ (between.blanks ++ d.text)
  | displayTest d between => d.text ++ (between.blanks ++ "@Test".toList)

def TestMethod.signature (m : TestMethod) : List Char :=
  ['v', 'o', 'i', 'd'] ++ (m.space ++ (m.name ++ ['(', ')']))

def TestMethod.text (m : TestMethod) : List Char :=
  m.indent ++ (m.annotations.text ++ (m.gap.blanks ++ (m.signature ++ m.body)))

def source (ms : List TestMethod) : String := String.ofList (ms.flatMap TestMethod.text)

/-! ## Names of a method -/

/-- The name in quotes, or else the name of the method. -/
def TestMethod.properName (m : TestMethod) : List Char :=
  match m.annotations with
  | .test => m.name
  | .display d | .testDisplay _ d | .displayTest d _ => d.name

/-- `@DisplayName` stands in front of `@Test`. -/
def TestMethod.DisplayFirst (m : TestMethod) : Prop :=
  ∃ d between, m.annotations = .displayTest d between

/-- The names that are found for a method. A second one is found where `@DisplayName` stands in front
of `@Test`. -/
def TestMethod.foundNames (m : TestMethod) : List (List Char) :=
  match m.annotations with
  | .displayTest d _ => [d.name, m.name]
  | _ => [m.properName]

theorem TestMethod.foundNames_of_not_displayFirst {m : TestMethod} (h : ¬ m.DisplayFirst) :
    m.foundNames = [m.properName] := by
  unfold foundNames
  split
  · next d between hm => exact absurd ⟨d, between, hm⟩ h
  · rfl

theorem TestMethod.properName_mem_foundNames (m : TestMethod) : m.properName ∈ m.foundNames := by
  unfold foundNames properName
  cases m.annotations <;> simp

/-! ## One annotation -/

/-- The text begins as a line behind an annotation does. -/
def LineStart (cs : List Char) : Prop := ∃ r, cs = 'v' :: r ∨ cs = '@' :: r

section Annotation
variable {after : List Char}

theorem LineStart.stretch (h : LineStart after) (gap : LineBreak) :
    Stretch isBlank gap.blanks after := by
  refine ⟨gap.blank, ?_⟩
  obtain ⟨r, rfl | rfl⟩ := h
  · simp; decide
  · simp; decide

theorem LineStart.displayName?_eq_none (h : LineStart after) : displayName? after = none := by
  obtain ⟨r, rfl | rfl⟩ := h <;> simp [displayName?, word?]

theorem pastLineEnd?_gap (gap : LineBreak) (h : LineStart after) :
    pastLineEnd? (gap.blanks ++ after) = some after := by
  unfold pastLineEnd?
  rw [(h.stretch gap).takeWhile_eq, trimStart_append (h.stretch gap)]
  simp [gap.line]

theorem announced?_test (rest : List Char) : announced? ("@Test".toList ++ rest) = some rest := by
  rw [announced?, word?_eq_some_iff.mpr rfl, Option.some_or]

theorem announced?_display (rest : List Char) :
    announced? ("@DisplayName".toList ++ rest) = some rest := by
  have htest : word? "@Test".toList ("@DisplayName".toList ++ rest) = none := rfl
  rw [announced?, htest, Option.none_or, word?_eq_some_iff]

theorem displayName?_quoted (d : DisplayName) (rest : List Char) :
    displayName? (d.quoted ++ rest) = some (d.name, rest) := by
  have hopen : word? ['(', '"'] (d.quoted ++ rest) = some (d.name ++ (['"', ')'] ++ rest)) := by
    rw [word?_eq_some_iff, DisplayName.quoted, List.append_assoc, List.append_assoc]
  have hname : run? (· != '"') (d.name ++ (['"', ')'] ++ rest)) =
      some (d.name, ['"', ')'] ++ rest) := by
    refine run?_eq_some_iff.mpr ⟨rfl, d.named, ?_, by simp⟩
    intro c hc
    have hne : c ≠ '"' := fun h => d.unquoted (h ▸ hc)
    simpa using hne
  have hclose : word? ['"', ')'] (['"', ')'] ++ rest) = some rest := word?_eq_some_iff.mpr rfl
  simp only [displayName?, hopen, hname, hclose, Option.bind_eq_bind, Option.bind_some]

theorem announcement?_test (gap : LineBreak) (h : LineStart after) :
    announcement? ("@Test".toList ++ (gap.blanks ++ after)) = some (methodPart after) := by
  simp only [announcement?, announced?_test, trimStart_append (h.stretch gap),
    h.displayName?_eq_none, pastLineEnd?_gap gap h, Option.bind_eq_bind, Option.bind_some,
    Option.bind_none, Option.none_or]

theorem announcement?_display (d : DisplayName) (gap : LineBreak) (h : LineStart after) :
    announcement? (d.text ++ (gap.blanks ++ after)) = some (some d.name, (methodPart after).2) := by
  have htrim : trimStart (d.quoted ++ (gap.blanks ++ after)) = d.quoted ++ (gap.blanks ++ after) :=
    trimStart_of_not_blank (by decide)
  have htext : d.text ++ (gap.blanks ++ after) =
      "@DisplayName".toList ++ (d.quoted ++ (gap.blanks ++ after)) := List.append_assoc _ _ _
  rw [htext]
  simp only [announcement?, announced?_display, htrim, displayName?_quoted, pastLineEnd?_gap gap h,
    Option.bind_eq_bind, Option.bind_some, Option.some_or]

theorem announcedNames_test (gap : LineBreak) (h : LineStart after) :
    announcedNames ("@Test".toList ++ (gap.blanks ++ after)) =
      (methodPart after).1.toList ++ announcedNames (methodPart after).2 :=
  namesBy_of_some advances_announcement? (announcement?_test gap h)

theorem announcedNames_display (d : DisplayName) (gap : LineBreak) (h : LineStart after) :
    announcedNames (d.text ++ (gap.blanks ++ after)) =
      d.name :: announcedNames (methodPart after).2 :=
  namesBy_of_some advances_announcement? (announcement?_display d gap h)

theorem methodPart_annotation (r : List Char) : methodPart ('@' :: r) = (none, '@' :: r) := by
  simp [methodPart, voidName?, word?]

theorem methodPart_signature (m : TestMethod) (rest : List Char) :
    methodPart (m.signature ++ rest) = (some m.name, ['(', ')'] ++ rest) := by
  have hvoid : word? ['v', 'o', 'i', 'd'] (m.signature ++ rest) =
      some (m.space ++ (m.name ++ (['(', ')'] ++ rest))) := by
    simp only [word?_eq_some_iff, TestMethod.signature, List.append_assoc]
  have hblanks : blanks? (m.space ++ (m.name ++ (['(', ')'] ++ rest))) =
      some (m.name ++ (['(', ')'] ++ rest)) := by
    refine blanks?_eq_some_iff.mpr ⟨m.space, rfl, m.spaced, m.apart.inside, ?_⟩
    obtain ⟨c, w, hname⟩ := List.exists_cons_of_ne_nil m.named
    have hc := m.apart.boundary c (by rw [hname]; rfl)
    rw [hname]
    simpa using hc
  have hname : run? isWordChar (m.name ++ (['(', ')'] ++ rest)) =
      some (m.name, ['(', ')'] ++ rest) := by
    refine run?_eq_some_iff.mpr ⟨rfl, m.named, m.word, ?_⟩
    simp; decide
  simp only [methodPart, voidName?, hvoid, hblanks, hname, Option.bind_eq_bind, Option.bind_some]

end Annotation

/-! ## One method -/

theorem announcedNames_annotations (m : TestMethod) (rest : List Char) :
    announcedNames (m.annotations.text ++ (m.gap.blanks ++ (m.signature ++ rest))) =
      m.foundNames ++ announcedNames (['(', ')'] ++ rest) := by
  have hline : LineStart (m.signature ++ rest) := ⟨_, .inl rfl⟩
  have hpart := methodPart_signature m rest
  unfold TestMethod.foundNames TestMethod.properName
  cases m.annotations with
  | test =>
    rw [Annotations.text, announcedNames_test m.gap hline, hpart]
    rfl
  | display d =>
    rw [Annotations.text, announcedNames_display d m.gap hline, hpart]
    rfl
  | testDisplay between d =>
    have hdisplay : LineStart (d.text ++ (m.gap.blanks ++ (m.signature ++ rest))) := ⟨_, .inr rfl⟩
    have hnone : methodPart (d.text ++ (m.gap.blanks ++ (m.signature ++ rest))) =
        (none, d.text ++ (m.gap.blanks ++ (m.signature ++ rest))) := methodPart_annotation _
    rw [Annotations.text, List.append_assoc, List.append_assoc,
      announcedNames_test between hdisplay, hnone, announcedNames_display d m.gap hline, hpart]
    rfl
  | displayTest d between =>
    have htest : LineStart ("@Test".toList ++ (m.gap.blanks ++ (m.signature ++ rest))) :=
      ⟨_, .inr rfl⟩
    have hnone : methodPart ("@Test".toList ++ (m.gap.blanks ++ (m.signature ++ rest))) =
        (none, "@Test".toList ++ (m.gap.blanks ++ (m.signature ++ rest))) := methodPart_annotation _
    rw [Annotations.text, List.append_assoc, List.append_assoc,
      announcedNames_display d between htest, hnone, announcedNames_test m.gap hline, hpart]
    rfl

theorem methodStart_annotations (m : TestMethod) (rest : List Char) :
    MethodStart (m.annotations.text ++ rest) := by
  intro c hc
  left
  cases h : m.annotations <;> rw [h] at hc <;> exact (Option.some.inj hc).symm

theorem methodStart_text (m : TestMethod) (rest : List Char) : MethodStart (m.text ++ rest) := by
  intro c hc
  rw [TestMethod.text] at hc
  cases h : m.indent with
  | nil =>
    rw [h, List.nil_append, List.append_assoc] at hc
    exact methodStart_annotations m _ c hc
  | cons b indent =>
    rw [h] at hc
    obtain rfl : b = c := Option.some.inj hc
    exact .inr (m.indented b (by simp [h]))

theorem announcedNames_text (m : TestMethod) {rest : List Char} (h : MethodStart rest) :
    announcedNames (m.text ++ rest) = m.foundNames ++ announcedNames rest := by
  have hindent : Barren announcement? m.indent
      (m.annotations.text ++ (m.gap.blanks ++ (m.signature ++ (m.body ++ rest)))) :=
    barren_of_unannounced (unannounced_of_blank m.indented) (methodStart_annotations m _)
  -- the search goes on in front of the parentheses, so they are passed over together with the body
  have hbody : Barren announcement? (['(', ')'] ++ m.body) rest := by
    refine barren_cons.mpr ⟨announcement?_eq_none (by simp [announced?, word?]), ?_⟩
    refine barren_cons.mpr ⟨announcement?_eq_none (by simp [announced?, word?]), ?_⟩
    exact barren_of_unannounced m.unannounced h
  calc announcedNames (m.text ++ rest)
      = announcedNames (m.indent ++
          (m.annotations.text ++ (m.gap.blanks ++ (m.signature ++ (m.body ++ rest))))) := by
        simp only [TestMethod.text, List.append_assoc]
    _ = announcedNames (m.annotations.text ++ (m.gap.blanks ++ (m.signature ++ (m.body ++ rest)))) :=
        namesBy_of_barren hindent
    _ = m.foundNames ++ announcedNames ((['(', ')'] ++ m.body) ++ rest) := by
        rw [announcedNames_annotations, List.append_assoc]
    _ = m.foundNames ++ announcedNames rest :=
        congrArg (m.foundNames ++ ·) (namesBy_of_barren hbody)

/-! ## All methods -/

theorem methodStart_flatMap (ms : List TestMethod) : MethodStart (ms.flatMap TestMethod.text) := by
  cases ms with
  | nil =>
    intro c hc
    cases hc
  | cons m ms => exact methodStart_text m _

theorem announcedNames_flatMap (ms : List TestMethod) :
    announcedNames (ms.flatMap TestMethod.text) = ms.flatMap TestMethod.foundNames := by
  induction ms with
  | nil => rfl
  | cons m ms ih =>
    rw [List.flatMap_cons, List.flatMap_cons, announcedNames_text m (methodStart_flatMap ms), ih]

theorem distinct_names (l : List (List Char)) : distinct l = l.eraseDups := by
  rw [distinct_eq_eraseDups, lawful_beq_subsingleton instBEqOfDecidableEq List.instBEq]

theorem testNames_of_announced (ms : List TestMethod) : testNames (source ms) =
    ((ms.flatMap TestMethod.foundNames).eraseDups).map String.ofList := by
  cases ms with
  | nil => rfl
  | cons m ms =>
    have hne : distinct ((m :: ms).flatMap TestMethod.foundNames) ≠ [] := by
      intro h
      rw [distinct_eq_eraseDups, eraseDups_eq_nil_iff] at h
      have hnil := List.flatMap_eq_nil_iff.mp h m List.mem_cons_self
      exact List.ne_nil_of_mem m.properName_mem_foundNames hnil
    simp only [testNames, source, String.toList_ofList, announcedNames_flatMap]
    rw [if_neg hne, distinct_names]

/-- In the source of a sequence of test methods the names that are found are those of the methods,
one after the other, each kept where it first occurs: for a method its name in quotes, or else its own
name, and both where `@DisplayName` stands in front of `@Test`. -/
theorem testNames_source (ms : List TestMethod) :
    testNames (source ms) = ((ms.flatMap TestMethod.foundNames).eraseDups).map String.ofList ∧
    ((∀ m ∈ ms, ¬ m.DisplayFirst) →
      testNames (source ms) = ((ms.map TestMethod.properName).eraseDups).map String.ofList) := by
  refine ⟨testNames_of_announced ms, fun h => ?_⟩
  have hfound : ms.flatMap TestMethod.foundNames = ms.map TestMethod.properName := by
    rw [List.map_eq_flatMap, List.flatMap_def, List.flatMap_def,
      List.map_congr_left fun m hm => TestMethod.foundNames_of_not_displayFirst (h m hm)]
  rw [testNames_of_announced, hfound]

def LineBreak.bare : LineBreak := ⟨['\n'], List.all_eq_true.mp (by decide), by decide⟩

/-- A method whose display name stands first. -/
def TestMethod.ofAdds : TestMethod where
  indent := []
  indented := by simp
  annotations := .displayTest ⟨"adds".toList, by decide, by decide⟩ .bare
  gap := .bare
  space := [' ']
  spaced := by decide
  name := "add".toList
  apart := ⟨List.all_eq_true.mp (by decide), by simp; decide⟩
  named := by decide
  word := List.all_eq_true.mp (by decide)
  body := " \x7b\x7d\n".toList
  unannounced := by decide

theorem testNames_of_displayFirst :
    source [TestMethod.ofAdds] = "@DisplayName(\"adds\")\n@Test\nvoid add() \x7b\x7d\n" ∧
    TestMethod.ofAdds.properName = "adds".toList ∧
    testNames "@DisplayName(\"adds\")\n@Test\nvoid add() \x7b\x7d\n" = ["adds", "add"] := by
  refine ⟨by decide +kernel, rfl, by decide +kernel⟩

end CycleLog.Phase
