import Mathlib.Data.List.DropRight
import CycleLog.Proofs.Scanning
import CycleLog.Proofs.Success
import CycleLog.Section.Render
import CycleLog.Trigger.Subject

/-!
# The subject of a command

`SelectsFirst` says which name a command selects first, apart from how it is searched for. The subject
is what stands behind the last point of that name. A name may end with a point, as in a selection of all
tests of a package; then nothing stands behind it and the subject is empty, and in no other case
(`subject_is_last_segment`).
-/

namespace CycleLog

/-! ## Headings -/

namespace Section
set_option autoImplicit false

theorem phrase_of_plainText? {source : String} {ns : List Template.Node}
    {names : List (String × String)} {t : String}
    (h : (ns.mapM (Template.Node.plainText? names)).map (·.foldr (· ++ ·) "") = some t) :
    phrase source ns names = .ok t := by
  rw [phrase, Template.render_of_plainText? h]

theorem phrase_standardHeading (source subject stamp : String) :
    phrase source [.output (.var "subject"), .text " (", .output (.var "timestamp"), .text ")"]
      [("subject", subject), ("timestamp", stamp)] = .ok (subject ++ " (" ++ stamp ++ ")") :=
  phrase_of_plainText? (by simp [Template.Node.plainText?, List.lookup_cons, String.append_assoc])

/-- The standard heading begins with the subject. -/
theorem headingBlock_standard {s : Settings} {r : Renderer} (c : Cycle) (hr : Renderer.make s = .ok r)
    (hs : s.phrases.heading = Phrases.standard.heading) : r.headingBlock c =
      .ok (.heading [r.run (.plain (c.subject ++ " (" ++ c.stamp ++ ")"))]) := by
  obtain ⟨heading, hheading, hr⟩ := bind_eq_ok_iff.mp hr
  obtain ⟨red, -, hr⟩ := bind_eq_ok_iff.mp hr
  obtain ⟨file, -, hr⟩ := bind_eq_ok_iff.mp hr
  obtain rfl := Except.ok.inj hr
  have hnodes : template "heading" Phrases.standard.heading =
      .ok [.output (.var "subject"), .text " (", .output (.var "timestamp"), .text ")"] := rfl
  rw [hs, hnodes] at hheading
  obtain rfl := Except.ok.inj hheading
  unfold Renderer.headingBlock
  rw [phrase_standardHeading]
  rfl

end Section

namespace Trigger
set_option autoImplicit false

open Text

/-! ## Selectors -/

/-- A selector of that name stands at the front: `--tests`, blanks, a quote and a star that may be left
out, and a name as long as it goes. -/
def SelectorAt (cs name : List Char) : Prop :=
  ∃ blanks quote star rest,
    cs = "--tests".toList ++ (blanks ++ (quote ++ (star ++ (name ++ rest)))) ∧
    blanks ≠ [] ∧ (∀ c ∈ blanks, isBlank c = true) ∧
    (quote = [] ∨ quote = ['"']) ∧ (star = [] ∨ star = ['*']) ∧
    name ≠ [] ∧ Stretch isSelectorChar name rest

/-- The selector that stands first in a command has that name. -/
def SelectsFirst (command name : List Char) : Prop :=
  ∃ front rest, command = front ++ rest ∧ SelectorAt rest name ∧
    ∀ a b, front = a ++ b → b ≠ [] → ∀ other, ¬ SelectorAt (b ++ rest) other

/-- A name that is selected has characters, all of them such as a name may have. -/
theorem SelectsFirst.name {command name : List Char} (h : SelectsFirst command name) :
    name ≠ [] ∧ ∀ c ∈ name, isSelectorChar c = true := by
  obtain ⟨front, rest, -, hat, -⟩ := h
  obtain ⟨blanks, quote, star, behind, -, -, -, -, -, hne, hstretch⟩ := hat
  exact ⟨hne, hstretch.inside⟩

theorem isBlank_of_isSelectorChar {c : Char} (h : isSelectorChar c = true) : isBlank c = false := by
  have hrange : 46 ≤ c.toNat ∧ c.toNat ≤ 122 := by
    have hbetween (lo hi : UInt32) (h : lo ≤ c.val ∧ c.val ≤ hi) :
        lo.toNat ≤ c.toNat ∧ c.toNat ≤ hi.toNat :=
      h.imp UInt32.le_iff_toNat_le.mp UInt32.le_iff_toNat_le.mp
    simp only [isSelectorChar, isAsciiWord, Char.isAlphanum, Bool.or_eq_true, beq_iff_eq] at h
    rcases h with ((h | h) | rfl) | rfl
    · rcases Bool.or_eq_true_iff.mp h with h | h
      · have : 65 ≤ c.toNat ∧ c.toNat ≤ 90 := hbetween 65 90 (of_decide_eq_true h)
        omega
      · have : 97 ≤ c.toNat ∧ c.toNat ≤ 122 :=
          hbetween 97 122 ((Bool.and_eq_true_iff.mp h).imp of_decide_eq_true of_decide_eq_true)
        omega
    · have : 48 ≤ c.toNat ∧ c.toNat ≤ 57 :=
        hbetween 48 57 ((Bool.and_eq_true_iff.mp h).imp of_decide_eq_true of_decide_eq_true)
      omega
    · decide
    · decide
  simp only [isBlank, Bool.or_eq_false_iff, Bool.and_eq_false_iff, decide_eq_false_iff_not,
    beq_eq_false_iff_ne]
  omega

theorem selectorAt?_eq_some_iff {cs name : List Char} :
    selectorAt? cs = some name ↔ SelectorAt cs name := by
  unfold selectorAt?
  simp only [Option.bind_eq_bind, Option.bind_eq_some_iff]
  constructor
  · rintro ⟨r, hword, r', hblanks, ⟨w, rest⟩, hrun, hname⟩
    obtain rfl := Option.some.inj hname
    obtain ⟨blanks, rfl, hne, hs⟩ := blanks?_eq_some_iff.mp hblanks
    obtain ⟨hsplit, hwne, hstretch⟩ := run?_eq_some_iff.mp hrun
    obtain ⟨quote, hquote, hr'⟩ := skipOne_split '"' r'
    obtain ⟨star, hstar, hr''⟩ := skipOne_split '*' (skipOne '"' r')
    rw [hsplit] at hr''
    rw [hr''] at hr'
    rw [hr'] at hword
    exact ⟨blanks, quote, star, rest, word?_eq_some_iff.mp hword, hne, hs.inside, hquote, hstar,
      hwne, hstretch⟩
  · rintro ⟨blanks, quote, star, rest, rfl, hne, hblanks, hquote, hstar, hname, hstretch⟩
    -- the name begins with none of the characters that may be left out, so each reader stops in time
    obtain ⟨c, w, rfl⟩ := List.exists_cons_of_ne_nil hname
    have hc := hstretch.inside c List.mem_cons_self
    have hstarHead : (c :: w ++ rest).head? ≠ some '*' := by
      rintro h
      obtain rfl : c = '*' := Option.some.inj h
      exact absurd hc (by decide)
    have hquoteHead : (star ++ (c :: w ++ rest)).head? ≠ some '"' := by
      rcases hstar with rfl | rfl
      · rintro h
        obtain rfl : c = '"' := Option.some.inj h
        exact absurd hc (by decide)
      · simp
    have hs : Stretch isBlank blanks (quote ++ (star ++ (c :: w ++ rest))) := by
      refine ⟨hblanks, ?_⟩
      rcases hquote with rfl | rfl
      · rcases hstar with rfl | rfl
        · simpa using isBlank_of_isSelectorChar hc
        · simp; decide
      · simp; decide
    refine ⟨_, word?_eq_some_iff.mpr rfl, _, blanks?_eq_some_iff.mpr ⟨blanks, rfl, hne, hs⟩,
      (c :: w, rest), ?_, rfl⟩
    rw [skipOne_append hquote hquoteHead, skipOne_append hstar hstarHead]
    exact run?_eq_some_iff.mpr ⟨rfl, hname, hstretch⟩

theorem selector?_eq_some_iff {command name : List Char} :
    selector? command = some name ↔ SelectsFirst command name := by
  unfold selector? SelectsFirst
  rw [firstAt?_eq_some_iff]
  unfold Barren
  simp only [selectorAt?_eq_some_iff, Option.eq_none_iff_forall_ne_some, ne_eq]

/-! ## Segments -/

/-- What stands behind the last point of a name, or the name if it has no point. -/
def IsLastSegment (name segment : List Char) : Prop :=
  '.' ∉ segment ∧ (name = segment ∨ ∃ front, name = front ++ '.' :: segment)

theorem isLastSegment_lastSegment (name : List Char) : IsLastSegment name (lastSegment name) := by
  have hspan := stretch_span (· != '.') name.reverse
  have hname : name = (name.reverse.dropWhile (· != '.')).reverse ++ lastSegment name := by
    rw [lastSegment, ← List.reverse_append, List.takeWhile_append_dropWhile, List.reverse_reverse]
  constructor
  · intro h
    have hpoint := hspan.inside '.' (List.mem_reverse.mp h)
    exact absurd hpoint (by decide)
  · cases hdrop : name.reverse.dropWhile (· != '.') with
    | nil =>
      rw [hdrop] at hname
      exact .inl hname
    | cons c front =>
      have hc := hspan.boundary c (by rw [hdrop]; rfl)
      obtain rfl : c = '.' := by simpa using hc
      rw [hdrop, List.reverse_cons, List.append_assoc] at hname
      exact .inr ⟨front.reverse, hname⟩

theorem lastSegment_eq_nil_iff {name : List Char} (h : name ≠ []) :
    lastSegment name = [] ↔ name.getLast? = some '.' := by
  have hright : lastSegment name = name.rtakeWhile (· != '.') := rfl
  rw [hright, List.rtakeWhile_eq_nil_iff, List.getLast?_eq_some_getLast h]
  simp [h]

/-! ## Subjects -/

theorem subject_of_selects {command : String} {name : List Char}
    (h : SelectsFirst command.toList name) : (subject command).toList = lastSegment name := by
  unfold subject
  rw [selector?_eq_some_iff.mpr h]
  exact String.toList_ofList

theorem subject_of_not_selects {command : String} (h : ∀ name, ¬ SelectsFirst command.toList name) :
    subject command = "UnknownTest" := by
  have hnone : selector? command.toList = none :=
    Option.eq_none_iff_forall_ne_some.mpr fun name hname => h name (selector?_eq_some_iff.mp hname)
  unfold subject
  rw [hnone]
  rfl

theorem isAsciiWord_of_mem_lastSegment {name : List Char} {c : Char}
    (hname : ∀ d ∈ name, isSelectorChar d = true) (hc : c ∈ lastSegment name) :
    isAsciiWord c = true := by
  have hright : lastSegment name = name.rtakeWhile (· != '.') := rfl
  rw [hright] at hc
  have hpoint := List.mem_rtakeWhile_imp (p := (· != '.')) hc
  have hchar := hname c ((List.rtakeWhile_suffix _ _).subset hc)
  simp only [isSelectorChar, Bool.or_eq_true, beq_iff_eq] at hchar
  exact hchar.resolve_right (by simpa using hpoint)

/-- The subject of a command is the last segment of the name that the command selects first, and
`UnknownTest` when it selects none. It is a word, but an empty one exactly when that name ends with a
point; the standard heading of the section begins with it. -/
theorem subject_is_last_segment (command : String) :
    (∀ name, SelectsFirst command.toList name → IsLastSegment name (subject command).toList) ∧
    ((∀ name, ¬ SelectsFirst command.toList name) → subject command = "UnknownTest") ∧
    (∀ c ∈ (subject command).toList, isAsciiWord c = true) ∧
    (subject command = "" ↔ ∃ name, SelectsFirst command.toList name ∧ name.getLast? = some '.') ∧
    ∀ (s : Section.Settings) (r : Section.Renderer) (c : Section.Cycle),
      Section.Renderer.make s = .ok r → s.phrases.heading = Section.Phrases.standard.heading →
      c.subject = subject command → r.headingBlock c =
        .ok (.heading [r.run (.plain (subject command ++ " (" ++ c.stamp ++ ")"))]) := by
  refine ⟨?_, subject_of_not_selects, ?_, ?_, ?_⟩
  · intro name hname
    rw [subject_of_selects hname]
    exact isLastSegment_lastSegment name
  · intro c hc
    by_cases hsome : ∃ name, SelectsFirst command.toList name
    · obtain ⟨name, hname⟩ := hsome
      rw [subject_of_selects hname] at hc
      exact isAsciiWord_of_mem_lastSegment hname.name.2 hc
    · rw [subject_of_not_selects (not_exists.mp hsome)] at hc
      exact List.all_eq_true.mp (by decide : "UnknownTest".toList.all isAsciiWord = true) c hc
  · constructor
    · intro hempty
      by_cases hsome : ∃ name, SelectsFirst command.toList name
      · obtain ⟨name, hname⟩ := hsome
        have hlast := subject_of_selects hname
        rw [hempty] at hlast
        exact ⟨name, hname, (lastSegment_eq_nil_iff hname.name.1).mp hlast.symm⟩
      · rw [subject_of_not_selects (not_exists.mp hsome)] at hempty
        exact absurd hempty (by decide)
    · rintro ⟨name, hname, hpoint⟩
      rw [← String.toList_eq_nil_iff, subject_of_selects hname]
      exact (lastSegment_eq_nil_iff hname.name.1).mpr hpoint
  · intro s r c hr hs hc
    rw [Section.headingBlock_standard c hr hs, hc]

/-- Where all tests are selected, a point is the whole name and the subject is empty. -/
theorem subject_ofAllTests :
    SelectsFirst "./gradlew test --tests \"*.*\"".toList ['.'] ∧
    subject "./gradlew test --tests \"*.*\"" = "" := by
  have hselects : selector? "./gradlew test --tests \"*.*\"".toList = some ['.'] := by
    decide +kernel
  exact ⟨selector?_eq_some_iff.mp hselects, by decide +kernel⟩

end Trigger
end CycleLog
