import CycleLog.Proofs.Announcing
import CycleLog.Proofs.Pieces
import CycleLog.Transcript.Reader
import CycleLog.Trigger.Passed

/-!
# Line ends

A text may end its lines with line feeds, or with a carriage return in front of each. The lines are the
same (`lines_withReturns`), so what is read line by line does not differ. Names of tests are looked for
across lines: there each scanner takes from the one text what it takes from the other, with the carriage
returns put in (`LineBlind`), since a carriage return is of every kind that a line feed is of. So an
announcement is found where it was (`namesBy_withReturns`), and only a display name that goes over a line
end is found in another form.
-/

namespace CycleLog
set_option autoImplicit false

/-! ## Texts with carriage returns -/

namespace Text

/-- The text with a carriage return in front of every line feed. -/
def withReturnsList : List Char → List Char
  | [] => []
  | c :: r => if c = '\n' then '\r' :: '\n' :: withReturnsList r else c :: withReturnsList r

def withReturns (s : String) : String := String.ofList (withReturnsList s.toList)

theorem withReturnsList_feed (r : List Char) :
    withReturnsList ('\n' :: r) = '\r' :: '\n' :: withReturnsList r := if_pos rfl

theorem withReturnsList_cons {c : Char} (h : c ≠ '\n') (r : List Char) :
    withReturnsList (c :: r) = c :: withReturnsList r := if_neg h

theorem mem_withReturnsList_feed {cs : List Char} : '\n' ∈ withReturnsList cs ↔ '\n' ∈ cs := by
  induction cs with
  | nil => rfl
  | cons c r ih =>
    by_cases hc : c = '\n'
    · simp [hc, withReturnsList_feed]
    · rw [withReturnsList_cons hc, List.mem_cons, List.mem_cons, ih]

theorem withReturnsList_of_not_mem {cs : List Char} (h : '\n' ∉ cs) : withReturnsList cs = cs := by
  induction cs with
  | nil => rfl
  | cons c r ih =>
    simp only [List.mem_cons, not_or] at h
    rw [withReturnsList_cons (Ne.symm h.1), ih h.2]

/-! ## Lines -/

theorem lines_feed (r : List Char) : lines ('\n' :: r) = [] :: lines r := rfl

theorem lines_return_feed (r : List Char) : lines ('\r' :: '\n' :: r) = [] :: lines r := rfl

theorem lines_cons {c : Char} (hfeed : c ≠ '\n') (hreturn : c ≠ '\r') (r : List Char) :
    lines (c :: r) = (c :: (lines r).headD []) :: (lines r).tail := by
  have hline (p : List Char) : withoutEnd (c :: p) = c :: withoutEnd p :=
    withoutEnd_cons hfeed fun h => hreturn h.1
  unfold lines
  rw [pieces, if_neg hfeed]
  cases pieces r with
  | nil => exact congrArg (· :: []) (hline [])
  | cons p ps => exact congrArg (· :: ps.map withoutEnd) (hline p)

/-- Carriage returns in front of the line feeds belong to no line. -/
theorem lines_withReturns {cs : List Char} (h : '\r' ∉ cs) :
    lines (withReturnsList cs) = lines cs := by
  induction cs with
  | nil => rfl
  | cons c r ih =>
    simp only [List.mem_cons, not_or] at h
    by_cases hc : c = '\n'
    · rw [hc, withReturnsList_feed, lines_return_feed, lines_feed, ih h.2]
    · rw [withReturnsList_cons hc, lines_cons hc (Ne.symm h.1), lines_cons hc (Ne.symm h.1), ih h.2]

/-! ## Scanners -/

/-- A reader takes from a text with carriage returns what it takes from the text without them, and leaves
what it leaves; `f` puts the carriage returns into what it gives. -/
def LineBlind {α : Type} (f : α → α) (read : List Char → Option α) : Prop :=
  ∀ cs, read (withReturnsList cs) = (read cs).map f

theorem LineBlind.bind {α β : Type} {f : α → α} {g : β → β} {read : List Char → Option α}
    {next next' : α → Option β} (hread : LineBlind f read)
    (hnext : ∀ a, next' (f a) = (next a).map g) (cs : List Char) :
    (read (withReturnsList cs)).bind next' = ((read cs).bind next).map g := by
  rw [hread cs]
  cases read cs with
  | none => rfl
  | some a => exact hnext a

theorem word?_blind {w : List Char} (hfeed : '\n' ∉ w) (hreturn : '\r' ∉ w) :
    LineBlind withReturnsList (word? w) := by
  intro cs
  induction w generalizing cs with
  | nil => rfl
  | cons d w ih =>
    simp only [List.mem_cons, not_or] at hfeed hreturn
    cases cs with
    | nil => rfl
    | cons c r =>
      by_cases hc : c = '\n'
      · rw [hc, withReturnsList_feed, word?, word?, if_neg (Ne.symm hreturn.1), if_neg (Ne.symm hfeed.1)]
        rfl
      · rw [withReturnsList_cons hc, word?, word?]
        split
        · exact ih hfeed.2 hreturn.2 r
        · rfl

section Kind
variable {is : Char → Bool}

theorem takeWhile_withReturnsList (h : is '\r' = is '\n') (cs : List Char) :
    (withReturnsList cs).takeWhile is = withReturnsList (cs.takeWhile is) := by
  induction cs with
  | nil => rfl
  | cons c r ih =>
    by_cases hc : c = '\n'
    · subst hc
      rw [withReturnsList_feed, List.takeWhile_cons, List.takeWhile_cons, List.takeWhile_cons, h, ih]
      cases is '\n'
      · rfl
      · exact (withReturnsList_feed _).symm
    · rw [withReturnsList_cons hc, List.takeWhile_cons, List.takeWhile_cons, ih]
      cases is c
      · rfl
      · exact (withReturnsList_cons hc _).symm

theorem dropWhile_withReturnsList (h : is '\r' = is '\n') (cs : List Char) :
    (withReturnsList cs).dropWhile is = withReturnsList (cs.dropWhile is) := by
  induction cs with
  | nil => rfl
  | cons c r ih =>
    by_cases hc : c = '\n'
    · subst hc
      rw [withReturnsList_feed, List.dropWhile_cons, List.dropWhile_cons, List.dropWhile_cons, h, ih]
      cases is '\n'
      · exact (withReturnsList_feed r).symm
      · rfl
    · rw [withReturnsList_cons hc, List.dropWhile_cons, List.dropWhile_cons, ih]
      cases is c
      · exact (withReturnsList_cons hc r).symm
      · rfl

theorem run?_blind (h : is '\r' = is '\n') :
    LineBlind (Prod.map withReturnsList withReturnsList) (run? is) := by
  intro cs
  unfold run?
  rw [takeWhile_withReturnsList h, dropWhile_withReturnsList h]
  cases cs.takeWhile is with
  | nil => rfl
  | cons c w =>
    by_cases hc : c = '\n'
    · rw [hc, withReturnsList_feed, Option.map_some, Prod.map, withReturnsList_feed]
    · rw [withReturnsList_cons hc, Option.map_some, Prod.map, withReturnsList_cons hc]

end Kind

theorem trimStart_withReturnsList (cs : List Char) :
    trimStart (withReturnsList cs) = withReturnsList (trimStart cs) :=
  dropWhile_withReturnsList (by decide) cs

theorem blanks?_blind : LineBlind withReturnsList blanks? := by
  intro cs
  rw [blanks?_eq_run?, blanks?_eq_run?, run?_blind (by decide), Option.map_map, Option.map_map]
  rfl

end Text

/-! ## Names of tests -/

namespace Phase

open Text

theorem displayName?_blind :
    LineBlind (Prod.map withReturnsList withReturnsList) displayName? := by
  have hname : LineBlind (Prod.map withReturnsList withReturnsList) (run? (· != '"')) :=
    run?_blind rfl
  have hclose : LineBlind withReturnsList (word? ['"', ')']) := word?_blind (by decide) (by decide)
  refine (word?_blind (by decide) (by decide)).bind fun r => ?_
  exact hname.bind (fun found => hclose.bind (fun _ => rfl) found.2) r

theorem voidName?_blind : LineBlind (Prod.map withReturnsList withReturnsList) voidName? := by
  refine (word?_blind (by decide) (by decide)).bind fun r => ?_
  exact blanks?_blind.bind (fun r => run?_blind (by decide) r) r

theorem pastLineEnd?_blind : LineBlind withReturnsList pastLineEnd? := by
  intro cs
  have hfeed : ((withReturnsList cs).takeWhile isBlank).contains '\n' =
      (cs.takeWhile isBlank).contains '\n' := by
    rw [takeWhile_withReturnsList (by decide), Bool.eq_iff_iff, List.contains_iff_mem,
      List.contains_iff_mem, mem_withReturnsList_feed]
  unfold pastLineEnd?
  rw [hfeed, trimStart_withReturnsList]
  split <;> rfl

theorem announced?_blind : LineBlind withReturnsList announced? := by
  intro cs
  unfold announced?
  rw [word?_blind (by decide) (by decide), word?_blind (by decide) (by decide), Option.map_or]

theorem methodPart_withReturnsList (cs : List Char) : methodPart (withReturnsList cs) =
    Prod.map (Option.map withReturnsList) withReturnsList (methodPart cs) := by
  unfold methodPart
  rw [voidName?_blind]
  cases voidName? cs <;> rfl

theorem announcement?_blind :
    LineBlind (Prod.map (Option.map withReturnsList) withReturnsList) announcement? := by
  refine announced?_blind.bind fun r => ?_
  rw [Option.map_or, trimStart_withReturnsList]
  refine congrArg₂ Option.or ?_ ?_
  · refine displayName?_blind.bind (fun found => ?_) (trimStart r)
    refine pastLineEnd?_blind.bind (fun after => ?_) found.2
    rw [methodPart_withReturnsList]
    rfl
  · exact pastLineEnd?_blind.bind (fun after => congrArg some (methodPart_withReturnsList after)) r

theorem method?_blind :
    LineBlind (Prod.map (Option.map withReturnsList) withReturnsList) method? := by
  have hopen : LineBlind withReturnsList (word? ['(']) := word?_blind (by decide) (by decide)
  refine voidName?_blind.bind fun ⟨name, r⟩ => ?_
  rw [Prod.map_apply]
  dsimp only
  rw [trimStart_withReturnsList]
  exact hopen.bind (fun _ => rfl) (trimStart r)

/-! ## All names -/

section Reader
variable {read : List Char → Option (Option (List Char) × List Char)}

/-- A reader that succeeds at no line end gives the same names, with the carriage returns put in. -/
theorem namesBy_withReturns (hread : Advances read)
    (hblind : LineBlind (Prod.map (Option.map withReturnsList) withReturnsList) read)
    (hblank : ∀ c r, isBlank c = true → read (c :: r) = none) (cs : List Char) :
    namesBy read (withReturnsList cs).length (withReturnsList cs) =
      (namesBy read cs.length cs).map withReturnsList := by
  -- on the length, since what follows an announcement may be any end of the text
  induction hn : cs.length using Nat.strongRecOn generalizing cs with
  | ind n ih =>
    subst hn
    cases cs with
    | nil => rfl
    | cons c r =>
      have hrest := ih r.length (Nat.lt_succ_self _) r rfl
      by_cases hc : c = '\n'
      · have hback : Barren read ['\n'] r := barren_cons.mpr ⟨hblank _ _ (by decide), barren_nil r⟩
        have hends : Barren read ['\r', '\n'] (withReturnsList r) :=
          barren_cons.mpr ⟨hblank _ _ (by decide),
            barren_cons.mpr ⟨hblank _ _ (by decide), barren_nil _⟩⟩
        rw [hc, withReturnsList_feed]
        exact (namesBy_of_barren hends).trans
          (hrest.trans (congrArg _ (namesBy_of_barren hback).symm))
      · have hsame := hblind (c :: r)
        cases hfound : read (c :: r) with
        | none =>
          rw [hfound, withReturnsList_cons hc] at hsame
          have hhere : Barren read [c] r := barren_cons.mpr ⟨hfound, barren_nil r⟩
          have hthere : Barren read [c] (withReturnsList r) := barren_cons.mpr ⟨hsame, barren_nil _⟩
          rw [withReturnsList_cons hc]
          exact (namesBy_of_barren hthere).trans
            (hrest.trans (congrArg _ (namesBy_of_barren hhere).symm))
        | some found =>
          obtain ⟨name, rest⟩ := found
          rw [hfound] at hsame
          rw [namesBy_of_some hread hfound, namesBy_of_some hread hsame, List.map_append,
            ih rest.length (hread _ _ _ hfound) rest rfl]
          cases name <;> rfl

theorem forall_mem_namesBy {P : List Char → Prop}
    (h : ∀ cs name rest, read cs = some (name, rest) → ∀ w ∈ name, P w) (fuel : Nat)
    (cs : List Char) : ∀ w ∈ namesBy read fuel cs, P w := by
  induction fuel generalizing cs with
  | zero => exact nofun
  | succ fuel ih =>
    cases cs with
    | nil => exact nofun
    | cons c r =>
      rw [namesBy]
      cases hc : read (c :: r) with
      | none => exact ih r
      | some found =>
        intro w hw
        rcases List.mem_append.mp hw with hw | hw
        · exact h _ _ _ hc w (Option.mem_toList.mp hw)
        · exact ih _ w hw

/-- Two readers that go on at the same places. -/
theorem mem_namesBy_or {other : List Char → Option (Option (List Char) × List Char)}
    {P : List Char → Prop} (hnone : ∀ cs, read cs = none → other cs = none)
    (hsome : ∀ cs name rest, read cs = some (name, rest) →
      ∃ name', other cs = some (name', rest) ∧ ∀ w ∈ name, w ∈ name' ∨ P w)
    (fuel : Nat) (cs : List Char) :
    ∀ w ∈ namesBy read fuel cs, w ∈ namesBy other fuel cs ∨ P w := by
  induction fuel generalizing cs with
  | zero => exact nofun
  | succ fuel ih =>
    cases cs with
    | nil => exact nofun
    | cons c r =>
      rw [namesBy, namesBy]
      cases hc : read (c :: r) with
      | none =>
        rw [hnone _ hc]
        exact ih r
      | some found =>
        obtain ⟨name, rest⟩ := found
        obtain ⟨name', hother, hname⟩ := hsome _ _ _ hc
        rw [hother]
        intro w hw
        rcases List.mem_append.mp hw with hw | hw
        · exact (hname w (Option.mem_toList.mp hw)).imp_left fun h =>
            List.mem_append_left _ (Option.mem_toList.mpr h)
        · exact (ih rest w hw).imp_left (List.mem_append_right _)

end Reader

/-! ## Display names -/

/-- The display name that an announcement at the front captures. -/
def captured? (cs : List Char) : Option (List Char) := do
  let r ← announced? cs
  let (name, after) ← displayName? (trimStart r)
  let _ ← pastLineEnd? after
  some name

/-- An announcement at the front: the display name that it captures, and what follows it. -/
def display? (cs : List Char) : Option (Option (List Char) × List Char) :=
  (announcement? cs).map fun found => (captured? cs, found.2)

/-- The display names that the announcements in a text capture. -/
def displayNames (cs : List Char) : List (List Char) := namesBy display? cs.length cs

theorem feed_not_mem_of_voidName? {cs name rest : List Char} (h : voidName? cs = some (name, rest)) :
    '\n' ∉ name := by
  simp only [voidName?, Option.bind_eq_bind, Option.bind_eq_some_iff] at h
  obtain ⟨r, -, r', -, hname⟩ := h
  intro hmem
  exact absurd ((run?_eq_some_iff.mp hname).2.2.inside '\n' hmem) (by decide)

theorem feed_not_mem_methodPart (cs : List Char) : ∀ w ∈ (methodPart cs).1, '\n' ∉ w := by
  unfold methodPart
  cases h : voidName? cs with
  | none => exact nofun
  | some found =>
    rintro w hw
    obtain rfl := Option.some.inj hw
    exact feed_not_mem_of_voidName? h

/-- An announcement gives the display name that it captures, or the name of a method. -/
theorem captured?_or_method {cs rest : List Char} {name : Option (List Char)}
    (h : announcement? cs = some (name, rest)) :
    name = captured? cs ∨ ∀ w ∈ name, '\n' ∉ w := by
  obtain ⟨r, hword, h⟩ := Option.bind_eq_some_iff.mp h
  rcases Option.or_eq_some_iff.mp h with h | ⟨-, h⟩
  · simp only [Option.bind_eq_bind, Option.bind_eq_some_iff, Option.some.injEq, Prod.mk.injEq] at h
    obtain ⟨⟨name', after⟩, hname, after', hline, rfl, -⟩ := h
    left
    simp [captured?, hword, hname, hline]
  · simp only [Option.bind_eq_bind, Option.bind_eq_some_iff, Option.some.injEq] at h
    obtain ⟨after, -, hpart⟩ := h
    right
    have hmethod := feed_not_mem_methodPart after
    rwa [hpart] at hmethod

theorem mem_announcedNames_or {cs w : List Char} (h : w ∈ announcedNames cs) :
    w ∈ displayNames cs ∨ '\n' ∉ w := by
  refine mem_namesBy_or (P := fun w => '\n' ∉ w) (fun cs hnone => ?_) (fun cs name rest hsome => ?_)
    cs.length cs w h
  · rw [display?, hnone]
    rfl
  · refine ⟨captured? cs, by rw [display?, hsome]; rfl, fun w hw => ?_⟩
    rcases captured?_or_method hsome with rfl | hmethod
    · exact .inl hw
    · exact .inr (hmethod w hw)

theorem feed_not_mem_methodNames {cs w : List Char} (h : w ∈ methodNames cs) : '\n' ∉ w := by
  refine forall_mem_namesBy (P := fun w => '\n' ∉ w) (fun cs name rest hread w hw => ?_)
    cs.length cs w h
  obtain ⟨⟨name', r⟩, hname, hread⟩ := Option.bind_eq_some_iff.mp hread
  obtain ⟨r', -, hread⟩ := Option.bind_eq_some_iff.mp hread
  simp only [Option.some.injEq, Prod.mk.injEq] at hread
  obtain ⟨rfl, -⟩ := hread
  obtain rfl := Option.some.inj hw
  exact feed_not_mem_of_voidName? hname

theorem advances_method? : Advances method? := by
  intro cs name rest h
  obtain ⟨⟨name', r⟩, hname, h⟩ := Option.bind_eq_some_iff.mp h
  simp only [voidName?, Option.bind_eq_bind, Option.bind_eq_some_iff] at hname
  obtain ⟨r', hvoid, r'', hblanks, hname⟩ := hname
  obtain ⟨r₁, hopen, h⟩ := Option.bind_eq_some_iff.mp h
  simp only [Option.some.injEq, Prod.mk.injEq] at h
  obtain ⟨-, rfl⟩ := h
  have hrest : r₁ <:+ r' := (suffix_of_word? hopen).trans ((trimStart_suffix r).trans
    ((suffix_of_run? hname).trans (suffix_of_blanks? hblanks)))
  have hle := hrest.length_le
  rw [word?_eq_some_iff.mp hvoid, List.length_append]
  simp only [List.length_cons, List.length_nil]
  omega

theorem word?_of_blank {d : Char} (hd : isBlank d = false) (w : List Char) {c : Char}
    (hc : isBlank c = true) (r : List Char) : word? (d :: w) (c :: r) = none := by
  have hne : d ≠ c := by
    rintro rfl
    rw [hd] at hc
    cases hc
  exact if_neg hne

theorem announcement?_of_blank (c : Char) (r : List Char) (hc : isBlank c = true) :
    announcement? (c :: r) = none := by
  have hword (w : List Char) : word? ('@' :: w) (c :: r) = none := word?_of_blank (by decide) w hc r
  refine announcement?_eq_none ?_
  rw [announced?, show "@Test".toList = '@' :: "Test".toList from rfl,
    show "@DisplayName".toList = '@' :: "DisplayName".toList from rfl, hword, hword]
  rfl

theorem method?_of_blank (c : Char) (r : List Char) (hc : isBlank c = true) :
    method? (c :: r) = none := by
  rw [method?, voidName?, word?_of_blank (by decide) _ hc]
  rfl

/-- Without a line end in a captured display name, the names of the announcements are the same. -/
theorem announcedNames_withReturns {cs : List Char} (h : ∀ w ∈ displayNames cs, '\n' ∉ w) :
    announcedNames (withReturnsList cs) = announcedNames cs := by
  have hkept : ∀ w ∈ announcedNames cs, withReturnsList w = w := by
    intro w hw
    exact withReturnsList_of_not_mem ((mem_announcedNames_or hw).elim (h w) id)
  calc announcedNames (withReturnsList cs)
      = (announcedNames cs).map withReturnsList :=
        namesBy_withReturns advances_announcement? announcement?_blind announcement?_of_blank cs
    _ = (announcedNames cs).map id := List.map_congr_left hkept
    _ = announcedNames cs := List.map_id _

theorem methodNames_withReturns (cs : List Char) :
    methodNames (withReturnsList cs) = methodNames cs := by
  have hkept : ∀ w ∈ methodNames cs, withReturnsList w = w := by
    intro w hw
    exact withReturnsList_of_not_mem (feed_not_mem_methodNames hw)
  calc methodNames (withReturnsList cs)
      = (methodNames cs).map withReturnsList :=
        namesBy_withReturns advances_method? method?_blind method?_of_blank cs
    _ = (methodNames cs).map id := List.map_congr_left hkept
    _ = methodNames cs := List.map_id _

theorem testNames_withReturns {s : String} (h : ∀ w ∈ displayNames s.toList, '\n' ∉ w) :
    testNames (withReturns s) = testNames s := by
  simp only [testNames, withReturns, String.toList_ofList, announcedNames_withReturns h,
    methodNames_withReturns]

end Phase

/-! ## Texts -/

open Text

/-- A carriage return in front of every line feed of a text that has none changes nothing of what is read
from it: neither the entries and reports of a transcript, nor the methods that an output reports, nor
the names of the tests in a source, unless a display name is captured with a line end in it. -/
theorem line_ends_do_not_matter {s : String} (h : '\r' ∉ s.toList) :
    Transcript.parse (withReturns s) = Transcript.parse s ∧
    Trigger.passedMethods (withReturns s) = Trigger.passedMethods s ∧
    ((∀ name ∈ Phase.displayNames s.toList, '\n' ∉ name) →
      Phase.testNames (withReturns s) = Phase.testNames s) := by
  have hlines : lines (withReturns s).toList = lines s.toList := by
    rw [withReturns, String.toList_ofList, lines_withReturns h]
  refine ⟨?_, ?_, Phase.testNames_withReturns⟩
  · rw [Transcript.parse, Transcript.parseList, hlines]
    rfl
  · rw [Trigger.passedMethods, hlines]
    rfl

/-- A display name in front of a blank line, and a method under a bare annotation. -/
theorem line_ends_do_not_matter_ofAdds :
    let s := "@DisplayName(\"adds\")\n\n  @Test\n  void add() \x7b\x7d\n"
    '\r' ∉ s.toList ∧
    withReturns s = "@DisplayName(\"adds\")\r\n\r\n  @Test\r\n  void add() \x7b\x7d\r\n" ∧
    Phase.displayNames s.toList = ["adds".toList] ∧
    Phase.testNames (withReturns s) = ["adds", "add"] := by
  intro s
  have hreturn : '\r' ∉ s.toList := by decide +kernel
  have hdisplay : Phase.displayNames s.toList = ["adds".toList] := by decide +kernel
  have hnames := (line_ends_do_not_matter hreturn).2.2 (by rw [hdisplay]; decide)
  exact ⟨hreturn, by decide +kernel, hdisplay, hnames.trans (by decide +kernel)⟩

end CycleLog
