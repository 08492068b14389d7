import CycleLog.Hook
import CycleLog.Proofs.Latest
import CycleLog.Proofs.Success

/-!
# Sections forget what lies before the last two runs

A text in front of a transcript puts its entries in front of those of the transcript
(`entries_parse_append`). However many of the entries are kept, the window does not change when two
runs stand behind those in front (`window_latest_append`); so neither does the section
(`section_of_append`).
-/

namespace CycleLog.Text
set_option autoImplicit false

/-! ## Texts in front of a text -/

/-- No line goes on behind the end of the text. -/
def EndsLine (s : String) : Prop := s = "" ∨ ∃ t, s = t ++ "\n"

theorem lines_append {s : String} (h : EndsLine s) (cs : List Char) :
    lines (s.toList ++ cs) = lines s.toList ++ lines cs := by
  unfold lines
  rw [← List.map_append]
  congr 1
  rcases h with rfl | ⟨t, rfl⟩
  · rfl
  · have hn : (t ++ "\n").toList = t.toList ++ ['\n'] := by
      rw [String.toList_append]
      rfl
    rw [hn, List.append_assoc, List.singleton_append, pieces_append_newline]

end CycleLog.Text

namespace CycleLog.Transcript
set_option autoImplicit false

open Tool
open Text (EndsLine)

/-! ## Texts in front of a transcript -/

/-- The number of a line shows only in what is reported of it. -/
theorem entries_parseLine (m n : Nat) (l : List Char) :
    (parseLine m l).entries = (parseLine n l).entries := by
  unfold parseLine
  dsimp only
  split
  · rfl
  · cases Json.readList (Text.trim l) with
    | none => rfl
    | some v =>
      dsimp only
      cases toEntry v <;> rfl

theorem entries_parseLines (m n : Nat) (ls : List (List Char)) :
    (parseLines m ls).entries = (parseLines n ls).entries := by
  induction ls generalizing m n with
  | nil => rfl
  | cons l ls ih =>
    simp only [parseLines, Parsed.append, entries_parseLine m n l, ih (m + 1) (n + 1)]

theorem entries_parse_append {s : String} (h : EndsLine s) (t : String) :
    (parse (s ++ t)).entries = (parse s).entries ++ (parse t).entries := by
  unfold parse parseList
  rw [String.toList_append, Text.lines_append h, parseLines_append, Parsed.append,
    entries_parseLines (1 + _) 1]

/-! ## Windows behind two runs -/

variable {isRun : Call → Bool} {b : List Entry}

theorem latest_append_of_le {n : Nat} (a : List Entry) (h : n ≤ b.length) :
    latest n (a ++ b) = latest n b := by
  unfold latest
  rw [List.length_append, Nat.add_sub_assoc h, List.drop_length_add_append]

theorem latest_append_of_ge {n : Nat} (a : List Entry) (h : b.length ≤ n) :
    latest n (a ++ b) = latest (n - b.length) a ++ b := by
  unfold latest
  rw [List.length_append, ← Nat.sub_sub_right _ h, List.drop_append_of_le_length (Nat.sub_le _ _)]

theorem latest_of_length_le {n : Nat} (h : b.length ≤ n) : latest n b = b := by
  rw [latest, Nat.sub_eq_zero_of_le h, List.drop_zero]

/-- Two runs hide all that stands in front of them. -/
theorem window_append_of_two_runs (a : List Entry) (hb : 2 ≤ b.countP (·.runs isRun)) :
    window isRun (a ++ b) = window isRun b := by
  obtain ⟨j, hj⟩ := Nat.exists_eq_add_of_le hb
  have hlen : (runPlaces isRun b).length = j + 1 + 1 := by
    rw [length_runPlaces]
    omega
  have hall : (runPlaces isRun (a ++ b)).length = (runPlaces isRun a).length + (j + 1) + 1 := by
    rw [length_runPlaces_append, hlen]
    rfl
  have hruns : ∃ e ∈ b, e.runs isRun = true :=
    List.countP_pos_iff.mp (Nat.lt_of_lt_of_le Nat.zero_lt_two hb)
  have hstart : a.length ≤ windowStart isRun (a ++ b) := by
    rw [windowStart_eq_cycleStart hall, cycleStart_append_right a (by omega)]
    exact Nat.le_add_right _ _
  rw [window_append_right a hruns, Nat.sub_eq_zero_of_le hstart, List.drop_zero]

/-- So they do when only the latest entries are kept: either the runs are kept, with some entries in
front of them, or none of the entries in front. -/
theorem window_latest_append (n : Nat) (a : List Entry) (hb : 2 ≤ b.countP (·.runs isRun)) :
    window isRun (latest n (a ++ b)) = window isRun (latest n b) := by
  obtain h | h := Nat.le_total n b.length
  · rw [latest_append_of_le a h]
  · rw [latest_append_of_ge a h, latest_of_length_le h, window_append_of_two_runs _ hb]

end CycleLog.Transcript

/-! ## Sections -/

namespace CycleLog
set_option autoImplicit false

open Transcript
open Text (EndsLine)

theorem transcriptOf_of_text {files : FileTree} {path text : String}
    (h : files.text path = .ok text) (n : Nat) :
    (transcriptOf files path n).1 = latest n (parse text).entries := by
  unfold transcriptOf readTranscript?
  rw [h]

theorem Hook.section_eq_blocksFor (h : Hook) (w : World) (run : Trigger.TestRun) (path : String) :
    (h.section w run path).1 = h.blocksFor run w.now (transcriptOf w.files path h.maxEntries).1 :=
  rfl

/-- The entries of a transcript matter for a section only through their window. -/
theorem Hook.blocksFor_congr {h : Hook} {es ds : List Entry}
    (hw : window h.filter.matcher.accepts es = window h.filter.matcher.accepts ds)
    (run : Trigger.TestRun) (now : Clock.Instant) :
    h.blocksFor run now es = h.blocksFor run now ds := by
  unfold Hook.blocksFor Hook.sorted
  rw [hw]

theorem fromUTF8?_toUTF8 (s : String) : String.fromUTF8? s.toUTF8 = some s := by
  unfold String.fromUTF8?
  exact dif_pos s.isValidUTF8

/-- A world with no file but a transcript at `/t`. -/
def World.ofTranscript (text : String) : World :=
  ⟨⟨[(["", "t"], some text.toUTF8)]⟩, [], ⟨0⟩, fun _ => .unreachable⟩

theorem text_ofTranscript (s : String) : (World.ofTranscript s).files.text "/t" = .ok s := by
  have hfind : (World.ofTranscript s).files.find "/t" = .file s.toUTF8 := rfl
  unfold FileTree.text
  rw [hfind]
  simp only [fromUTF8?_toUTF8]

/-- When a text has two test runs, the section from a transcript that ends with it is the same
whatever lines stand in front. -/
theorem section_of_append (h : Hook) (run : Trigger.TestRun) {w v : World} {here there : String}
    {s t text : String} (hs : EndsLine s) (ht : EndsLine t)
    (hruns : 2 ≤ (parse text).entries.countP (·.runs h.filter.matcher.accepts))
    (hw : w.files.text here = .ok (s ++ text)) (hv : v.files.text there = .ok (t ++ text))
    (hnow : w.now = v.now) :
    (h.section w run here).1 = (h.section v run there).1 := by
  rw [h.section_eq_blocksFor, h.section_eq_blocksFor, transcriptOf_of_text hw, transcriptOf_of_text hv,
    entries_parse_append hs, entries_parse_append ht, hnow]
  apply Hook.blocksFor_congr
  rw [window_latest_append _ _ hruns, window_latest_append _ _ hruns]

/-- A turn that runs the tests, and one that writes a source file. -/
def runTurn : String := "[\"assistant\", null, [[[\"tool_use\", \"Bash\", [\"gradlew test\"]]]]]"

def writeTurn : String :=
  "[\"assistant\", null, [[[\"tool_use\", \"Write\", [\"/App.java\", \"x\"]]]]]"

/-- The four latest entries reach back into the history of the one transcript; the other has none. -/
theorem section_of_append_history :
    let text := runTurn ++ "\n" ++ writeTurn ++ "\n" ++ runTurn
    let history := "no entry\n" ++ runTurn ++ "\n" ++ writeTurn ++ "\n"
    EndsLine history ∧ EndsLine "" ∧
    ∃ h, Hook.make { Config.standard with maxEntries := 4 } = .ok h ∧
      2 ≤ (parse text).entries.countP (·.runs h.filter.matcher.accepts) ∧
      (h.section (.ofTranscript (history ++ text)) ⟨"gradlew test", ""⟩ "/t").1 =
        (h.section (.ofTranscript ("" ++ text)) ⟨"gradlew test", ""⟩ "/t").1 := by
  intro text history
  have hcount : (do
      let h ← Hook.make { Config.standard with maxEntries := 4 }
      .ok ((parse text).entries.countP (·.runs h.filter.matcher.accepts)) : Except Problem Nat) =
        .ok 2 := by decide +kernel
  have hhistory : EndsLine history := .inr ⟨_, rfl⟩
  have hnone : EndsLine "" := .inl rfl
  obtain ⟨h, hmake, hruns⟩ := bind_eq_ok_iff.mp hcount
  have htwo := Nat.le_of_eq (Except.ok.inj hruns).symm
  exact ⟨hhistory, hnone, h, hmake, htwo, section_of_append h _ hhistory hnone htwo
    (text_ofTranscript _) (text_ofTranscript _) rfl⟩

end CycleLog
