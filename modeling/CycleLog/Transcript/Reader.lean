import CycleLog.Transcript.Entry
import CycleLog.Json.Reader
import CycleLog.Text.Lines

/-!
# Reading a transcript

A transcript has one entry on each line that is not blank. A line that is not JSON is left out; a
line that is JSON of another shape keeps its place as an entry of no kind. Both are reported with
the number of the line.
-/

namespace CycleLog.Transcript
set_option autoImplicit false

open Json

/-- What is wrong with a line. -/
inductive Flaw where
  | notJson
  | shape (m : Mismatch)
deriving DecidableEq, Repr

structure Report where
  line : Nat
  flaw : Flaw
deriving DecidableEq, Repr

/-- What a text gives: its entries and reports in order. -/
structure Parsed where
  entries : List Entry
  reports : List Report

def Parsed.empty : Parsed := ⟨[], []⟩

def Parsed.append (a b : Parsed) : Parsed := ⟨a.entries ++ b.entries, a.reports ++ b.reports⟩

/-! ## Lines -/

/-- What the line of that number gives. -/
def parseLine (number : Nat) (line : List Char) : Parsed :=
  let cs := Text.trim line
  if cs = [] then .empty
  else
    match readList cs with
    | none => ⟨[], [⟨number, .notJson⟩]⟩
    | some v =>
      match toEntry v with
      | .ok e => ⟨[e], []⟩
      | .error m => ⟨[.other], [⟨number, .shape m⟩]⟩

/-- What lines give, the first of which has that number. -/
def parseLines (number : Nat) : List (List Char) → Parsed
  | [] => .empty
  | l :: ls => (parseLine number l).append (parseLines (number + 1) ls)

def parseList (cs : List Char) : Parsed := parseLines 1 (Text.lines cs)

def parse (text : String) : Parsed := parseList text.toList

/-! ## The latest entries -/

/-- The last `n` entries. -/
def latest (n : Nat) (es : List Entry) : List Entry := es.drop (es.length - n)

/-! ## Parts of a text -/

theorem parseLines_append (n : Nat) (a b : List (List Char)) :
    parseLines n (a ++ b) = (parseLines n a).append (parseLines (n + a.length) b) := by
  induction a generalizing n with
  | nil => simp [parseLines, Parsed.empty, Parsed.append]
  | cons l ls ih =>
    simp only [List.cons_append, parseLines, ih, List.length_cons]
    rw [show n + 1 + ls.length = n + (ls.length + 1) by omega]
    simp [Parsed.append, List.append_assoc]

end CycleLog.Transcript
