import CycleLog.Transcript.Entry

/-!
# The current cycle

The window of a transcript holds the entries of the cycle that ended with the latest test run: all
entries when there is no test run, the entries in front of the only one, or those between the last
two.
-/

namespace CycleLog.Transcript
set_option autoImplicit false

open Tool

/-- Whether an entry calls a test run. -/
def Entry.runs (isRun : Call → Bool) (e : Entry) : Bool := e.calls.any isRun

/-- The places of the entries that call a test run. -/
def runPlaces (isRun : Call → Bool) (es : List Entry) : List Nat :=
  (List.range es.length).filter fun i => (es[i]?.map (·.runs isRun)).getD false

/-- The last two of some places, the later one first. -/
def lastTwo : List Nat → List Nat
  | places => places.reverse.take 2

def window (isRun : Call → Bool) (es : List Entry) : List Entry :=
  match lastTwo (runPlaces isRun es) with
  | [] => es
  | [last] => es.take last
  | last :: previous :: _ => (es.take last).drop (previous + 1)

end CycleLog.Transcript
