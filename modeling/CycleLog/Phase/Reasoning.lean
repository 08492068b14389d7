import CycleLog.Transcript.Entry
import CycleLog.Text.Blank
import CycleLog.Text.Cut

/-!
# Why the assistant did it

The reasoning of an entry is what the assistant says in it. When it says nothing, an excerpt of what
it thinks stands in.
-/

namespace CycleLog.Phase
set_option autoImplicit false

open Transcript Text

/-- Texts without the blanks around them, those that have nothing else left out. -/
def trimmedParts (parts : List String) : List String := (parts.map trimmed).filter (· ≠ "")

def said? : Block → Option String
  | .text s => some s
  | _ => none

def thought? : Block → Option String
  | .thinking s => some s
  | _ => none

def reasoning (blocks : List Block) (limit : Nat) : String :=
  match trimmedParts (blocks.filterMap said?) with
  | p :: ps => String.intercalate "\n" (p :: ps)
  | [] => cut (String.intercalate "\n" (trimmedParts (blocks.filterMap thought?))) limit

end CycleLog.Phase
