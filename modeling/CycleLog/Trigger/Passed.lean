import CycleLog.Text.Scan
import CycleLog.Text.Lines

/-!
# Methods that passed

A line of output reports a passed method as `> name() PASSED`.
-/

namespace CycleLog.Trigger
set_option autoImplicit false

open Text

/-- The method that is reported at the front of a text. -/
def passedAt? (cs : List Char) : Option (List Char) := do
  let r ← word? ['>'] cs
  let r ← blanks? r
  let (name, r) ← run? isWordChar r
  let r ← word? ['(', ')'] r
  let r ← blanks? r
  let _ ← word? ['P', 'A', 'S', 'S', 'E', 'D'] r
  some name

/-- The first method that a line reports. -/
def passedIn? (line : List Char) : Option (List Char) := firstAt? passedAt? line

/-- The methods that an output reports, line by line. -/
def passedMethods (stdout : String) : List String :=
  ((lines stdout.toList).filterMap passedIn?).map String.ofList

end CycleLog.Trigger
