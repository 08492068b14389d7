import CycleLog.Problem
import CycleLog.Pattern.Size
import CycleLog.Pattern.Search

/-!
# Kinds of files

A file is a test file when the pattern for test files matches its name from the beginning, and a
source file when the pattern for source files does and the other one does not.
-/

namespace CycleLog.Phase
set_option autoImplicit false

inductive FileKind where
  | test
  | source
deriving DecidableEq, Repr

/-- The pattern, tied to the beginning of a text. -/
def anchored (pattern : String) : String := "^(?:" ++ pattern ++ ")"

structure FilePatterns where
  test : Pattern
  source : Pattern

def FilePatterns.make (test source : String) (fits : Pattern.SizeLimit := .estimated) :
    Except Problem FilePatterns :=
  match Pattern.read? fits (anchored test) with
  | none => .error (.testFile test)
  | some t =>
    match Pattern.read? fits (anchored source) with
    | none => .error (.sourceFile source)
    | some s => .ok ⟨t, s⟩

def FilePatterns.kind? (p : FilePatterns) (name : String) : Option FileKind :=
  if p.test.found name then some .test
  else if p.source.found name then some .source
  else none

end CycleLog.Phase
