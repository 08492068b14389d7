import CycleLog.Text.Scan

/-!
# The subject of a test run

A command may select tests with `--tests`: behind it stand blanks, a quote and a star that may be
left out, and a name with points. The subject is the part behind the last point of the first name
so selected.
-/

namespace CycleLog.Trigger
set_option autoImplicit false

open Text

/-- A letter, digit, underscore or point of the ASCII range. -/
def isSelectorChar (c : Char) : Bool := isAsciiWord c || c == '.'

/-- The name that is selected at the front of a text. -/
def selectorAt? (cs : List Char) : Option (List Char) := do
  let r ← word? ['-', '-', 't', 'e', 's', 't', 's'] cs
  let r ← blanks? r
  let (name, _) ← run? isSelectorChar (skipOne '*' (skipOne '"' r))
  some name

/-- The name that a command selects first. -/
def selector? (command : List Char) : Option (List Char) := firstAt? selectorAt? command

/-- The part behind the last point. -/
def lastSegment (name : List Char) : List Char :=
  (name.reverse.takeWhile (· != '.')).reverse

def unknownSubject : String := "UnknownTest"

def subject (command : String) : String :=
  match selector? command.toList with
  | some name => String.ofList (lastSegment name)
  | none => unknownSubject

end CycleLog.Trigger
