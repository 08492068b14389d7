import CycleLog.Text.Scan

/-!
# Names of tests

A test in a source text is announced by `@Test` or `@DisplayName`, which may be followed by a name
in parentheses and quotes; the line ends there, and the next one may begin with `void` and the name
of a method. The name in quotes counts before the name of the method. When no announcement names a
test, every method with `void` counts. Each name is kept once.
-/

namespace CycleLog.Phase
set_option autoImplicit false

open Text

/-! ## Distinct items -/

/-- Adds an item that is not yet there. -/
def addNew {α : Type} [DecidableEq α] (items : List α) (a : α) : List α :=
  if a ∈ items then items else items ++ [a]

/-- The items in the order in which they first occur. -/
def distinct {α : Type} [DecidableEq α] (items : List α) : List α := items.foldl addNew []

/-! ## Parts of an announcement -/

/-- A name in parentheses and quotes, and what follows it. -/
def displayName? (cs : List Char) : Option (List Char × List Char) := do
  let r ← word? ['(', '"'] cs
  let (name, r) ← run? (· != '"') r
  let r ← word? ['"', ')'] r
  some (name, r)

/-- `void` and a name. -/
def voidName? (cs : List Char) : Option (List Char × List Char) := do
  let r ← word? ['v', 'o', 'i', 'd'] cs
  let r ← blanks? r
  run? isWordChar r

/-- Drops the blanks in front, if a line ends among them. -/
def pastLineEnd? (cs : List Char) : Option (List Char) :=
  if (cs.takeWhile isBlank).contains '\n' then some (trimStart cs) else none

def announced? (cs : List Char) : Option (List Char) :=
  (word? "@Test".toList cs).or (word? "@DisplayName".toList cs)

/-- The name behind a line end, if there is one, and what follows. -/
def methodPart (cs : List Char) : Option (List Char) × List Char :=
  match voidName? cs with
  | some (name, r) => (some name, r)
  | none => (none, cs)

/-- An announcement at the front of a text: the name that it gives, and what follows it. -/
def announcement? (cs : List Char) : Option (Option (List Char) × List Char) := do
  let r ← announced? cs
  let named := do
    let (name, after) ← displayName? (trimStart r)
    let after ← pastLineEnd? after
    some (some name, (methodPart after).2)
  named.or do
    let after ← pastLineEnd? r
    some (methodPart after)

/-- A method with `void` at the front of a text: its name, and what follows it. -/
def method? (cs : List Char) : Option (Option (List Char) × List Char) := do
  let (name, r) ← voidName? cs
  let r ← word? ['('] (trimStart r)
  some (some name, r)

/-! ## All names -/

/-- The names that a reader finds, one behind the other. -/
def namesBy (read : List Char → Option (Option (List Char) × List Char)) :
    Nat → List Char → List (List Char)
  | 0, _ => []
  | fuel + 1, cs =>
    match cs with
    | [] => []
    | c :: r =>
      match read (c :: r) with
      | some (name, rest) => name.toList ++ namesBy read fuel rest
      | none => namesBy read fuel r

def announcedNames (cs : List Char) : List (List Char) := namesBy announcement? cs.length cs

def methodNames (cs : List Char) : List (List Char) := namesBy method? cs.length cs

/-- The names of the tests in a source text. -/
def testNames (source : String) : List String :=
  let cs := source.toList
  let names := distinct (announcedNames cs)
  (if names = [] then distinct (methodNames cs) else names).map String.ofList

end CycleLog.Phase
