/-!
# Paths of files

A path consists of names with slashes between them. Empty names and single points between slashes
do not count.
-/

namespace CycleLog.Tool
set_option autoImplicit false

/-- A text cut at every slash. -/
def cutAtSlashes : List Char → List (List Char)
  | [] => [[]]
  | c :: r =>
    match cutAtSlashes r with
    | [] => [[c]]
    | p :: ps => if c = '/' then [] :: p :: ps else (c :: p) :: ps

/-- The names of a path that count. -/
def pathParts (path : String) : List String :=
  ((cutAtSlashes path.toList).filter fun p => p ≠ [] ∧ p ≠ ['.']).map String.ofList

/-- The last name of a path, or the whole path if it ends in no name of its own. -/
def fileName (path : String) : String :=
  match (pathParts path).getLast? with
  | some ".." => path
  | some name => name
  | none => path

end CycleLog.Tool
