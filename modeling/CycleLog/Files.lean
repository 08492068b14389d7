import CycleLog.Tool.Path

/-!
# Files

The files that a run can see. A path is followed name by name; where a name lies in something that
is no directory the path is blocked, which is not the same as a file that is missing.
-/

namespace CycleLog
set_option autoImplicit false

inductive Found where
  | file (bytes : ByteArray)
  | directory
  | missing
  /-- The path leads through something that is no directory, or cannot be a path. -/
  | blocked

/-- Files and directories by their paths; a directory is also there when something lies in it. -/
structure FileTree where
  entries : List (List String × Option ByteArray)

namespace FileTree

def empty : FileTree := ⟨[]⟩

/-- What lies at a path given by its names. -/
def at_ (t : FileTree) (names : List String) : Found :=
  match t.entries.lookup names with
  | some (some bytes) => .file bytes
  | some none => .directory
  | none =>
    if names = [] ∨ names = [""] ∨ t.entries.any (fun e => names.isPrefixOf e.1) then .directory
    else .missing

/-- The directory above; there is none above the root. -/
def above (names : List String) : List String := if names = [""] then [""] else names.dropLast

/-- Follows names from a directory given by its own names. -/
def walk (t : FileTree) (here : List String) : List String → Found
  | [] => t.at_ here
  | name :: rest =>
    match t.at_ here with
    | .directory =>
      if name = "" ∨ name = "." then walk t here rest
      else if name = ".." then walk t (above here) rest
      else if 255 < name.utf8ByteSize then .blocked
      else walk t (here ++ [name]) rest
    | .file _ => .blocked
    | other => other

/-- The names of a path; those of a path from the root begin with an empty one. -/
def pathNames (path : String) : List String := (Tool.cutAtSlashes path.toList).map String.ofList

/-- What a path leads to. -/
def find (t : FileTree) (path : String) : Found :=
  if path = "" then .missing
  else if path.toList.contains '\x00' then .blocked
  else
    match pathNames path with
    | "" :: rest => t.walk [""] rest
    | names => t.walk [] names

def isFile (t : FileTree) (path : String) : Bool :=
  match t.find path with
  | .file _ => true
  | _ => false

/-- Why there is no text at a path. -/
inductive NoText where
  | missing
  | unreadable
deriving DecidableEq, Repr

/-- The text of a file. -/
def text (t : FileTree) (path : String) : Except NoText String :=
  match t.find path with
  | .file bytes =>
    match String.fromUTF8? bytes with
    | some s => .ok s
    | none => .error .unreadable
  | .missing => .error .missing
  | .directory | .blocked => .error .unreadable

end FileTree

/-- A path with one more name. -/
def joinPath (path name : String) : String :=
  if path = "" ∨ path.endsWith "/" then path ++ name else path ++ "/" ++ name

end CycleLog
