import CycleLog.Problem
import CycleLog.Config.Basic
import CycleLog.Toml.Document
import CycleLog.Files
import CycleLog.Text.Blank

/-!
# Loading the configuration

A file named on the command line has to be there. Without one, the file of the project is read when
it is there. The page of the environment comes before the page of the file.
-/

namespace CycleLog.Config
set_option autoImplicit false

/-- The variable whose value names the page. -/
def pageVariable : String := "NOTION_PAGE_ID"

/-- Where the configuration of a project lies. -/
def projectPath (cwd : String) : String :=
  joinPath (joinPath cwd ".claude") "tdd-notion-logger.toml"

/-- The configuration that a text sets. -/
def ofText? (text : String) : Option Config := do
  let v ← Toml.read? text
  (read .passedOver v).toOption

def parse (path text : String) : Except Problem Config :=
  match ofText? text with
  | some c => .ok c
  | none => .error (.unparsable path)

/-- Reads a file that has to be there. -/
def readFile (files : FileTree) (path : String) : Except Problem Config :=
  match files.text path with
  | .ok text => parse path text
  | .error _ => .error (.unreadable path)

/-- Reads a file if it is there. -/
def readOptional (files : FileTree) (path : String) : Except Problem Config :=
  match files.text path with
  | .ok text => parse path text
  | .error .missing => .ok standard
  | .error .unreadable => .error (.unreadable path)

/-- Puts the page of the environment in, unless it is blank. -/
def override (page : Option String) (c : Config) : Config :=
  match page with
  | none => c
  | some s =>
    if Text.blankText s.toList then c
    else { c with page := { c.page with pageId := Text.trimmed s } }

def load (files : FileTree) (explicit cwd page : Option String) : Except Problem Config :=
  (match explicit, cwd with
    | some path, _ => readFile files path
    | none, some dir => readOptional files (projectPath dir)
    | none, none => .ok standard).map (override page)

end CycleLog.Config
