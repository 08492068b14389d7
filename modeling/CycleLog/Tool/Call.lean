import CycleLog.Json.Shape
import CycleLog.Tool.Path

/-!
# Tool calls

A `Call` is what an assistant asked a tool to do. The inputs of the tools that run shell commands
and change files are typed; a tool that is not known, and an input of another shape, keep their
data. `shellCommand?` and `fileWrite?` say what a call does to the project.
-/

namespace CycleLog.Tool
set_option autoImplicit false

open Json

/-- One replacement in a file. -/
structure Replacement where
  old : String
  new : String
deriving DecidableEq, Repr

inductive Call where
  | bash (command : String) (description : Option String) (timeout : Option Nat)
  | write (path content : String)
  | edit (path old new : String) (everywhere : Option Bool)
  | multiEdit (path : String) (edits : List Replacement)
  /-- Another tool, or an input of another shape. -/
  | other (tool : String) (input : Value)
deriving Repr

/-! ## Reading inputs -/

structure BashInput where
  command : String
  description : Option String
  timeout : Option Nat

def BashInput.fields : List (RecordField BashInput) :=
  [.needed "command" toText fun a s => { s with command := a },
   .optional "description" (toOption toText) fun a s => { s with description := a },
   .optional "timeout" (toOption (toNat "u64")) fun a s => { s with timeout := a }]

structure FileInput where
  path : String
  content : String
  old : String
  new : String
  everywhere : Option Bool
  edits : List Replacement

def FileInput.empty : FileInput := ⟨"", "", "", "", none, []⟩

/-- The path, which has to be there. -/
def FileInput.pathField : RecordField FileInput :=
  .needed "file_path" toText fun a s => { s with path := a }

def Replacement.fields : List (RecordField Replacement) :=
  [.optional "old_string" toText fun a s => { s with old := a },
   .optional "new_string" toText fun a s => { s with new := a }]

def toReplacement : Value → Except Mismatch Replacement :=
  readRecord "EditOperation" .ofArray Replacement.fields ⟨"", ""⟩

def FileInput.writeFields : List (RecordField FileInput) :=
  [FileInput.pathField, .optional "content" toText fun a s => { s with content := a }]

def FileInput.editFields : List (RecordField FileInput) :=
  [FileInput.pathField,
   .optional "old_string" toText fun a s => { s with old := a },
   .optional "new_string" toText fun a s => { s with new := a },
   .optional "replace_all" (toOption toBool) fun a s => { s with everywhere := a }]

def FileInput.multiEditFields : List (RecordField FileInput) :=
  [FileInput.pathField, .optional "edits" (toList toReplacement) fun a s => { s with edits := a }]

def toBash (input : Value) : Except Mismatch Call :=
  (readRecord "BashToolInput" .ofArray BashInput.fields ⟨"", none, none⟩ input).map fun i =>
    .bash i.command i.description i.timeout

def toWrite (input : Value) : Except Mismatch Call :=
  (readRecord "WriteToolInput" .ofArray FileInput.writeFields .empty input).map fun i =>
    .write i.path i.content

def toEdit (input : Value) : Except Mismatch Call :=
  (readRecord "EditToolInput" .ofArray FileInput.editFields .empty input).map fun i =>
    .edit i.path i.old i.new i.everywhere

def toMultiEdit (input : Value) : Except Mismatch Call :=
  (readRecord "MultiEditToolInput" .ofArray FileInput.multiEditFields .empty input).map fun i =>
    .multiEdit i.path i.edits

/-- The typed call of a known tool. -/
def typed? (tool : String) (input : Value) : Option Call :=
  match tool with
  | "Bash" => (toBash input).toOption
  | "Write" => (toWrite input).toOption
  | "Edit" => (toEdit input).toOption
  | "MultiEdit" => (toMultiEdit input).toOption
  | _ => none

def Call.of (tool : String) (input : Value) : Call := (typed? tool input).getD (.other tool input)

/-! ## What a call does -/

namespace Call

def tool : Call → String
  | bash _ _ _ => "Bash"
  | write _ _ => "Write"
  | edit _ _ _ _ => "Edit"
  | multiEdit _ _ => "MultiEdit"
  | other tool _ => tool

/-- The command that the call runs in a shell. -/
def shellCommand? : Call → Option String
  | bash command _ _ => some command
  | other _ input => (input.member? "command").bind Value.text?
  | _ => none

end Call

/-- A change of a file: its path and the text put into it. -/
structure FileWrite where
  path : String
  text : String
deriving DecidableEq, Repr

def FileWrite.name (w : FileWrite) : String := fileName w.path

namespace Call

def writes : Call → Option FileWrite
  | write path content => some ⟨path, content⟩
  | edit path _ new _ => some ⟨path, new⟩
  | multiEdit path edits => some ⟨path, String.intercalate "\n" (edits.map (·.new))⟩
  | _ => none

/-- The change of a file that the call makes; a file without path is none. -/
def fileWrite? (c : Call) : Option FileWrite := c.writes.filter fun w => w.path ≠ ""

end Call
end CycleLog.Tool
