import CycleLog.Json.Writer

/-!
# What a tool printed

A tool answers with a text, with an object that holds a text, or with a list of blocks of which
those of type `text` hold one.
-/

namespace CycleLog.Tool
set_option autoImplicit false

open Json

/-- A text as it is, and any other value as JSON text. -/
def plainText : Value → String
  | .text s => s
  | v => write v

/-- The text of a block of type `text`. -/
def blockText? (v : Value) : Option String :=
  match v.member? "type" with
  | some (.text "text") => some (((v.member? "text").bind Value.text?).getD "")
  | _ => none

def printedText : Value → String
  | .text s => s
  | .object ms =>
    match ms.lookup "stdout", ms.lookup "content" with
    | some v, _ => plainText v
    | none, some v => plainText v
    | none, none => write (.object ms)
  | .list vs => String.intercalate "\n" (vs.filterMap blockText?)
  | v => write v

end CycleLog.Tool
