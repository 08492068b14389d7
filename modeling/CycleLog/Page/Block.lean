/-!
# Blocks of a page

A page is a list of blocks of text. The text of a block is a list of runs, each of one style; a
toggle holds blocks of its own.
-/

namespace CycleLog.Page
set_option autoImplicit false

/-- Text of one style. -/
structure Run where
  content : String
  bold : Bool
  code : Bool
deriving DecidableEq, Repr

namespace Run

def plain (s : String) : Run := ⟨s, false, false⟩

def strong (s : String) : Run := ⟨s, true, false⟩

def mono (s : String) : Run := ⟨s, false, true⟩

end Run

inductive Color where
  | red
  | green
  | blue
deriving DecidableEq, Repr

inductive Block where
  | heading (runs : List Run)
  | paragraph (runs : List Run)
  | bullet (runs : List Run)
  | toggle (title : List Run) (color : Color) (children : List Block)
  | divider
deriving Repr

end CycleLog.Page
