import CycleLog.Page.Block
import CycleLog.Json.Value

/-!
# The form in which blocks are sent

A block is sent as an object with its type, and under the name of that type the rest. A run says
that it is bold or code only when it is.
-/

namespace CycleLog.Page
set_option autoImplicit false

open Json

/-! ## Runs -/

/-- The styles that a run has. -/
def Run.styles (r : Run) : List Member :=
  (if r.bold then [("bold", .bool true)] else []) ++ (if r.code then [("code", .bool true)] else [])

def Run.toValue (r : Run) : Value :=
  let text := Value.make [("content", .text r.content)]
  let styles := if r.styles = [] then [] else [("annotations", Value.make r.styles)]
  Value.make ([("type", .text "text"), ("text", text)] ++ styles)

def runsToValue (runs : List Run) : Value := .list (runs.map Run.toValue)

/-! ## Blocks -/

def Color.wireName : Color → String
  | .red => "red_background"
  | .green => "green_background"
  | .blue => "blue_background"

/-- A block of a type. -/
def typed (type : String) (body : List Member) : Value :=
  Value.make [("object", .text "block"), ("type", .text type), (type, Value.make body)]

mutual

def Block.toValue : Block → Value
  | .heading runs => typed "heading_2" [("rich_text", runsToValue runs)]
  | .paragraph runs => typed "paragraph" [("rich_text", runsToValue runs)]
  | .bullet runs => typed "bulleted_list_item" [("rich_text", runsToValue runs)]
  | .toggle title color children =>
    typed "toggle"
      [("rich_text", runsToValue title), ("color", .text color.wireName),
       ("children", .list (blocksToValues children))]
  | .divider => typed "divider" []

def blocksToValues : List Block → List Value
  | [] => []
  | b :: bs => b.toValue :: blocksToValues bs

end

/-- What is sent to put blocks at the end of a page. -/
def appendBody (blocks : List Block) : Value :=
  Value.make [("children", .list (blocksToValues blocks))]

end CycleLog.Page
