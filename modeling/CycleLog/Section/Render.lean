import CycleLog.Problem
import CycleLog.Template.Render
import CycleLog.Phase.Sorting
import CycleLog.Page.Block
import CycleLog.Section.CodeSpan
import CycleLog.Section.Settings

/-!
# Laying out a section

A section tells of one cycle: a heading, what was written for red, green and refactor, and the
result. A page takes a hundred blocks at once, a hundred runs in a block and two thousand characters
in a run; a section keeps within these bounds and within the ones that are configured.
-/

namespace CycleLog.Section
set_option autoImplicit false

open Page Text
open Phase (Work Sorted)

/-! ## Bounds -/

/-- The most blocks that a page takes at once. -/
def pageBlocks : Nat := 100

/-- The most characters that a run may have. -/
def pageText : Nat := 2000

/-- The most runs that a block may have. -/
def pageRuns : Nat := 100

/-- The most test names that a summary lists. -/
def summaryNames : Nat := 5

/-! ## Renderers -/

structure Renderer where
  phrases : Phrases
  heading : List Template.Node
  red : List Template.Node
  file : List Template.Node
  maxBlocks : Nat
  maxText : Nat

def template (name source : String) : Except Problem (List Template.Node) :=
  match Template.read? source with
  | some ns => .ok ns
  | none => .error (.template name)

/-- A renderer for some settings, with bounds that a page allows. -/
def Renderer.make (s : Settings) : Except Problem Renderer := do
  let heading ← template "heading" s.phrases.heading
  let red ← template "red" s.phrases.red
  let file ← template "file" s.phrases.file
  .ok ⟨s.phrases, heading, red, file, min s.maxBlocks pageBlocks,
    min s.maxText (pageText - ellipsis.length)⟩

/-- What a section tells of. -/
structure Cycle where
  subject : String
  stamp : String
  phases : Sorted
  /-- The methods that the test run reported as passed. -/
  passed : List String

/-- The text of a phrase with the given names. -/
def phrase (source : String) (nodes : List Template.Node) (names : List (String × String)) :
    Except Problem String :=
  match Template.render nodes names with
  | .ok s => .ok s
  | .error _ => .error (.phrase source)

namespace Renderer

/-! ## Runs and paragraphs -/

/-- A run whose text is cut to what is allowed. -/
def run (r : Renderer) (x : Run) : Run := { x with content := cut x.content r.maxText }

def spanRun (r : Renderer) : Span → Run
  | .plain cs => r.run (.plain (String.ofList cs))
  | .code cs => r.run (.mono (String.ofList cs))

/-- The runs of a paragraph: a bold title if there is one, and the text in code and plain runs. -/
def paragraphRuns (r : Renderer) (title : Option String) (text : String) : List Run :=
  title.toList.map (fun t => r.run (.strong t)) ++
    (spans (cutList text.toList r.maxText)).map r.spanRun

def paragraph (r : Renderer) (title : Option String) (text : String) : Block :=
  .paragraph ((r.paragraphRuns title text).take pageRuns)

/-! ## Parts of a section -/

def headingBlock (r : Renderer) (c : Cycle) : Except Problem Block := do
  let s ← phrase r.phrases.heading r.heading [("subject", c.subject), ("timestamp", c.stamp)]
  .ok (.heading [r.run (.plain s)])

/-- The test names that the summary of red lists. -/
def chosenNames (c : Cycle) : List String :=
  match c.phases.redTestNames.take summaryNames with
  | [] => c.passed.take summaryNames
  | names => names

/-- A text between backticks. -/
def ticked (s : String) : String := String.ofList (Span.code s.toList).source

def redSummary (r : Renderer) (c : Cycle) : Except Problem String :=
  match chosenNames c with
  | [] => .ok r.phrases.redGeneric
  | names =>
    phrase r.phrases.red r.red [("names", String.intercalate ", " (names.map ticked))]

/-- A toggle that shows why something was done. -/
def reasoningBlock (r : Renderer) (color : Color) (why : String) : Block :=
  .toggle [r.run (.plain r.phrases.reasoningTitle)] color [r.paragraph none why]

def fileBlock (r : Renderer) (file : String) : Except Problem Block := do
  let s ← phrase r.phrases.file r.file [("file", file)]
  .ok (.bullet [r.run (.plain s)])

/-- The blocks of one contribution: the reasoning if there is one, and a line for each file. -/
def workBlocks (r : Renderer) (color : Color) (w : Work) : Except Problem (List Block) := do
  let files ← w.files.mapM r.fileBlock
  .ok ((if w.reasoning = "" then [] else [r.reasoningBlock color w.reasoning]) ++ files)

def phaseBlocks (r : Renderer) (color : Color) (ws : List Work) : Except Problem (List Block) := do
  let parts ← ws.mapM (r.workBlocks color)
  .ok parts.flatten

/-! ## Sections -/

def refactorBlocks (r : Renderer) (ws : List Work) : Except Problem (List Block) :=
  match ws with
  | [] => .ok []
  | _ => do
    let bs ← r.phaseBlocks .blue ws
    .ok (r.paragraph (some "Refactor: ") r.phrases.refactor :: bs)

def greenText (r : Renderer) (ws : List Work) : String :=
  match ws with
  | [] => r.phrases.greenVerified
  | _ => r.phrases.greenImplemented

/-- All blocks of a section. -/
def allBlocks (r : Renderer) (c : Cycle) : Except Problem (List Block) := do
  let heading ← r.headingBlock c
  let summary ← r.redSummary c
  let red ← r.phaseBlocks .red c.phases.red
  let green ← r.phaseBlocks .green c.phases.green
  let refactor ← r.refactorBlocks c.phases.refactor
  .ok ([heading, r.paragraph (some "Red: ") summary] ++ red ++
    [r.paragraph (some "Green: ") (r.greenText c.phases.green)] ++ green ++ refactor ++
    [r.paragraph (some "Result: ") r.phrases.result, .divider])

/-- The blocks of a section that are sent. -/
def render (r : Renderer) (c : Cycle) : Except Problem (List Block) := do
  let bs ← r.allBlocks c
  .ok (bs.take r.maxBlocks)

end Renderer
end CycleLog.Section
