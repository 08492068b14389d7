import CycleLog.CommandLine
import CycleLog.Config.Load
import CycleLog.Hook

/-!
# The program

A run reads one event from its input. A problem with the configuration is reported only when the
event counts as a passing test run; for any other event it is merely noted.
-/

namespace CycleLog
set_option autoImplicit false

open Journal

/-! ## What is noted -/

/-- The form in which the journal shows an outcome. -/
def Outcome.shown : Outcome → String
  | .ineligible r => r.message
  | .missingCredential => "MissingCredential"
  | .missingTranscript => "MissingTranscript"
  | .published n => "Published \x7b blocks: " ++ toString n ++ " \x7d"
  | .deliveryFailed => "DeliveryFailed"

def outcomeLine (o : Outcome) : Effects :=
  match o with
  | .ineligible r => .say .debug programTopic ("nothing logged reason=" ++ r.message)
  | o => .say .debug programTopic ("done outcome=" ++ o.shown)

def eventLine (e : Tool.Event) : Effects :=
  .say .debug programTopic
    ("received hook input session=" ++ Text.quotedOption e.session ++
      " event=" ++ Text.quotedOption e.name ++ " tool=" ++ e.tool)

def ignoredLine (p : Problem) : Effects :=
  .say .debug programTopic ("ignoring config error for ineligible event: " ++ p.message)

/-! ## Runs -/

/-- Reports a problem with the configuration, if the event counts as a passing test run. -/
def reported (m : Machine) (e : Tool.Event) (settings : Option Trigger.Settings) (p : Problem) :
    Except Problem (Option Outcome) × Effects :=
  if Trigger.wouldTrigger e settings m.fits then (.error p, .none) else (.ok none, ignoredLine p)

/-- Handles an event under a configuration. -/
def runWith (m : Machine) (w : World) (dryRun : Bool) (e : Tool.Event) (c : Config) :
    Except Problem (Option Outcome) × Effects :=
  match Hook.make c m.fits with
  | .error p => reported m e (some c.trigger) p
  | .ok h =>
    if m.runtime then
      match h.handle w e (.choose dryRun w.env c.page) m with
      | (.ok o, done) => (.ok (some o), done ++ outcomeLine o)
      | (.error p, done) => (.error p, done)
    else (.error .runtime, .none)

/-- Loads the configuration and handles an event. -/
def runEvent (m : Machine) (w : World) (o : CommandLine.Options) (e : Tool.Event) :
    Except Problem (Option Outcome) × Effects :=
  match Config.load w.files o.config e.cwd (w.env.lookup Config.pageVariable) with
  | .error p => reported m e none p
  | .ok c => runWith m w o.dryRun e c

/-- What a run on the bytes of its input comes to: what became of the event, or nothing when a
problem with the configuration is passed over. -/
def attempt (m : Machine) (w : World) (o : CommandLine.Options) (input : ByteArray) :
    Except Problem (Option Outcome) × Effects :=
  match String.fromUTF8? input with
  | none => (.error .inputBytes, .none)
  | some text =>
    match Tool.Event.read text with
    | .error _ => (.error .inputShape, .none)
    | .ok e =>
      let (result, done) := runEvent m w o e
      (result, eventLine e ++ done)

/-- A whole run. What becomes of the event only shows in the journal. -/
def run (w : World) (o : CommandLine.Options) (input : ByteArray) (m : Machine := .able) :
    Except Problem Unit × Effects :=
  let (result, done) := attempt m w o input
  (result.map fun _ => (), done)

/-! ## The command -/

/-- The variable that says which lines of the journal are shown. -/
def journalVariable : String := "TDD_NOTION_LOG"

/-- What a command puts out. -/
structure Output where
  stdout : String
  stderr : List String

/-- The lines of the journal that are shown. -/
def shownLines (env : List (String × String)) (ls : List Line) : List String :=
  let rules := rulesOf (env.lookup journalVariable)
  (ls.filter (shows rules)).map Line.text

/-- The whole program. It always ends well, so that no tool call is held up by it. -/
def command (w : World) (args : List String) (input : ByteArray) (m : Machine := .able) : Output :=
  match CommandLine.parse args with
  | .error stop => ⟨stop.output, stop.message?.toList⟩
  | .ok o =>
    let (result, done) := run w o input m
    let last := match result with
      | .ok () => []
      | .error p => [⟨.error, programTopic, p.message⟩]
    ⟨done.stdout, shownLines w.env (done.journal ++ last)⟩

end CycleLog
