import CycleLog.Problem
import CycleLog.Pattern.Size
import CycleLog.Pattern.Search
import CycleLog.Tool.Event
import CycleLog.Trigger.Subject
import CycleLog.Trigger.Passed

/-!
# Which events are logged

A `Matcher` recognises calls that run the tests: calls of the shell tool whose command holds a given
pattern. A `Filter` lets an event through when its call is such a call and its output holds a
marker of success; a `Refusal` says why it does not.
-/

namespace CycleLog.Trigger
set_option autoImplicit false

open Tool

structure Settings where
  tool : String
  /-- Is searched for in the command. -/
  command : String
  /-- Marks the output of a passing run. -/
  marker : String
deriving DecidableEq, Repr

def Settings.standard : Settings := ⟨"Bash", "gradlew.*test", "BUILD SUCCESSFUL"⟩

/-! ## Calls that run the tests -/

structure Matcher where
  tool : String
  command : Pattern

namespace Matcher

def make (tool command : String) (fits : Pattern.SizeLimit := .estimated) : Except Problem Matcher :=
  match Pattern.read? fits command with
  | some p => .ok ⟨tool, p⟩
  | none => .error (.testCommand command)

def isShellTool (m : Matcher) (c : Call) : Bool := c.tool == m.tool

def isTestCommand (m : Matcher) (command : String) : Bool := m.command.found command

def accepts (m : Matcher) (c : Call) : Bool :=
  m.isShellTool c &&
    (match c.shellCommand? with
    | some command => m.isTestCommand command
    | none => false)

end Matcher

/-! ## Passing runs -/

inductive Refusal where
  | wrongTool
  | notATestRun
  | noSuccessMarker
deriving DecidableEq, Repr

def Refusal.message : Refusal → String
  | .wrongTool => "not a shell tool call"
  | .notATestRun => "command is not a test run"
  | .noSuccessMarker => "output has no success marker"

/-- A passing test run. -/
structure TestRun where
  command : String
  stdout : String
deriving DecidableEq, Repr

def TestRun.subject (r : TestRun) : String := Trigger.subject r.command

def TestRun.passedMethods (r : TestRun) : List String := Trigger.passedMethods r.stdout

structure Filter where
  matcher : Matcher
  marker : String

namespace Filter

def make (s : Settings) (fits : Pattern.SizeLimit := .estimated) : Except Problem Filter := do
  let m ← Matcher.make s.tool s.command fits
  .ok ⟨m, s.marker⟩

/-- The test run that an event reports. -/
def check (f : Filter) (e : Event) : Except Refusal TestRun :=
  let call := e.call
  if !f.matcher.isShellTool call then .error .wrongTool
  else
    let command := call.shellCommand?.getD ""
    if !f.matcher.isTestCommand command then .error .notATestRun
    else if !Text.occursIn f.marker.toList e.stdout.toList then .error .noSuccessMarker
    else .ok ⟨command, e.stdout⟩

end Filter

/-- The filter that decides whether a problem with the configuration is reported: the configured
one, or the standard one if there is none or its pattern is none. -/
def effective (s : Option Settings) (fits : Pattern.SizeLimit := .estimated) : Except Problem Filter :=
  match s.map (Filter.make · fits) with
  | some (.ok f) => .ok f
  | _ => Filter.make Settings.standard fits

/-- Whether an event counts as a passing test run for that purpose. -/
def wouldTrigger (e : Event) (s : Option Settings) (fits : Pattern.SizeLimit := .estimated) : Bool :=
  match effective s fits with
  | .ok f => (f.check e).isOk
  | .error _ => true

end CycleLog.Trigger
