import CycleLog.Json.Direct
import CycleLog.Tool.Call
import CycleLog.Tool.Output

/-!
# Events

An event tells that a tool has been used: with what input, with what answer, and where the
transcript of the conversation lies.
-/

namespace CycleLog.Tool
set_option autoImplicit false

open Json

structure Event where
  session : Option String
  cwd : Option String
  name : Option String
  transcript : String
  tool : String
  input : Value
  answer : Value

namespace Event

def empty : Event := ⟨none, none, none, "", "", .null, .null⟩

def fields : List (DirectField Event) :=
  [.ofScalar "session_id" (toOption toText) fun a e => { e with session := a },
   .ofScalar "cwd" (toOption toText) fun a e => { e with cwd := a },
   .ofScalar "hook_event_name" (toOption toText) fun a e => { e with name := a },
   .ofScalar "transcript_path" toText fun a e => { e with transcript := a },
   .ofScalar "tool_name" toText fun a e => { e with tool := a },
   .ofValue "tool_input" fun a e => { e with input := a },
   .ofValue "tool_response" fun a e => { e with answer := a }]

def read (text : String) : Except ReadError Event :=
  readDirect "PostToolUseInput" fields empty text

def call (e : Event) : Call := .of e.tool e.input

def stdout (e : Event) : String := printedText e.answer

end Event
end CycleLog.Tool
