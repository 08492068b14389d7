import CycleLog.Proofs.Success
import CycleLog.Transcript.Window
import CycleLog.Trigger.Basic

/-!
# Which calls count as test runs

A filter looks at the event of a call, and its matcher at the call as the transcript holds it. Both
compare the tool and search the command, but a call without command is searched as an empty one by the
filter and is passed over by the matcher. So the two tell the same calls apart exactly where the
pattern is not found in an empty text (`recognizes_iff_accepts`).
-/

namespace CycleLog.Trigger
set_option autoImplicit false

open Tool Transcript

/-- The filter gets past the command of the event: it accepts the event or only misses the marker. -/
def Filter.Recognizes (f : Filter) (e : Event) : Prop :=
  (∃ t, f.check e = .ok t) ∨ f.check e = .error .noSuccessMarker

/-! ## Filter and matcher, each on its own -/

theorem Filter.recognizes_iff {f : Filter} {e : Event} : f.Recognizes e ↔
    f.matcher.isShellTool e.call = true ∧
      f.matcher.isTestCommand (e.call.shellCommand?.getD "") = true := by
  unfold Filter.Recognizes Filter.check
  dsimp only
  cases f.matcher.isShellTool e.call with
  | false => simp
  | true =>
    cases f.matcher.isTestCommand (e.call.shellCommand?.getD "") with
    | false => simp
    | true => cases Text.occursIn f.marker.toList e.stdout.toList <;> simp

theorem Matcher.accepts_iff {m : Matcher} {c : Call} : m.accepts c = true ↔
    m.isShellTool c = true ∧ ∃ command, c.shellCommand? = some command ∧
      m.isTestCommand command = true := by
  unfold Matcher.accepts
  cases c.shellCommand? <;> simp

/-- An entry with a single call runs the tests when that call does. -/
theorem runs_single {m : Matcher} {uuid : Option String} {tool : String} {input : Json.Value} :
    (Entry.assistant ⟨uuid, .blocks [.toolUse tool input]⟩).runs m.accepts =
      m.accepts (.of tool input) := by
  simp [Entry.runs, Entry.calls, Entry.blocks?, Block.call?]

/-! ## Calls without command -/

/-- Whatever the tool is, data of no shape makes a call without command. -/
theorem call_of_null (tool : String) : Call.of tool .null = .other tool .null := by
  have htyped : typed? tool .null = none := by
    unfold typed?
    split <;> rfl
  rw [Call.of, htyped]
  rfl

/-- An event of that tool whose call has no command. -/
def uncommanded (tool : String) : Event := { Event.empty with tool := tool }

theorem shellCommand?_uncommanded (tool : String) : (uncommanded tool).call.shellCommand? = none := by
  have hcall : (uncommanded tool).call = .other tool .null := call_of_null tool
  rw [hcall]
  rfl

theorem isShellTool_uncommanded (m : Matcher) : m.isShellTool (uncommanded m.tool).call = true := by
  have hcall : (uncommanded m.tool).call = .other m.tool .null := call_of_null m.tool
  rw [hcall]
  exact beq_self_eq_true m.tool

/-! ## The two together -/

/-- What the filter recognizes the matcher accepts, but for calls without command. -/
theorem Filter.recognizes_iff_accepts_or {f : Filter} {e : Event} : f.Recognizes e ↔
    f.matcher.accepts e.call = true ∨
      (f.matcher.isShellTool e.call = true ∧ e.call.shellCommand? = none ∧
        f.matcher.isTestCommand "" = true) := by
  rw [Filter.recognizes_iff, Matcher.accepts_iff]
  cases e.call.shellCommand? <;> simp

/-- A filter recognizes the calls that its matcher accepts, and with them the calls of the shell tool
that have no command if the pattern is found in an empty text. So the two agree on all events, and
on the entries that stand for these events in a transcript, exactly if it is not found there. -/
theorem recognizes_iff_accepts (f : Filter) :
    (∀ e, f.Recognizes e ↔ f.matcher.accepts e.call = true ∨
      (f.matcher.isShellTool e.call = true ∧ e.call.shellCommand? = none ∧
        f.matcher.isTestCommand "" = true)) ∧
    ((∀ e, f.Recognizes e ↔ f.matcher.accepts e.call = true) ↔ f.matcher.isTestCommand "" = false) ∧
    ((∀ e uuid, f.Recognizes e ↔
      (Entry.assistant ⟨uuid, .blocks [.toolUse e.tool e.input]⟩).runs f.matcher.accepts = true) ↔
        f.matcher.isTestCommand "" = false) := by
  have hagree : (∀ e, f.Recognizes e ↔ f.matcher.accepts e.call = true) ↔
      f.matcher.isTestCommand "" = false := by
    constructor
    · intro h
      -- a call without command tells the two apart, whatever the tool is called
      have hnone := shellCommand?_uncommanded f.matcher.tool
      have hno : ¬ f.matcher.accepts (uncommanded f.matcher.tool).call = true := by
        rw [Matcher.accepts_iff, hnone]
        simp
      rw [← h, Filter.recognizes_iff, hnone] at hno
      simpa [isShellTool_uncommanded] using hno
    · intro h e
      rw [Filter.recognizes_iff_accepts_or]
      simp [h]
  refine ⟨fun e => Filter.recognizes_iff_accepts_or, hagree, ?_⟩
  simp only [runs_single, ← hagree]
  exact ⟨fun h e => h e none, fun h e _ => h e⟩

/-- A call of the shell tool that says nothing of a command, and that went well. -/
def Event.ofNoCommand : Event :=
  { Event.empty with tool := "Bash", input := .object [], answer := .text "BUILD SUCCESSFUL" }

/-- With a pattern for any command at all the event is logged as a test run, and its call is none. -/
theorem recognizes_ofNoCommand : ∃ f, Filter.make ⟨"Bash", ".*", "BUILD SUCCESSFUL"⟩ = .ok f ∧
    Event.read "\x7b\"tool_name\":\"Bash\",\"tool_input\":\x7b\x7d,\"tool_response\":\"BUILD SUCCESSFUL\"\x7d" =
      .ok Event.ofNoCommand ∧
    f.check Event.ofNoCommand = .ok ⟨"", "BUILD SUCCESSFUL"⟩ ∧
    f.matcher.accepts Event.ofNoCommand.call = false := by
  have hread : Event.read
      "\x7b\"tool_name\":\"Bash\",\"tool_input\":\x7b\x7d,\"tool_response\":\"BUILD SUCCESSFUL\"\x7d" =
        .ok Event.ofNoCommand := by rfl
  have hverdicts : (do
      let f ← Filter.make ⟨"Bash", ".*", "BUILD SUCCESSFUL"⟩
      .ok (f.check Event.ofNoCommand, f.matcher.accepts Event.ofNoCommand.call)) =
        Except.ok (Except.ok ⟨"", "BUILD SUCCESSFUL"⟩, false) := by decide +kernel
  obtain ⟨f, hmake, h⟩ := bind_eq_ok_iff.mp hverdicts
  obtain ⟨hcheck, haccepts⟩ := Prod.mk.inj (Except.ok.inj h)
  exact ⟨f, hmake, hread, hcheck, haccepts⟩

end CycleLog.Trigger
