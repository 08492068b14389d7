import CycleLog.Tool.Call

/-!
# Entries of a transcript

A transcript has an entry for each turn of the user and of the assistant; all other entries only
keep their place. What the assistant says consists of blocks: text, thinking, and calls of tools.
The kind of an entry or block is told by a tag, which in a list stands first.
-/

namespace CycleLog.Transcript
set_option autoImplicit false

open Json Tool

inductive Block where
  | text (s : String)
  | thinking (s : String)
  | toolUse (tool : String) (input : Value)
  | other
deriving Repr

inductive Content where
  | text (s : String)
  | blocks (bs : List Block)
deriving Repr

structure Turn where
  uuid : Option String
  content : Content
deriving Repr

inductive Entry where
  | user (t : Turn)
  | assistant (t : Turn)
  | other
deriving Repr

/-! ## Views -/

namespace Entry

def uuid? : Entry → Option String
  | user t | assistant t => t.uuid
  | other => none

/-- What the user typed. -/
def prompt? : Entry → Option String
  | user ⟨_, .text s⟩ => some s
  | _ => none

/-- What the assistant did. -/
def blocks? : Entry → Option (List Block)
  | assistant ⟨_, .blocks bs⟩ => some bs
  | _ => none

end Entry

def Block.call? : Block → Option Call
  | .toolUse tool input => some (.of tool input)
  | _ => none

/-- The tool calls of an entry, in order. -/
def Entry.calls (e : Entry) : List Call := (e.blocks?.getD []).filterMap Block.call?

/-! ## Tags -/

/-- A tag as data read it: a name, or inside other data also the number of a name in order. -/
def toTag (names : List String) (byNumber : Bool) : Value → Except Mismatch String
  | .text s => .ok s
  | .int n =>
    if byNumber ∧ 0 ≤ n then .ok (names.getD n.toNat "")
    else (Value.int n).unlike "variant identifier"
  | v => v.unlike "variant identifier"

/-- Data with a tag, and the data without it. -/
def tagged (type : String) (names : List String) (byNumber : Bool) :
    Value → Except Mismatch (String × Value)
  | .object ms =>
    match ms.lookup "type" with
    | none => .error (.missing "type")
    | some v => (toTag names byNumber v).map (·, .object ms)
  | .list [] => .error (.missing "type")
  | .list (v :: vs) => (toTag names byNumber v).map (·, .list vs)
  | v => v.unlike ("internally tagged enum " ++ type)

/-- Data that is passed over; a list has to be empty. -/
def passedOver : Value → Except Mismatch Unit
  | .list vs => Surplus.ofSequence.check vs.length 0
  | _ => .ok ()

/-! ## Blocks -/

def toTextBlock : Value → Except Mismatch String :=
  readRecord "TextBlock" .ofSequence [.optional "text" toText fun a _ => a] ""

def toThinkingBlock : Value → Except Mismatch String :=
  readRecord "ThinkingBlock" .ofSequence [.optional "thinking" toText fun a _ => a] ""

def toToolUse : Value → Except Mismatch (String × Value) :=
  readRecord "ToolUseBlock" .ofSequence
    [.needed "name" toText fun a s => (a, s.2), .optional "input" .ok fun a s => (s.1, a)]
    ("", .null)

def toBlock (byNumber : Bool) (v : Value) : Except Mismatch Block := do
  let (tag, rest) ← tagged "ContentBlock" ["text", "thinking", "tool_use"] byNumber v
  match tag with
  | "text" => (toTextBlock rest).map .text
  | "thinking" => (toThinkingBlock rest).map .thinking
  | "tool_use" => (toToolUse rest).map fun (tool, input) => .toolUse tool input
  | _ => (passedOver rest).map fun _ => .other

/-! ## Entries -/

def toContent : Value → Except Mismatch Content
  | .text s => .ok (.text s)
  | .list vs =>
    match vs.mapM (toBlock true) with
    | .ok bs => .ok (.blocks bs)
    | .error _ => .error (.noVariant "MessageContent")
  | _ => .error (.noVariant "MessageContent")

def noContent : Content := .blocks []

def toMessage : Value → Except Mismatch Content :=
  readRecord "Message" .ofSequence [.optional "content" toContent fun a _ => a] noContent

def toTurn : Value → Except Mismatch Turn :=
  readRecord "ConversationEntry" .ofSequence
    [.optional "uuid" (toOption toText) fun a t => { t with uuid := a },
     .optional "message" toMessage fun a t => { t with content := a }]
    ⟨none, noContent⟩

def toEntry (v : Value) : Except Mismatch Entry := do
  let (tag, rest) ← tagged "TranscriptEntry" ["user", "assistant"] false v
  match tag with
  | "user" => (toTurn rest).map .user
  | "assistant" => (toTurn rest).map .assistant
  | _ => (passedOver rest).map fun _ => .other

end CycleLog.Transcript
