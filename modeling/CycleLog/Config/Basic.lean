import CycleLog.Json.Shape
import CycleLog.Page.Client
import CycleLog.Trigger.Basic
import CycleLog.Phase.Sorting
import CycleLog.Section.Settings

/-!
# Configuration

A configuration has five sections. `Config.read` overlays the standard configuration with what a
value sets; what it does not set stays, and keys that mean nothing are passed over.
-/

namespace CycleLog
set_option autoImplicit false

open Json

structure Config where
  page : Page.Settings
  trigger : Trigger.Settings
  /-- How many of the latest entries of a transcript are looked at. -/
  maxEntries : Nat
  sorting : Phase.Settings
  look : Section.Settings
deriving DecidableEq, Repr

def Config.standard : Config :=
  ⟨.standard, .standard, 500, .standard, .standard⟩

namespace Config

def toUsize : Value → Except Mismatch Nat := toNat "usize"

/-! ## Fields -/

def pageFields : List (RecordField Page.Settings) :=
  [.optional "page_id" toText fun a s => { s with pageId := a },
   .optional "api_version" toText fun a s => { s with apiVersion := a },
   .optional "base_url" toText fun a s => { s with baseUrl := a },
   .optional "timeout_secs" (toNat "u64") fun a s => { s with timeout := a },
   .optional "credential_env" toText fun a s => { s with credential := a }]

def triggerFields : List (RecordField Trigger.Settings) :=
  [.optional "tool_name" toText fun a s => { s with tool := a },
   .optional "command_pattern" toText fun a s => { s with command := a },
   .optional "success_marker" toText fun a s => { s with marker := a }]

def transcriptFields : List (RecordField Nat) := [.optional "max_entries" toUsize fun a _ => a]

def sortingFields : List (RecordField Phase.Settings) :=
  [.optional "test_file_pattern" toText fun a s => { s with testPattern := a },
   .optional "source_file_pattern" toText fun a s => { s with sourcePattern := a },
   .optional "reasoning_fallback_chars" toUsize fun a s => { s with thoughtLimit := a }]

def phraseFields : List (RecordField Section.Phrases) :=
  [.optional "heading" toText fun a s => { s with heading := a },
   .optional "red" toText fun a s => { s with red := a },
   .optional "red_generic" toText fun a s => { s with redGeneric := a },
   .optional "green_implemented" toText fun a s => { s with greenImplemented := a },
   .optional "green_verified" toText fun a s => { s with greenVerified := a },
   .optional "refactor" toText fun a s => { s with refactor := a },
   .optional "result" toText fun a s => { s with result := a },
   .optional "reasoning_title" toText fun a s => { s with reasoningTitle := a },
   .optional "file" toText fun a s => { s with file := a }]

/-! ## Sections -/

def toPage (x : Surplus) : Value → Except Mismatch Page.Settings :=
  readRecord "NotionConfig" x pageFields .standard

def toTrigger (x : Surplus) : Value → Except Mismatch Trigger.Settings :=
  readRecord "TriggerConfig" x triggerFields .standard

def toTranscript (x : Surplus) : Value → Except Mismatch Nat :=
  readRecord "TranscriptConfig" x transcriptFields standard.maxEntries

def toSorting (x : Surplus) : Value → Except Mismatch Phase.Settings :=
  readRecord "ClassifierConfig" x sortingFields .standard

def toPhrases (x : Surplus) : Value → Except Mismatch Section.Phrases :=
  readRecord "Phrases" x phraseFields .standard

def lookFields (x : Surplus) : List (RecordField Section.Settings) :=
  [.optional "max_blocks" toUsize fun a s => { s with maxBlocks := a },
   .optional "max_text_len" toUsize fun a s => { s with maxText := a },
   .optional "utc_offset_hours" (toInteger "i8" (-128) 127) fun a s => { s with offset := a },
   .optional "phrases" (toPhrases x) fun a s => { s with phrases := a }]

def toLook (x : Surplus) : Value → Except Mismatch Section.Settings :=
  readRecord "RenderConfig" x (lookFields x) .standard

def fields (x : Surplus) : List (RecordField Config) :=
  [.optional "notion" (toPage x) fun a c => { c with page := a },
   .optional "trigger" (toTrigger x) fun a c => { c with trigger := a },
   .optional "transcript" (toTranscript x) fun a c => { c with maxEntries := a },
   .optional "classifier" (toSorting x) fun a c => { c with sorting := a },
   .optional "render" (toLook x) fun a c => { c with look := a }]

/-- The configuration that a value describes. -/
def read (x : Surplus) : Value → Except Mismatch Config :=
  readRecord "Config" x (fields x) standard

end Config
end CycleLog
