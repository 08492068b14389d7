import CycleLog.Text.Quoted

/-!
# Problems

Why a run ends with an error, and what is said about it.
-/

namespace CycleLog
set_option autoImplicit false

open Text

inductive Problem where
  /-- What is sent to the program is not UTF-8. -/
  | inputBytes
  /-- What is sent to the program is no event. -/
  | inputShape
  /-- A configuration file cannot be read. -/
  | unreadable (path : String)
  /-- A configuration file is no configuration. -/
  | unparsable (path : String)
  | offset (hours : Int)
  | testCommand (pattern : String)
  | testFile (pattern : String)
  | sourceFile (pattern : String)
  /-- A phrase of that name is no template. -/
  | template (name : String)
  /-- A template cannot be rendered. -/
  | phrase (source : String)
  /-- A runtime cannot be started. -/
  | runtime
  /-- A client cannot be built. -/
  | client
deriving DecidableEq, Repr

def Problem.message : Problem → String
  | .inputBytes => "reading hook input from stdin"
  | .inputShape => "parsing hook input"
  | .unreadable path => "reading " ++ path
  | .unparsable path => "parsing " ++ path
  | .offset hours => "invalid utc_offset_hours " ++ toString hours
  | .testCommand pattern => "invalid test command pattern " ++ quoted pattern
  | .testFile pattern => "invalid test file pattern " ++ quoted pattern
  | .sourceFile pattern => "invalid source file pattern " ++ quoted pattern
  | .template name => "parsing " ++ name ++ " phrase template"
  | .phrase source => "rendering phrase " ++ quoted source
  | .runtime => "starting async runtime"
  | .client => "building HTTP client"

end CycleLog
