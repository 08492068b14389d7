/-!
# The command line

A run takes the path of a configuration file, and may be told to print instead of sending. `parse`
reads the arguments from left to right, and the first thing that is wrong decides what is reported.
-/

namespace CycleLog.CommandLine
set_option autoImplicit false

structure Options where
  config : Option String
  dryRun : Bool
deriving DecidableEq, Repr

/-- An option that the program knows. -/
inductive Flag where
  | config
  | dryRun
  | help
  | version
deriving DecidableEq, Repr

/-- How a message names an option. -/
def Flag.label : Flag → String
  | .config => "--config <PATH>"
  | .dryRun => "--dry-run"
  | .help => "--help"
  | .version => "--version"

/-- Why the arguments are not options for a run. -/
inductive Stop where
  | help
  | version
  | unknown (argument : String)
  | noValue
  | twice (flag : Flag)
  /-- A value for an option that takes none. -/
  | surplus (flag : Flag) (value : String)
deriving DecidableEq, Repr

/-! ## Single arguments -/

/-- What an argument looks like. -/
inductive Shape where
  /-- Two hyphens alone: no options follow. -/
  | separator
  | long (name : String) (value : Option String)
  /-- A hyphen and letters. -/
  | short (letters : List Char)
  | word

def shape (arg : String) : Shape :=
  match arg.toList with
  | ['-', '-'] => .separator
  | '-' :: '-' :: r =>
    let name := String.ofList (r.takeWhile (· != '='))
    match r.dropWhile (· != '=') with
    | [] => .long name none
    | _ :: v => .long name (some (String.ofList v))
  | '-' :: c :: r => .short (c :: r)
  | _ => .word

def longFlag? : String → Option Flag
  | "config" => some .config
  | "dry-run" => some .dryRun
  | "help" => some .help
  | "version" => some .version
  | _ => none

def shortFlag? : Char → Option Flag
  | 'h' => some .help
  | 'V' => some .version
  | _ => none

/-! ## All arguments -/

/-- Options read so far; `waiting` says that a path has to follow. -/
structure State where
  options : Options
  waiting : Bool

/-- Takes the path of the configuration. -/
def State.path (s : State) (value : String) : Except Stop State :=
  if s.options.config.isSome then .error (.twice .config)
  else if value = "" then .error .noValue
  else .ok ⟨{ s.options with config := some value }, false⟩

/-- Takes an option without value. -/
def State.flag (s : State) (f : Flag) : Except Stop State :=
  if s.waiting then .error .noValue
  else
    match f with
    | .help => .error .help
    | .version => .error .version
    | .dryRun =>
      if s.options.dryRun then .error (.twice .dryRun)
      else .ok ⟨{ s.options with dryRun := true }, false⟩
    | .config => .ok ⟨s.options, true⟩

def State.long (s : State) (name : String) (value : Option String) : Except Stop State :=
  match longFlag? name, value with
  | none, _ => .error (.unknown ("--" ++ name))
  | some .config, some v => if s.waiting then .error .noValue else s.path v
  | some f, some v => .error (.surplus f v)
  | some f, none => s.flag f

def State.short (s : State) : List Char → Except Stop State
  | [] => .ok s
  | c :: r =>
    match shortFlag? c with
    | none => .error (.unknown (String.ofList ['-', c]))
    | some f => do
      let s ← s.flag f
      s.short r

/-- Reads arguments; `closed` says that no options follow. -/
def State.all (s : State) (closed : Bool) : List String → Except Stop State
  | [] => if s.waiting then .error .noValue else .ok s
  | arg :: rest =>
    if closed then .error (.unknown arg)
    else
      match shape arg with
      | .separator => s.all true rest
      | .long name value => do
        let s ← s.long name value
        s.all false rest
      | .short letters => do
        let s ← s.short letters
        s.all false rest
      | .word =>
        if s.waiting then do
          let s ← s.path arg
          s.all false rest
        else .error (.unknown arg)

def parse (args : List String) : Except Stop Options :=
  (State.all ⟨⟨none, false⟩, false⟩ false args).map (·.options)

/-! ## What is said -/

/-- A text in the quotes that messages use. -/
def inQuotes (s : String) : String := "'" ++ s ++ "'"

def helpText : String :=
  "Claude Code PostToolUse hook that logs Red-Green-Refactor cycles to a Notion page\n\n" ++
    "Usage: tdd-notion-logger [OPTIONS]\n\nOptions:\n" ++
    "      --config <PATH>  Config file to use instead of " ++
    "\x60<cwd>/.claude/tdd-notion-logger.toml\x60\n" ++
    "      --dry-run        Print the request body instead of sending it\n" ++
    "  -h, --help           Print help\n" ++
    "  -V, --version        Print version\n"

def versionText : String := "tdd-notion-logger 0.1.0\n"

/-- The first line that is said about wrong arguments; help and version are none. -/
def Stop.message? : Stop → Option String
  | .help | .version => none
  | .unknown arg => some ("error: unexpected argument " ++ inQuotes arg ++ " found")
  | .noValue =>
    some ("error: a value is required for " ++ inQuotes Flag.config.label ++
      " but none was supplied")
  | .twice flag =>
    some ("error: the argument " ++ inQuotes flag.label ++ " cannot be used multiple times")
  | .surplus flag value =>
    some ("error: unexpected value " ++ inQuotes value ++ " for " ++ inQuotes flag.label ++
      " found; no more were expected")

/-- What is printed on standard output. -/
def Stop.output : Stop → String
  | .help => helpText
  | .version => versionText
  | _ => ""

end CycleLog.CommandLine
