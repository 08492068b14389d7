import CycleLog.Program
import Std.Time.DateTime.Timestamp

/-!
# The command line program

Gathers what a run can see, and puts out what it says. No connection is made from here: a request
that is not printed goes unanswered.
-/

namespace CycleLog
set_option autoImplicit false

/-- Reads a stream to its end. -/
partial def readAll (s : IO.FS.Stream) (acc : ByteArray) : IO ByteArray := do
  let bytes ← s.read 65536
  if bytes.isEmpty then return acc else readAll s (acc ++ bytes)

/-- What lies at a path, under the names of the path. -/
def gather (path : String) : IO FileTree := do
  let names := FileTree.pathNames path
  try
    let bytes ← IO.FS.readBinFile path
    return ⟨[(names, some bytes)]⟩
  catch e =>
    match e with
    | .noFileOrDirectory .. => return .empty
    | _ => return ⟨[(names, none)]⟩

/-- The values of those names that are set in the environment. -/
def readVariables (names : List String) : IO (List (String × String)) := do
  let found ← names.mapM fun n => do
    return (← IO.getEnv n).map ((n, ·))
  return found.filterMap id

/-- The paths that a run may read. -/
def pathsOf (o : CommandLine.Options) (e : Tool.Event) : List String :=
  [e.transcript] ++ o.config.toList ++ (e.cwd.map Config.projectPath).toList

def worldFor (args : List String) (input : ByteArray) : IO World := do
  let event := (String.fromUTF8? input).bind fun t => (Tool.Event.read t).toOption
  let options := (CommandLine.parse args).toOption
  let paths := (options.bind fun o => event.map (pathsOf o)).getD []
  let trees ← paths.mapM gather
  let files : FileTree := ⟨trees.flatMap (·.entries)⟩
  let config := Config.load files (options.bind (·.config)) (event.bind (·.cwd)) none
  let credential := (config.toOption.map (·.page.credential)).toList
  let env ← readVariables ([Config.pageVariable, journalVariable] ++ credential)
  let now ← Std.Time.Timestamp.now
  return ⟨files, env, .ofSeconds now.toSecondsSinceUnixEpoch.val 0, fun _ => .unreachable⟩

end CycleLog

open CycleLog in
def main (args : List String) : IO Unit := do
  let input ← if (CommandLine.parse args).isOk then readAll (← IO.getStdin) .empty else pure .empty
  let world ← worldFor args input
  let out := command world args input
  IO.print out.stdout
  for line in out.stderr do
    IO.eprintln line
