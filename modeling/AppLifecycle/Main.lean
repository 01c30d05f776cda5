import AppLifecycle.Command.Arguments
import AppLifecycle.Command.Reach
import AppLifecycle.Command.Run

/-!
# Command line

Reads the files and the processes that a command asks about, runs the command on what was found,
and prints. The exit code is 0 for success and for a call for help, 1 for a command that failed,
and 2 for arguments that name no command. Nothing is logged, whatever the arguments say of it.
-/

namespace AppLifecycle.CommandLine

/-- How the program is called. -/
def usage : String :=
  "usage: app-lifecycle [-v]... replay SCRIPT [--config FILE] [--throttle] [--exempt APP]...\n" ++
    "       app-lifecycle [-v]... check-config FILE"

/-- The version of the program. -/
def version : String :=
  "app-lifecycle 0.4.0"

/-- What an error of the host says about a file. -/
def fileError : IO.Error → FileError
  | .noFileOrDirectory .. => .notFound
  | .inappropriateType .. => .isDirectory
  | _ => .unreadable

/-- Reads a file. -/
def readBytes (path : String) : IO (Except FileError (List UInt8)) := do
  match ← (IO.FS.readBinFile path).toBaseIO with
  | .ok bytes => return .ok bytes.toList
  | .error error => return .error (fileError error)

/-- Reads some files ahead. -/
def gatherFiles (paths : List String) : IO FileStore := do
  let found ← paths.mapM fun path => return (path, ← readBytes path)
  return fun path => (found.lookup path).getD (.error .notFound)

/-- The directory of a process. -/
def processDirectory (pid : UInt32) : String :=
  "/proc/" ++ toString pid

/-- The process that runs this program. -/
def ownPid : IO UInt32 := do
  match ← readBytes "/proc/self/stat" with
  | .ok bytes =>
      let digits := (bytes.map (Char.ofNat ·.toNat)).takeWhile Char.isDigit
      return ((String.ofList digits).toNat?.map UInt32.ofNat).getD 0
  | .error _ => return 0

/-- Learns ahead what the host tells of some processes. -/
def gatherProcesses (pids : List UInt32) : IO ProcessTable := do
  let own ← ownPid
  let found ← pids.mapM fun pid => do
    let stat ← readBytes (processDirectory pid ++ "/stat")
    let environ ← readBytes (processDirectory pid ++ "/environ")
    return (pid, stat.toOption.bind Text.decodeStrict?, environ.toOption)
  return {
    own
    stat := fun pid => (found.lookup pid).bind (·.1)
    environ := fun pid => (found.lookup pid).bind (·.2) }

/-- Says why the arguments name no command. -/
def refuse (refusal : Refusal) : IO UInt32 := do
  match refusal with
  | .help => IO.println usage
  | .version => IO.println version
  | .misuse => IO.eprintln usage
  return refusal.exitCode.toUInt32

/-- Runs a command on what the host holds. -/
def execute (command : Command) : IO UInt32 := do
  let files ← gatherFiles command.paths
  let processes ← gatherProcesses (command.pids files)
  let outcome := command.outcome files processes
  IO.print outcome.output
  IO.eprint outcome.complaint
  return outcome.exitCode

end AppLifecycle.CommandLine

/-- Does what the arguments ask for. -/
def main (arguments : List String) : IO UInt32 :=
  match AppLifecycle.Arguments.parse arguments with
  | .ok invocation => AppLifecycle.CommandLine.execute invocation.command
  | .error refusal => AppLifecycle.CommandLine.refuse refusal
