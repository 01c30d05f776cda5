import AppLifecycle.Command.Arguments
import AppLifecycle.Command.Failure
import AppLifecycle.Config.Json
import AppLifecycle.Queue
import AppLifecycle.Roster.Json
import AppLifecycle.Script
import AppLifecycle.Text.Utf8

/-!
# The commands

`check-config` reads a configuration file, checks it and prints it with all its fields. `replay`
feeds a script to a fresh coordinator and prints each notification on a line of its own, and
then a snapshot. A frame for which there is no texture is skipped; a command that fails prints
nothing but its complaint.
-/

namespace AppLifecycle

/-- The files that a command may read, by path. -/
abbrev FileStore :=
  String → Except FileError (List UInt8)

namespace FileStore

/-- Reads a file as text. -/
def readText (files : FileStore) (path : String) : Except FileError String := do
  let bytes ← files path
  match Text.decodeStrict? bytes with
  | some text => .ok text
  | none => .error .notText

end FileStore

namespace LifecycleConfig

/-- Reads and checks a configuration. -/
def parse (text : String) : Except Cause LifecycleConfig := do
  let config ← (Json.readDocument read text.toList).mapError .json
  config.validate.mapError .failure
  return config

/-- Reads and checks a configuration file. -/
def load (files : FileStore) (path : String) : Except Cause LifecycleConfig := do
  let text ← (files.readText path).mapError .file
  parse text

/-- The configuration as text, one field on a line. -/
def printed (config : LifecycleConfig) : String :=
  config.toJson.indented

end LifecycleConfig

namespace ScriptError

/-- The error with its line as circumstance. -/
def toFailure (error : ScriptError) : CommandFailure where
  context := ["line " ++ toString error.line]
  cause := .json error.cause

end ScriptError

namespace Script

/-- Reads a script file. -/
def load (files : FileStore) (path : String) : Except CommandFailure (List ScriptStep) := do
  let text ← (files.readText path).mapError fun error =>
    ⟨["failed to read script " ++ path], .file error⟩
  (parse text.toList).mapError fun error => error.toFailure.within ("invalid script " ++ path)

end Script

namespace ScriptStep

/-- What a step posts to the coordinator. Requests are waited for one at a time, so they share a
ticket. -/
def envelope : ScriptStep → Envelope
  | compositor event => .compositor event
  | shell command => .shell command
  | authorize pid appId => .authorize pid appId 0
  | bindTexture surface buffer => .bindTexture surface buffer 0

end ScriptStep

namespace Failure

/-- Whether a replay goes on after a request for a texture has failed: the frame is skipped, or
there is no such surface. -/
def isPassedOver : Failure → Bool
  | unknownSurface _ => true
  | failure => failure.isResourceFailure

end Failure

namespace Reply

/-- The failure over which a replay breaks off at an answer. -/
def fatal? : Reply → Option Failure
  | bound (.error failure) => if failure.isPassedOver then none else some failure
  | _ => none

end Reply

namespace Command

/-- Feeds the steps of a script to a coordinator, one after the other, until an answer breaks the
replay off. -/
def drive {π : Type} (setup : Setup π) :
    List ScriptStep → Coordinator π → Step (Coordinator π) (Except Failure Unit)
  | [], state => .quiet state (.ok ())
  | step :: rest, state =>
      (Coordinator.serve setup step.envelope state).andThen fun replies next =>
        match replies.findSome? (·.2.fatal?) with
        | some failure => .quiet next (.error failure)
        | none => drive setup rest next

/-- The line that shows a notification. -/
def notificationLine (notification : ShellNotification) : String :=
  notification.toJson.compact

/-- The line that shows a snapshot. -/
def snapshotLine (snapshot : ShellSnapshot) : String :=
  (Json.object [("snapshot", snapshot.toJson)]).sortKeys.compact

/-- The lines that a script prints under a configuration. What the coordinator tells as it is shut
down afterwards is not printed. -/
def replayLines (config : LifecycleConfig) (processes : ProcessTable) (walk : Registry.Walk)
    (steps : List ScriptStep) : Except CommandFailure (List String) :=
  let setup := Setup.ofConfig config processes walk
  let driven := drive setup steps (Coordinator.start setup)
  match driven.answer with
  | .error failure => .error ⟨[], .failure failure⟩
  | .ok _ =>
      .ok ((Effect.notifications driven.effects).map notificationLine ++
        [snapshotLine driven.state.snapshot])

/-- The configuration of a replay as the file has it, if one is named. -/
def baseConfig (files : FileStore) : Option String → Except Cause LifecycleConfig
  | some path => LifecycleConfig.load files path
  | none => .ok {}

/-- The configuration of a replay: that of the file, if there is one, with what the command line
adds. -/
def replayConfig (files : FileStore) (config : Option String) (throttle : Bool)
    (exempt : List String) : Except Cause LifecycleConfig := do
  let base ← baseConfig files config
  let merged := base.extend throttle exempt
  merged.validate.mapError .failure
  return merged

/-- The lines that a command prints. -/
def run (files : FileStore) (processes : ProcessTable) (command : Command)
    (walk : Registry.Walk := .ascending) : Except CommandFailure (List String) :=
  match command with
  | replay script config throttle exempt => do
      let merged ← (replayConfig files config throttle exempt).mapError fun cause => ⟨[], cause⟩
      let steps ← Script.load files script
      replayLines merged processes walk steps
  | checkConfig file => do
      let config ← (LifecycleConfig.load files file).mapError fun cause => ⟨[], cause⟩
      return [config.printed]

/-- Lines as the text that is printed. -/
def outputOf (lines : List String) : String :=
  String.join (lines.map (· ++ "\n"))

/-- What the world sees of a command that has been run. -/
structure Outcome where
  /-- What stands on the standard output. -/
  output : String
  /-- What is complained of, on the error output. -/
  complaint : String
  exitCode : UInt32
  deriving DecidableEq, Inhabited, Repr

/-- The outcome of a command that fails. -/
def Outcome.failed (failure : CommandFailure) : Outcome where
  output := ""
  complaint := outputOf [failure.message]
  exitCode := 1

/-- The outcome of a command. -/
def outcome (files : FileStore) (processes : ProcessTable) (command : Command)
    (walk : Registry.Walk := .ascending) : Outcome :=
  match command.run files processes walk with
  | .ok lines => ⟨outputOf lines, "", 0⟩
  | .error failure => .failed failure

end Command

end AppLifecycle
