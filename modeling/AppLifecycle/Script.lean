import AppLifecycle.Message.Json
import AppLifecycle.Text.Blank
import AppLifecycle.Text.Lines

/-!
# Scripts

A script holds one step on each line, as a JSON object with one member, whose name says where
the step enters the system. Blank lines, and lines that start with `#`, are skipped; they count
when an error names its line.
-/

namespace AppLifecycle

open Json (Field Form ReadError Reader)

/-- One step of a script. -/
inductive ScriptStep where
  | compositor (event : CompositorEvent)
  | shell (command : ShellCommand)
  /-- The compositor asks whether a client may connect. -/
  | authorize (pid : UInt32) (appId : String)
  /-- The toolkit asks for a texture. -/
  | bindTexture (surface : SurfaceHandle) (buffer : BufferInfo)
  deriving DecidableEq, Inhabited, Repr

namespace ScriptStep

/-- The step as it is written. -/
def toJson : ScriptStep → Json
  | compositor event => .object [("compositor", event.toJson)]
  | shell command => .object [("shell", command.toJson)]
  | authorize pid appId =>
      .object
        [("authorize", .object [("pid", .number pid.toNat), ("appId", .string appId)])]
  | bindTexture surface buffer =>
      .object
        [("bindTexture",
          .object [("surface", surface.toJson), ("buffer", buffer.toJson)])]

/-- The fields of a step that have been read. -/
structure Draft where
  pid : Option UInt32 := none
  appId : Option String := none
  surface : Option SurfaceHandle := none
  buffer : Option BufferInfo := none

/-- The field `pid`. -/
def pidField : Field Draft UInt32 where
  name := "pid"
  get := (·.pid)
  put draft value := { draft with pid := some value }
  read := Json.readUInt32

/-- The field `appId`. -/
def appIdField : Field Draft String where
  name := "appId"
  get := (·.appId)
  put draft value := { draft with appId := some value }
  read := Json.readText

/-- The field `surface`. -/
def surfaceField : Field Draft SurfaceHandle where
  name := "surface"
  get := (·.surface)
  put draft value := { draft with surface := some value }
  read := SurfaceHandle.read

/-- The field `buffer`. -/
def bufferField : Field Draft BufferInfo where
  name := "buffer"
  get := (·.buffer)
  put draft value := { draft with buffer := some value }
  read := BufferInfo.read

/-- A step that asks whether a client may connect. -/
def authorizeForm : Form Draft ScriptStep where
  blank := {}
  slots := [pidField.slot, appIdField.slot]
  complete missing draft := do
    return .authorize (← pidField.required missing draft) (← appIdField.required missing draft)

/-- A step that asks for a texture. -/
def bindTextureForm : Form Draft ScriptStep where
  blank := {}
  slots := [surfaceField.slot, bufferField.slot]
  complete missing draft := do
    return .bindTexture (← surfaceField.required missing draft)
      (← bufferField.required missing draft)

/-- How the step behind each name is read. -/
def entries : List (String × Reader ScriptStep) :=
  [("compositor", fun outline => (CompositorEvent.readAt 1 outline).map compositor),
    ("shell", fun outline => (ShellCommand.readAt 1 outline).map shell),
    ("authorize", authorizeForm.read),
    ("bindTexture", bindTextureForm.read)]

/-- Reads a step. The name of an entry without content is no step. -/
def read : Reader ScriptStep :=
  Json.readChoice
    (fun given => (Json.findNamed entries (·.1) given).map (·.2))
    (fun given => do
      let _ ← Json.findNamed entries (·.1) given
      .error .invalidType)

end ScriptStep

/-- The first line of a script that is no step. -/
structure ScriptError where
  /-- The number of the line, the first one being 1. -/
  line : Nat
  cause : ReadError
  deriving DecidableEq, Inhabited, Repr

namespace Script

/-- Whether a line is blank or a comment. -/
def isSkipped (line : List Char) : Bool :=
  match Text.dropBlank line with
  | [] => true
  | c :: _ => c = '#'

/-- Reads the steps on lines that are numbered from `number`. -/
def parseLines (number : Nat) : List (List Char) → Except ScriptError (List ScriptStep)
  | [] => .ok []
  | line :: rest =>
      if isSkipped line then parseLines (number + 1) rest
      else
        match Json.readDocument ScriptStep.read line with
        | .error cause => .error ⟨number, cause⟩
        | .ok step => (parseLines (number + 1) rest).map (step :: ·)

/-- Reads a script. -/
def parse (text : List Char) : Except ScriptError (List ScriptStep) :=
  parseLines 1 (Text.lines text)

end Script

end AppLifecycle
