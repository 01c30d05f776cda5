import AppLifecycle.Json.Record
import AppLifecycle.Json.Value
import AppLifecycle.Message

/-!
# Messages in JSON

A message is written as an object whose member `type` is its kind and whose other members are
its fields. A chrome level may be given by its name or as a raw hint, and the optional fields of
a new surface may be left out.
-/

namespace AppLifecycle

open Json (Field Form Outline ReadError Reader Variant)

/-- Reads a session handle. -/
def SessionHandle.read : Reader SessionHandle := fun outline =>
  (Json.readUInt64 outline).map SessionHandle.mk

/-- Reads a surface handle. -/
def SurfaceHandle.read : Reader SurfaceHandle := fun outline =>
  (Json.readUInt64 outline).map SurfaceHandle.mk

/-- Reads a persistent id. -/
def SurfaceId.read : Reader SurfaceId := fun outline =>
  (Json.readText outline).map SurfaceId.mk

namespace SessionHandle

/-- The handle as it is written. -/
def toJson (handle : SessionHandle) : Json :=
  .number handle.raw.toNat

end SessionHandle

namespace SurfaceHandle

/-- The handle as it is written. -/
def toJson (handle : SurfaceHandle) : Json :=
  .number handle.raw.toNat

end SurfaceHandle

namespace SurfaceId

/-- The id as it is written. -/
def toJson (id : SurfaceId) : Json :=
  .string id.text

end SurfaceId

namespace SessionState

/-- The state as it is written. -/
def toJson (state : SessionState) : Json :=
  .string state.name

/-- Reads a state that stands on its own. -/
def read : Reader SessionState :=
  Json.readName all name

end SessionState

namespace PresentationState

/-- The state as it is written. -/
def toJson (state : PresentationState) : Json :=
  .string state.name

/-- Reads a state that stands on its own. -/
def read : Reader PresentationState :=
  Json.readName all name

end PresentationState

namespace ChromeLevel

/-- The level as it is written. -/
def toJson (level : ChromeLevel) : Json :=
  .string level.name

/-- A number that is not whole, as an error shows it. -/
def floatText (minus : Bool) (magnitude : Binary64) : String :=
  let sign := if minus then ['-'] else []
  "floating point " ++ ReadError.ticked (String.ofList (sign ++ magnitude.text))

/-- Reads the name of a level or a raw hint. -/
def read : Reader ChromeLevel
  | .string (.ok given) => Json.findNamed all name given
  | .number (.ok (.natural hint)) => .ok (ofHint hint)
  | .number (.ok (.negative _)) => .ok .normal
  | .number (.ok (.real minus magnitude)) =>
      .error (.notChromeLevel (floatText minus magnitude))
  | .null => .error (.notChromeLevel "null")
  | .bool value => .error (.notChromeLevel ("boolean " ++ ReadError.ticked (toString value)))
  | .array _ _ => .error (.notChromeLevel "sequence")
  | .object _ _ => .error (.notChromeLevel "map")
  | other => .error other.mismatch

end ChromeLevel

namespace BufferInfo

/-- The buffer as it is written. -/
def toJson (buffer : BufferInfo) : Json :=
  .object
    [("width", .number buffer.width.toNat), ("height", .number buffer.height.toNat),
      ("texture_capable", .bool buffer.textureCapable)]

/-- The fields of a buffer that have been read. -/
structure Draft where
  width : Option UInt32 := none
  height : Option UInt32 := none
  textureCapable : Option Bool := none

/-- The field `width`. -/
def widthField : Field Draft UInt32 where
  name := "width"
  get := (·.width)
  put draft value := { draft with width := some value }
  read := Json.readUInt32

/-- The field `height`. -/
def heightField : Field Draft UInt32 where
  name := "height"
  get := (·.height)
  put draft value := { draft with height := some value }
  read := Json.readUInt32

/-- The field `texture_capable`. -/
def textureCapableField : Field Draft Bool where
  name := "texture_capable"
  get := (·.textureCapable)
  put draft value := { draft with textureCapable := some value }
  read := Json.readBool

/-- A buffer that does not say so has no texture capability. -/
def form : Form Draft BufferInfo where
  blank := {}
  slots := [widthField.slot, heightField.slot, textureCapableField.slot]
  complete missing draft := do
    return ⟨← widthField.required missing draft, ← heightField.required missing draft,
      textureCapableField.orElse false draft⟩

/-- Reads a buffer. -/
def read : Reader BufferInfo :=
  form.read

end BufferInfo

/-- The fields of a message that have been read. -/
structure MessageDraft where
  session : Option SessionHandle := none
  surface : Option SurfaceHandle := none
  pid : Option UInt32 := none
  appId : Option String := none
  title : Option String := none
  chrome : Option ChromeLevel := none
  persistentId : Option (Option SurfaceId) := none
  sessionState : Option SessionState := none
  presentation : Option PresentationState := none
  live : Option Bool := none
  running : Option Bool := none
  focused : Option Bool := none
  enabled : Option Bool := none

namespace MessageDraft

/-- The field `session`. -/
def sessionField : Field MessageDraft SessionHandle where
  name := "session"
  get := session
  put draft value := { draft with session := some value }
  read := SessionHandle.read

/-- The field `surface`. -/
def surfaceField : Field MessageDraft SurfaceHandle where
  name := "surface"
  get := surface
  put draft value := { draft with surface := some value }
  read := SurfaceHandle.read

/-- The field `pid`. -/
def pidField : Field MessageDraft UInt32 where
  name := "pid"
  get := pid
  put draft value := { draft with pid := some value }
  read := Json.readUInt32

/-- The field `app_id`. -/
def appIdField : Field MessageDraft String where
  name := "app_id"
  get := appId
  put draft value := { draft with appId := some value }
  read := Json.readText

/-- The field `title`. -/
def titleField : Field MessageDraft String where
  name := "title"
  get := title
  put draft value := { draft with title := some value }
  read := Json.readText

/-- The field `chrome`. -/
def chromeField : Field MessageDraft ChromeLevel where
  name := "chrome"
  get := chrome
  put draft value := { draft with chrome := some value }
  read := ChromeLevel.read

/-- The field `persistent_id`. -/
def persistentIdField : Field MessageDraft (Option SurfaceId) where
  name := "persistent_id"
  get := persistentId
  put draft value := { draft with persistentId := some value }
  read := Json.readOptional SurfaceId.read

/-- The field `state` of a session. -/
def sessionStateField : Field MessageDraft SessionState where
  name := "state"
  get := sessionState
  put draft value := { draft with sessionState := some value }
  read := Json.readNameWithin SessionState.all SessionState.name

/-- The field `state` of a surface. -/
def presentationField : Field MessageDraft PresentationState where
  name := "state"
  get := presentation
  put draft value := { draft with presentation := some value }
  read := Json.readNameWithin PresentationState.all PresentationState.name

/-- The field `live`. -/
def liveField : Field MessageDraft Bool where
  name := "live"
  get := live
  put draft value := { draft with live := some value }
  read := Json.readBool

/-- The field `running`. -/
def runningField : Field MessageDraft Bool where
  name := "running"
  get := running
  put draft value := { draft with running := some value }
  read := Json.readBool

/-- The field `focused`. -/
def focusedField : Field MessageDraft Bool where
  name := "focused"
  get := focused
  put draft value := { draft with focused := some value }
  read := Json.readBool

/-- The field `enabled`. -/
def enabledField : Field MessageDraft Bool where
  name := "enabled"
  get := enabled
  put draft value := { draft with enabled := some value }
  read := Json.readBool

variable {α β γ : Type}

/-- A message with one field. -/
def form1 (first : Field MessageDraft β) (build : β → α) : Form MessageDraft α where
  blank := {}
  slots := [first.slot]
  complete missing draft := do
    return build (← first.required missing draft)

/-- A message with two fields. -/
def form2 (first : Field MessageDraft β) (second : Field MessageDraft γ) (build : β → γ → α) :
    Form MessageDraft α where
  blank := {}
  slots := [first.slot, second.slot]
  complete missing draft := do
    return build (← first.required missing draft) (← second.required missing draft)

end MessageDraft

open MessageDraft

namespace CompositorEvent

/-- The fields of an event as they are written. An id that is absent is not written. -/
def members : CompositorEvent → List (String × Json)
  | sessionCreated session pid appId =>
      [("session", session.toJson), ("pid", .number pid.toNat), ("app_id", .string appId)]
  | sessionRemoved session => [("session", session.toJson)]
  | sessionSuspended session => [("session", session.toJson)]
  | surfaceCreated surface session title chrome persistentId =>
      [("surface", surface.toJson), ("session", session.toJson), ("title", .string title),
        ("chrome", chrome.toJson)] ++
        (persistentId.map fun id => ("persistent_id", id.toJson)).toList
  | surfaceRemoved surface => [("surface", surface.toJson)]
  | surfaceReparented surface session =>
      [("surface", surface.toJson), ("session", session.toJson)]
  | surfaceRenamed surface title => [("surface", surface.toJson), ("title", .string title)]
  | frameReady surface => [("surface", surface.toJson)]

/-- The event as it is written. -/
def toJson (event : CompositorEvent) : Json :=
  .object ((Json.tagName, .string event.kind) :: event.members)

/-- A session that comes up. -/
def sessionCreatedForm : Form MessageDraft CompositorEvent where
  blank := {}
  slots := [sessionField.slot, pidField.slot, appIdField.slot]
  complete missing draft := do
    return .sessionCreated (← sessionField.required missing draft)
      (← pidField.required missing draft) (← appIdField.required missing draft)

/-- A surface that comes up. Without a title it has the empty one, without a chrome level the
normal one. -/
def surfaceCreatedForm : Form MessageDraft CompositorEvent where
  blank := {}
  slots :=
    [surfaceField.slot, sessionField.slot, titleField.slot, chromeField.slot,
      persistentIdField.slot]
  complete missing draft := do
    return .surfaceCreated (← surfaceField.required missing draft)
      (← sessionField.required missing draft) (titleField.orElse "" draft)
      (chromeField.orElse .normal draft) (persistentIdField.orElse none draft)

/-- The kinds of events. -/
def variants : List (Variant MessageDraft CompositorEvent) :=
  [⟨"session_created", sessionCreatedForm⟩,
    ⟨"session_removed", form1 sessionField sessionRemoved⟩,
    ⟨"session_suspended", form1 sessionField sessionSuspended⟩,
    ⟨"surface_created", surfaceCreatedForm⟩,
    ⟨"surface_removed", form1 surfaceField surfaceRemoved⟩,
    ⟨"surface_reparented", form2 surfaceField sessionField surfaceReparented⟩,
    ⟨"surface_renamed", form2 surfaceField titleField surfaceRenamed⟩,
    ⟨"frame_ready", form1 surfaceField frameReady⟩]

/-- Reads an event inside `depth` other lists. -/
def readAt (depth : Nat) : Reader CompositorEvent :=
  Json.readVariant variants (Outline.nestingLimit - 1 - depth)

/-- Reads an event. -/
def read : Reader CompositorEvent :=
  readAt 0

end CompositorEvent

namespace ShellCommand

/-- The fields of a command as they are written. -/
def members : ShellCommand → List (String × Json)
  | markRunning session => [("session", session.toJson)]
  | suspendSession session => [("session", session.toJson)]
  | resumeSession session => [("session", session.toJson)]
  | stopSession session => [("session", session.toJson)]
  | focusSurface surface => [("surface", surface.toJson)]
  | requestPresentation surface state => [("surface", surface.toJson), ("state", state.toJson)]
  | render surface => [("surface", surface.toJson)]
  | startFrameDropper surface => [("surface", surface.toJson)]
  | stopFrameDropper surface => [("surface", surface.toJson)]

/-- The command as it is written. -/
def toJson (command : ShellCommand) : Json :=
  .object ((Json.tagName, .string command.kind) :: command.members)

/-- The kinds of commands. -/
def variants : List (Variant MessageDraft ShellCommand) :=
  [⟨"mark_running", form1 sessionField markRunning⟩,
    ⟨"suspend_session", form1 sessionField suspendSession⟩,
    ⟨"resume_session", form1 sessionField resumeSession⟩,
    ⟨"stop_session", form1 sessionField stopSession⟩,
    ⟨"focus_surface", form1 surfaceField focusSurface⟩,
    ⟨"request_presentation", form2 surfaceField presentationField requestPresentation⟩,
    ⟨"render", form1 surfaceField render⟩,
    ⟨"start_frame_dropper", form1 surfaceField startFrameDropper⟩,
    ⟨"stop_frame_dropper", form1 surfaceField stopFrameDropper⟩]

/-- Reads a command inside `depth` other lists. -/
def readAt (depth : Nat) : Reader ShellCommand :=
  Json.readVariant variants (Outline.nestingLimit - 1 - depth)

/-- Reads a command. -/
def read : Reader ShellCommand :=
  readAt 0

end ShellCommand

namespace ShellNotification

/-- The fields of a notification as they are written. -/
def members : ShellNotification → List (String × Json)
  | sessionAdded session appId => [("session", session.toJson), ("app_id", .string appId)]
  | sessionRemoved session => [("session", session.toJson)]
  | sessionStateChanged session state =>
      [("session", session.toJson), ("state", state.toJson)]
  | surfaceAdded surface session => [("surface", surface.toJson), ("session", session.toJson)]
  | surfaceFirstFrameDrawn surface => [("surface", surface.toJson)]
  | surfaceLiveChanged surface live => [("surface", surface.toJson), ("live", .bool live)]
  | surfaceFrameDropperChanged surface running =>
      [("surface", surface.toJson), ("running", .bool running)]
  | surfaceFocusChanged surface focused =>
      [("surface", surface.toJson), ("focused", .bool focused)]
  | surfacePresentationChanged surface state =>
      [("surface", surface.toJson), ("state", state.toJson)]
  | surfaceTitleChanged surface title =>
      [("surface", surface.toJson), ("title", .string title)]
  | wakeLockEnabledChanged enabled => [("enabled", .bool enabled)]

/-- The notification as it is written. -/
def toJson (notification : ShellNotification) : Json :=
  .object ((Json.tagName, .string notification.kind) :: notification.members)

/-- The kinds of notifications. -/
def variants : List (Variant MessageDraft ShellNotification) :=
  [⟨"session_added", form2 sessionField appIdField sessionAdded⟩,
    ⟨"session_removed", form1 sessionField sessionRemoved⟩,
    ⟨"session_state_changed", form2 sessionField sessionStateField sessionStateChanged⟩,
    ⟨"surface_added", form2 surfaceField sessionField surfaceAdded⟩,
    ⟨"surface_first_frame_drawn", form1 surfaceField surfaceFirstFrameDrawn⟩,
    ⟨"surface_live_changed", form2 surfaceField liveField surfaceLiveChanged⟩,
    ⟨"surface_frame_dropper_changed",
      form2 surfaceField runningField surfaceFrameDropperChanged⟩,
    ⟨"surface_focus_changed", form2 surfaceField focusedField surfaceFocusChanged⟩,
    ⟨"surface_presentation_changed",
      form2 surfaceField presentationField surfacePresentationChanged⟩,
    ⟨"surface_title_changed", form2 surfaceField titleField surfaceTitleChanged⟩,
    ⟨"wake_lock_enabled_changed", form1 enabledField wakeLockEnabledChanged⟩]

/-- Reads a notification. -/
def read : Reader ShellNotification :=
  Json.readVariant variants (Outline.nestingLimit - 1)

end ShellNotification

end AppLifecycle
