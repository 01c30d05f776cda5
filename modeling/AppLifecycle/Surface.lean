import AppLifecycle.Effect
import AppLifecycle.Failure

/-!
# Surfaces

A surface is one window. It is live until the compositor releases it and frozen afterwards, its
owner apart. Its first frame is drawn once. While its frame dropper runs, each frame that
becomes ready is dropped; while the dropper stands still, frames wait for the next draw, which
takes them all at once.
-/

namespace AppLifecycle

/-- How many frames wait, were dropped and were drawn. A frame that becomes ready counts once at
most, and becomes ready by a call of its own; so counters of 64 bits hold the numbers of dropped and
drawn frames as long as there have been fewer than 2^64 calls. -/
structure FrameStats where
  /-- Never more than `FrameStats.pendingLimit`. -/
  pending : Nat
  /-- The frames that came while the dropper was running, or were waiting when it was started. -/
  dropped : Nat
  /-- The draws that took a frame. -/
  rendered : Nat
  deriving DecidableEq, Inhabited, Repr

namespace FrameStats

/-- The largest number of waiting frames that is kept. -/
def pendingLimit : Nat :=
  UInt32.size - 1

/-- No frame has arrived yet. -/
def none : FrameStats :=
  ⟨0, 0, 0⟩

end FrameStats

/-- What came of a request to draw. -/
inductive RenderOutcome where
  /-- A frame was drawn, and with it all that had waited. -/
  | drawn (firstFrame : Bool)
  /-- No frame waits. -/
  | noFrame
  /-- The surface has been released. -/
  | released
  deriving DecidableEq, Inhabited, Repr

/-- A buffer that is ready to be drawn as a texture. -/
structure TextureBinding where
  surface : SurfaceHandle
  width : UInt32
  height : UInt32
  deriving DecidableEq, Inhabited, Repr

/-- One window of a session. -/
structure Surface where
  handle : SurfaceHandle
  persistentId : SurfaceId
  chrome : ChromeLevel
  /-- The session that holds the surface, or held it last. -/
  owner : SessionHandle
  live : Bool
  firstFrameDrawn : Bool
  dropperRunning : Bool
  presentation : PresentationState
  focused : Bool
  title : String
  frames : FrameStats
  deriving DecidableEq, Inhabited, Repr

namespace Surface

/-- A surface as it comes up: live, its dropper running, nothing drawn. -/
def create (handle : SurfaceHandle) (owner : SessionHandle) (persistentId : SurfaceId)
    (title : String) (chrome : ChromeLevel) : Surface where
  handle := handle
  persistentId := persistentId
  chrome := chrome
  owner := owner
  live := true
  firstFrameDrawn := false
  dropperRunning := true
  presentation := .restored
  focused := false
  title := title
  frames := .none

/-- What a policy sees of the surface. -/
def view (surface : Surface) : SurfaceView where
  handle := surface.handle
  live := surface.live
  presentation := surface.presentation
  dropperRunning := surface.dropperRunning

/-- A step that changes the surface and tells the shell. -/
def changed (surface : Surface) (notification : ShellNotification) : Step Surface Bool :=
  ⟨surface, true, [.notify notification]⟩

/-- Releases the surface; focus is lost before liveness. Answers whether it was live. -/
def markReleased (surface : Surface) : Step Surface Bool :=
  if surface.live then
    { state :=
        { surface with
          live := false
          focused := false
          frames := { surface.frames with pending := 0 } }
      answer := true
      effects :=
        (if surface.focused then [.notify (.surfaceFocusChanged surface.handle false)] else []) ++
          [.notify (.surfaceLiveChanged surface.handle false)] }
  else
    .quiet surface false

/-- Takes in a frame that became ready: dropped at once while the dropper runs, and kept waiting
otherwise. -/
def frameReady (surface : Surface) : Surface :=
  if surface.live then
    if surface.dropperRunning then
      { surface with frames := { surface.frames with dropped := surface.frames.dropped + 1 } }
    else
      { surface with
        frames :=
          { surface.frames with
            pending := min (surface.frames.pending + 1) FrameStats.pendingLimit } }
  else
    surface

/-- Draws the frames that wait, all in one. -/
def render (surface : Surface) : Step Surface RenderOutcome :=
  if surface.live then
    if surface.frames.pending = 0 then
      .quiet surface .noFrame
    else
      { state :=
          { surface with
            firstFrameDrawn := true
            frames :=
              { surface.frames with
                pending := 0
                rendered := surface.frames.rendered + 1 } }
        answer := .drawn !surface.firstFrameDrawn
        effects :=
          if surface.firstFrameDrawn then []
          else [.notify (.surfaceFirstFrameDrawn surface.handle)] }
  else
    .quiet surface .released

/-- Counts the first frame as drawn without a frame. Answers whether it was not yet. -/
def drawFirstFrame (surface : Surface) : Step Surface Bool :=
  if surface.live && !surface.firstFrameDrawn then
    changed { surface with firstFrameDrawn := true } (.surfaceFirstFrameDrawn surface.handle)
  else
    .quiet surface false

/-- Lets the dropper run again; the frames that wait are dropped. -/
def startFrameDropper (surface : Surface) : Step Surface Bool :=
  if surface.live && !surface.dropperRunning then
    changed
      { surface with
        dropperRunning := true
        frames :=
          { surface.frames with
            pending := 0
            dropped := surface.frames.dropped + surface.frames.pending } }
      (.surfaceFrameDropperChanged surface.handle true)
  else
    .quiet surface false

/-- Stops the dropper, so that frames wait for the next draw. -/
def stopFrameDropper (surface : Surface) : Step Surface Bool :=
  if surface.live && surface.dropperRunning then
    changed { surface with dropperRunning := false }
      (.surfaceFrameDropperChanged surface.handle false)
  else
    .quiet surface false

/-- Changes how the surface is presented. -/
def requestPresentation (state : PresentationState) (surface : Surface) : Step Surface Bool :=
  if surface.live && surface.presentation != state then
    changed { surface with presentation := state }
      (.surfacePresentationChanged surface.handle state)
  else
    .quiet surface false

/-- Gives the surface the focus or takes it away. -/
def setFocused (focused : Bool) (surface : Surface) : Step Surface Bool :=
  if surface.live && surface.focused != focused then
    changed { surface with focused := focused } (.surfaceFocusChanged surface.handle focused)
  else
    .quiet surface false

/-- Gives the surface a title. -/
def setTitle (title : String) (surface : Surface) : Step Surface Bool :=
  if surface.live && surface.title != title then
    changed { surface with title := title } (.surfaceTitleChanged surface.handle title)
  else
    .quiet surface false

/-- Binds a buffer for drawing. Nothing is bound to a released surface, and an empty buffer or
one without texture capability binds to nothing. -/
def bindTexture (surface : Surface) (buffer : BufferInfo) : Except Failure TextureBinding :=
  if surface.live then
    if buffer.textureCapable then
      if buffer.width = 0 ∨ buffer.height = 0 then
        .error <| .bufferBinding surface.handle
          ("empty buffer " ++ toString buffer.width.toNat ++ "x" ++ toString buffer.height.toNat)
      else
        .ok ⟨surface.handle, buffer.width, buffer.height⟩
    else
      .error (.bufferBinding surface.handle "buffer has no texture capability")
  else
    .error (.surfaceReleased surface.handle)

end Surface

end AppLifecycle
