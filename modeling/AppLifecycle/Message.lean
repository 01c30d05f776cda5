import AppLifecycle.Handle
import AppLifecycle.State

/-!
# Messages

Compositor events and shell commands come in; shell notifications go out. Each message has a
kind, the name under which it is written.
-/

namespace AppLifecycle

/-- A report of the compositor. -/
inductive CompositorEvent where
  | sessionCreated (session : SessionHandle) (pid : UInt32) (appId : String)
  | sessionRemoved (session : SessionHandle)
  /-- A suspension that the shell asked for is complete. -/
  | sessionSuspended (session : SessionHandle)
  /-- A window has come up, perhaps to be restored under an earlier identity. -/
  | surfaceCreated (surface : SurfaceHandle) (session : SessionHandle) (title : String)
      (chrome : ChromeLevel) (persistentId : Option SurfaceId)
  | surfaceRemoved (surface : SurfaceHandle)
  /-- A window was handed over to another session. -/
  | surfaceReparented (surface : SurfaceHandle) (session : SessionHandle)
  | surfaceRenamed (surface : SurfaceHandle) (title : String)
  | frameReady (surface : SurfaceHandle)
  deriving DecidableEq, Inhabited, Repr

namespace CompositorEvent

/-- The name of the event. -/
def kind : CompositorEvent → String
  | sessionCreated .. => "session_created"
  | sessionRemoved .. => "session_removed"
  | sessionSuspended .. => "session_suspended"
  | surfaceCreated .. => "surface_created"
  | surfaceRemoved .. => "surface_removed"
  | surfaceReparented .. => "surface_reparented"
  | surfaceRenamed .. => "surface_renamed"
  | frameReady .. => "frame_ready"

end CompositorEvent

/-- A request of the shell. -/
inductive ShellCommand where
  | markRunning (session : SessionHandle)
  | suspendSession (session : SessionHandle)
  | resumeSession (session : SessionHandle)
  | stopSession (session : SessionHandle)
  | focusSurface (surface : SurfaceHandle)
  | requestPresentation (surface : SurfaceHandle) (state : PresentationState)
  /-- The toolkit asks to draw one surface. -/
  | render (surface : SurfaceHandle)
  | startFrameDropper (surface : SurfaceHandle)
  | stopFrameDropper (surface : SurfaceHandle)
  deriving DecidableEq, Inhabited, Repr

namespace ShellCommand

/-- The name of the command. -/
def kind : ShellCommand → String
  | markRunning .. => "mark_running"
  | suspendSession .. => "suspend_session"
  | resumeSession .. => "resume_session"
  | stopSession .. => "stop_session"
  | focusSurface .. => "focus_surface"
  | requestPresentation .. => "request_presentation"
  | render .. => "render"
  | startFrameDropper .. => "start_frame_dropper"
  | stopFrameDropper .. => "stop_frame_dropper"

end ShellCommand

/-- A change of state that the shell is told of. -/
inductive ShellNotification where
  | sessionAdded (session : SessionHandle) (appId : String)
  | sessionRemoved (session : SessionHandle)
  | sessionStateChanged (session : SessionHandle) (state : SessionState)
  | surfaceAdded (surface : SurfaceHandle) (session : SessionHandle)
  | surfaceFirstFrameDrawn (surface : SurfaceHandle)
  | surfaceLiveChanged (surface : SurfaceHandle) (live : Bool)
  | surfaceFrameDropperChanged (surface : SurfaceHandle) (running : Bool)
  | surfaceFocusChanged (surface : SurfaceHandle) (focused : Bool)
  | surfacePresentationChanged (surface : SurfaceHandle) (state : PresentationState)
  | surfaceTitleChanged (surface : SurfaceHandle) (title : String)
  | wakeLockEnabledChanged (enabled : Bool)
  deriving DecidableEq, Inhabited, Repr

namespace ShellNotification

/-- The name of the notification. -/
def kind : ShellNotification → String
  | sessionAdded .. => "session_added"
  | sessionRemoved .. => "session_removed"
  | sessionStateChanged .. => "session_state_changed"
  | surfaceAdded .. => "surface_added"
  | surfaceFirstFrameDrawn .. => "surface_first_frame_drawn"
  | surfaceLiveChanged .. => "surface_live_changed"
  | surfaceFrameDropperChanged .. => "surface_frame_dropper_changed"
  | surfaceFocusChanged .. => "surface_focus_changed"
  | surfacePresentationChanged .. => "surface_presentation_changed"
  | surfaceTitleChanged .. => "surface_title_changed"
  | wakeLockEnabledChanged .. => "wake_lock_enabled_changed"

end ShellNotification

/-- What a compositor buffer offers for drawing. -/
structure BufferInfo where
  width : UInt32
  height : UInt32
  /-- Whether the buffer can back a texture. -/
  textureCapable : Bool
  deriving DecidableEq, Inhabited, Repr

end AppLifecycle
