import AppLifecycle.Handle

/-!
# Failures

Requests that come too late or name nothing are ignored and never fail. What can fail is the use
of a resource, a request to a shell that has ended, and a configuration that makes no sense.
-/

namespace AppLifecycle

/-- Why a request failed. -/
inductive Failure where
  /-- The buffer cannot back a texture, so the frame is skipped. -/
  | bufferBinding (surface : SurfaceHandle) (reason : String)
  /-- The compositor has already released the surface. -/
  | surfaceReleased (surface : SurfaceHandle)
  | unknownSurface (surface : SurfaceHandle)
  | unknownSession (session : SessionHandle)
  /-- The coordinator ended before it answered. -/
  | channelClosed
  | invalidConfig (reason : String)
  deriving DecidableEq, Inhabited, Repr

namespace Failure

/-- The text of a failure. -/
def message : Failure → String
  | bufferBinding surface reason =>
      "cannot bind " ++ surface.display ++ " to a texture: " ++ reason
  | surfaceReleased surface => surface.display ++ " has been released by the compositor"
  | unknownSurface surface => "unknown surface " ++ surface.display
  | unknownSession session => "unknown session " ++ session.display
  | channelClosed => "UI context is no longer running"
  | invalidConfig reason => "invalid configuration: " ++ reason

/-- Whether the surface or its buffer is the cause. -/
def isResourceFailure : Failure → Bool
  | bufferBinding .. | surfaceReleased .. => true
  | _ => false

end Failure

end AppLifecycle
