import AppLifecycle.Effect

/-!
# Policies for the surfaces of suspended sessions

A policy is asked when a surface comes to be held by a suspended or a running session, and when
a surface is gone. It sees the session and the surface and may start or stop the surface's frame
dropper; it can do nothing else to them.
-/

namespace AppLifecycle

/-- What a policy asks of a frame dropper. -/
inductive DropperRequest where
  | start
  | stop
  deriving DecidableEq, Inhabited, Repr

/-- A policy with a memory of type `π`. -/
structure SurfacePolicy (π : Type) where
  initial : π
  /-- The session is suspended and holds the surface. -/
  suspended : π → SessionView → SurfaceView → π × List DropperRequest
  /-- The session is running and holds the surface. -/
  resumed : π → SessionView → SurfaceView → π × List DropperRequest
  /-- The surface is gone. -/
  removed : π → SurfaceHandle → π

namespace SurfacePolicy

/-- Leaves all frame droppers alone. -/
def keepCompositing : SurfacePolicy (KeySet SurfaceHandle) where
  initial := ∅
  suspended memory _ _ := (memory, [])
  resumed memory _ _ := (memory, [])
  removed memory _ := memory

/-- Stops the droppers of suspended sessions, and later starts those that it stopped. -/
def throttleSuspended : SurfacePolicy (KeySet SurfaceHandle) where
  initial := ∅
  suspended throttled session surface :=
    if session.state = .suspended ∧ surface.live ∧ surface.dropperRunning then
      (KeySet.add throttled surface.handle, [.stop])
    else
      (throttled, [])
  resumed throttled session surface :=
    if session.state = .running ∧ throttled.contains surface.handle then
      (throttled.erase surface.handle, [.start])
    else
      (throttled, [])
  removed throttled surface := throttled.erase surface

end SurfacePolicy

end AppLifecycle
