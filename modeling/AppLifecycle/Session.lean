import AppLifecycle.Surface

/-!
# Sessions

A session is one running application with the surfaces it holds, in the order in which it took
them. It holds no two surfaces of one handle.
-/

namespace AppLifecycle

/-- One application session. -/
structure Session where
  handle : SessionHandle
  pid : UInt32
  appId : String
  state : SessionState
  /-- The surfaces held, the one taken first at the front. -/
  surfaces : List Surface
  deriving DecidableEq, Inhabited, Repr

namespace Session

variable {α : Type}

/-- A session as it is reported: starting, without surfaces. -/
def create (handle : SessionHandle) (pid : UInt32) (appId : String) : Session where
  handle := handle
  pid := pid
  appId := appId
  state := .starting
  surfaces := []

/-- What a policy sees of the session. -/
def view (session : Session) : SessionView where
  handle := session.handle
  state := session.state

/-- Follows an edge of the transition graph and tells the shell. Answers whether there is such
an edge. -/
def apply (op : LifecycleOp) (session : Session) : Step Session Bool :=
  match op.target? session.state with
  | some target =>
      ⟨{ session with state := target }, true,
        [.notify (.sessionStateChanged session.handle target)]⟩
  | none => .quiet session false

/-- The surface of a handle that the session holds. -/
def surface? (session : Session) (handle : SurfaceHandle) : Option Surface :=
  session.surfaces.find? fun surface => surface.handle = handle

/-- The handles of the surfaces held, in the order held. -/
def surfaceHandles (session : Session) : List SurfaceHandle :=
  session.surfaces.map (·.handle)

/-- Takes a surface in at the end, unless one of its handle is held already. -/
def adopt (session : Session) (surface : Surface) : Session :=
  if surface.handle ∈ session.surfaceHandles then session
  else { session with surfaces := session.surfaces ++ [{ surface with owner := session.handle }] }

/-- Gives a surface away as it is, with the session that is left. -/
def take? (session : Session) (handle : SurfaceHandle) : Option (Surface × Session) :=
  (session.surface? handle).map fun surface =>
    (surface, { session with
      surfaces := session.surfaces.filter fun other => other.handle ≠ handle })

/-- Acts on the surface of a handle, if the session holds it. -/
def onSurface (handle : SurfaceHandle) (act : Surface → Step Surface α) (session : Session) :
    Step Session (Option α) :=
  match session.surface? handle with
  | some surface =>
      let step := act surface
      ⟨{ session with
          surfaces := session.surfaces.map fun other =>
            if other.handle = handle then step.state else other },
        some step.answer, step.effects⟩
  | none => .quiet session none

/-- Gives all surfaces away, each one released, in the order held. -/
def releaseSurfaces (session : Session) : Step Session (List Surface) where
  state := { session with surfaces := [] }
  answer := session.surfaces.map fun surface => surface.markReleased.state
  effects := session.surfaces.flatMap fun surface => surface.markReleased.effects

end Session

end AppLifecycle
