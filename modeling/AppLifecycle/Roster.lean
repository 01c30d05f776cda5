import AppLifecycle.Registry
import AppLifecycle.Session

/-!
# The roster of sessions

The roster says which sessions exist. It holds each session under its handle, an index from
surface handles to the session that holds the surface, and the registry through which others
find sessions.
-/

namespace AppLifecycle

/-- A surface in a snapshot. -/
structure SurfaceSnapshot where
  surface : SurfaceHandle
  persistentId : SurfaceId
  title : String
  chrome : ChromeLevel
  live : Bool
  firstFrameDrawn : Bool
  dropperRunning : Bool
  presentation : PresentationState
  focused : Bool
  deriving DecidableEq, Inhabited, Repr

/-- A session in a snapshot. -/
structure SessionSnapshot where
  session : SessionHandle
  pid : UInt32
  appId : String
  state : SessionState
  surfaces : List SurfaceSnapshot
  deriving DecidableEq, Inhabited, Repr

/-- Everything the shell shows, in handle order. -/
structure ShellSnapshot where
  sessions : List SessionSnapshot
  wakeLockEnabled : Bool
  deriving DecidableEq, Inhabited, Repr

namespace SurfaceSnapshot

/-- The picture of a surface. -/
def ofSurface (surface : Surface) : SurfaceSnapshot where
  surface := surface.handle
  persistentId := surface.persistentId
  title := surface.title
  chrome := surface.chrome
  live := surface.live
  firstFrameDrawn := surface.firstFrameDrawn
  dropperRunning := surface.dropperRunning
  presentation := surface.presentation
  focused := surface.focused

/-- The order of handles. -/
def handleLe (first second : SurfaceSnapshot) : Bool :=
  first.surface.raw ≤ second.surface.raw

end SurfaceSnapshot

namespace SessionSnapshot

/-- The picture of a session, given those of its surfaces in the order held. -/
def ofParts (handle : SessionHandle) (pid : UInt32) (appId : String) (state : SessionState)
    (surfaces : List SurfaceSnapshot) : SessionSnapshot where
  session := handle
  pid := pid
  appId := appId
  state := state
  surfaces := surfaces.mergeSort SurfaceSnapshot.handleLe

/-- The picture of a session. -/
def ofSession (session : Session) : SessionSnapshot :=
  ofParts session.handle session.pid session.appId session.state
    (session.surfaces.map .ofSurface)

end SessionSnapshot

/-- The sessions that exist, who holds which surface, and the registry. -/
structure Roster where
  sessions : KeyMap SessionHandle Session
  /-- Which session holds the surface of a handle. -/
  owners : KeyMap SurfaceHandle SessionHandle
  registry : Registry SessionHandle
  deriving DecidableEq

namespace Roster

variable {α : Type}

/-- The roster without sessions. -/
def empty : Roster where
  sessions := ∅
  owners := ∅
  registry := .empty

instance : Inhabited Roster := ⟨empty⟩

/-- The session of a handle. -/
def session? (roster : Roster) (handle : SessionHandle) : Option Session :=
  roster.sessions.find? handle

/-- The session that holds the surface of a handle, by the index. -/
def ownerOf? (roster : Roster) (handle : SurfaceHandle) : Option Session :=
  (roster.owners.find? handle).bind roster.session?

/-- The surface of a handle. -/
def surface? (roster : Roster) (handle : SurfaceHandle) : Option Surface :=
  (roster.ownerOf? handle).bind (·.surface? handle)

/-- The session that the registry finds under a handle. -/
def findSession? (roster : Roster) (handle : SessionHandle) : Option Session :=
  roster.registry.find? roster.session? handle

/-- A session that the registry finds for a process: the first on a walk. -/
def findByPid? (roster : Roster) (pid : UInt32) (walk : Registry.Walk := .ascending) :
    Option Session :=
  roster.registry.findWhere? walk roster.session? fun session => session.pid == pid

/-- The surfaces of all sessions: sessions in handle order, surfaces in the order held. -/
def surfaces (roster : Roster) : List Surface :=
  roster.sessions.values.flatMap (·.surfaces)

/-- The handles of the surfaces of all sessions. -/
def surfaceHandles (roster : Roster) : List SurfaceHandle :=
  roster.sessions.values.flatMap (·.surfaceHandles)

/-- Acts on the session of a handle, if there is one. -/
def onSession (handle : SessionHandle) (act : Session → Step Session α) (roster : Roster) :
    Step Roster (Option α) :=
  match roster.session? handle with
  | some session =>
      let step := act session
      ⟨{ roster with sessions := roster.sessions.insert handle step.state },
        some step.answer, step.effects⟩
  | none => .quiet roster none

/-- Acts on the surface of a handle, if the index and its owner know it. -/
def onSurface (handle : SurfaceHandle) (act : Surface → Step Surface α) (roster : Roster) :
    Step Roster (Option α) :=
  match roster.owners.find? handle with
  | some owner =>
      let step := roster.onSession owner (·.onSurface handle act)
      step.answering step.answer.join
  | none => .quiet roster none

/-- Brings up a session. One that exists already stays as it is. -/
def addSession (handle : SessionHandle) (pid : UInt32) (appId : String) (roster : Roster) :
    Step Roster Session :=
  match roster.session? handle with
  | some session => .quiet roster session
  | none =>
      let session := Session.create handle pid appId
      { state :=
          { roster with
            sessions := roster.sessions.insert handle session
            registry := roster.registry.register handle handle }
        answer := session
        effects := [.notify (.sessionAdded handle appId)] }

/-- Ends a session for good: it is stopped, its surfaces are released, and nothing finds it any
more. -/
def removeSession (handle : SessionHandle) (roster : Roster) : Step Roster (Option Session) :=
  match roster.session? handle with
  | none => .quiet roster none
  | some session =>
      let stopped := session.apply .stop
      let released := stopped.state.releaseSurfaces
      { state :=
          { sessions := roster.sessions.erase handle
            owners := session.surfaceHandles.foldl KeyMap.erase roster.owners
            registry := roster.registry.unregister handle }
        answer := some released.state
        effects :=
          stopped.effects ++ released.effects ++ [.notify (.sessionRemoved handle)] }

/-- Brings up a surface in a session. A handle that is in use, an unknown session and a stopped
one are refused. -/
def addSurface (handle : SurfaceHandle) (session : SessionHandle) (persistentId : SurfaceId)
    (title : String) (chrome : ChromeLevel) (roster : Roster) : Step Roster (Option Surface) :=
  if roster.owners.contains handle then
    .quiet roster none
  else
    match roster.session? session with
    | none => .quiet roster none
    | some owner =>
        if owner.state.isTerminal then
          .quiet roster none
        else
          let surface := Surface.create handle session persistentId title chrome
          { state :=
              { roster with
                sessions := roster.sessions.insert session (owner.adopt surface)
                owners := roster.owners.insert handle session }
            answer := some surface
            effects := [.notify (.surfaceAdded handle session)] }

/-- Takes a surface away from its session and releases it. -/
def removeSurface (handle : SurfaceHandle) (roster : Roster) :
    Step Roster (Option (SessionHandle × Surface)) :=
  match roster.owners.find? handle with
  | none => .quiet roster none
  | some owner =>
      let unindexed := { roster with owners := roster.owners.erase handle }
      match (roster.session? owner).bind (·.take? handle) with
      | none => .quiet unindexed none
      | some (surface, session) =>
          let released := surface.markReleased
          { state :=
              { unindexed with sessions := roster.sessions.insert owner session }
            answer := some (owner, released.state)
            effects := released.effects }

/-- Hands a surface over to another session. Answers whether the target holds it now. -/
def reparentSurface (handle : SurfaceHandle) (target : SessionHandle) (roster : Roster) :
    Step Roster Bool :=
  match roster.session? target, roster.owners.find? handle with
  | some receiver, some owner =>
      if receiver.state.isTerminal then
        .quiet roster false
      else
        match roster.session? owner with
        | none => .quiet roster false
        | some giver =>
            if owner = target then
              .quiet roster true
            else
              match giver.take? handle with
              | none => .quiet roster false
              | some (surface, left) =>
                  .quiet
                    { roster with
                      sessions :=
                        (roster.sessions.insert owner left).insert target (receiver.adopt surface)
                      owners := roster.owners.insert handle target }
                    true
  | _, _ => .quiet roster false

/-- Ends every session, in handle order. -/
def removeAll (roster : Roster) : Step Roster (List Session) :=
  roster.sessions.keys.foldl
    (fun step handle =>
      step.andThen fun removed state =>
        (state.removeSession handle).andThen fun session next =>
          .quiet next (removed ++ session.toList))
    (.quiet roster [])

/-- The picture of all sessions, given whether the wake lock is held. -/
def snapshot (roster : Roster) (wakeLockEnabled : Bool) : ShellSnapshot where
  sessions := roster.sessions.values.map .ofSession
  wakeLockEnabled := wakeLockEnabled

end Roster

end AppLifecycle
