import AppLifecycle.Proofs.Roster.SessionLife
import AppLifecycle.Proofs.Roster.SurfaceLife
import AppLifecycle.Proofs.Run
import AppLifecycle.Proofs.SurfaceIds

/-!
# What an input does

Handling an input is one move, after which the policy is consulted about some surfaces. A `Move`
lists what each kind of input can do to a consistent state: which part of the state changes and
how, what the world sees of it, and whom the policy is to be consulted about. Whatever a move and
a consultation keep, every run keeps; later modules argue about moves and never about the
functions of the coordinator.
-/

namespace AppLifecycle

/-- The surfaces that the policy is to be consulted about, each with its session. -/
abbrev Consultations :=
  List (SessionHandle × SurfaceHandle)

namespace Setup

variable {π : Type} (setup : Setup π)

/-- The wake lock once it is held for a session, if the configuration wants it. -/
def wake (key : SessionHandle) (lock : WakeLock) : Step WakeLock Unit :=
  if setup.config.wakelock then (lock.acquire setup.power (.session key)).answering ()
  else .quiet lock ()

/-- The wake lock once it is no longer held for a session. -/
def rest (key : SessionHandle) (lock : WakeLock) : Step WakeLock Unit :=
  (lock.release setup.power (.session key)).answering ()

/-- What becomes of the wake lock as a session comes into a state. -/
def lockAt (session : Session) (key : SessionHandle) (target : SessionState) (lock : WakeLock) :
    Step WakeLock Unit :=
  match target with
  | .running => if session.surfaces.isEmpty then .quiet lock () else setup.wake key lock
  | .suspended => setup.rest key lock
  | _ => .quiet lock ()

/-- What becomes of the wake lock as a session takes a surface in. -/
def lockJoined (session : Session) (key : SessionHandle) (lock : WakeLock) : Step WakeLock Unit :=
  if session.state = .running then setup.wake key lock else .quiet lock ()

end Setup

/-- Whom the policy is consulted about as a session comes into a state. -/
def consultationsAt (session : Session) (key : SessionHandle) :
    SessionState → Consultations
  | .running | .suspended => session.surfaceHandles.map (key, ·)
  | _ => []

namespace Input

/-- The request that an input makes of a session. -/
def lifecycle? : Input → Option (LifecycleOp × SessionHandle)
  | .event (.sessionSuspended key) => some (.confirmSuspended, key)
  | .command (.markRunning key) => some (.markRunning, key)
  | .command (.suspendSession key) => some (.suspend, key)
  | .command (.resumeSession key) => some (.resume, key)
  | _ => none

/-- The session that an input ends. -/
def ending? : Input → Option SessionHandle
  | .event (.sessionRemoved key) => some key
  | .command (.stopSession key) => some key
  | _ => none

/-- The touch that an input asks for, if it reaches its surface. -/
def touch? : Input → Option (Touch × SurfaceHandle)
  | .event (.surfaceRenamed handle title) => some (.rename title, handle)
  | .event (.frameReady handle) => some (.frameReady, handle)
  | .command (.requestPresentation handle presentation) => some (.present presentation, handle)
  | .command (.render handle) => some (.render, handle)
  | .command (.startFrameDropper handle) => some (.startDropper, handle)
  | .command (.stopFrameDropper handle) => some (.stopDropper, handle)
  | _ => none

end Input

namespace Coordinator

variable {π : Type} (setup : Setup π)

/-- The state in which some surfaces are forgotten. -/
def forgetting (handles : List SurfaceHandle) (state : Coordinator π) : Coordinator π :=
  { state with
    surfaceIds := handles.foldl (fun ids handle => ids.forget handle) state.surfaceIds
    memory := handles.foldl setup.policy.removed state.memory
    focused := state.focused.filter (· ∉ handles) }

/-- What the policy is told of surfaces that are gone. -/
def obituaries (handles : List SurfaceHandle) : List Effect :=
  handles.map fun handle => .hook (.removed handle)

/-- The roster in which the surface that had the focus has lost it to another. -/
def unfocus (state : Coordinator π) (next : SurfaceHandle) : Step Roster Unit :=
  match state.focused.filter (· ≠ next) with
  | some former => (state.roster.onSurface former (Touch.act (.focus false))).answering ()
  | none => .quiet state.roster ()

/-- Consults the policy about surfaces, one after the other. -/
def consult (pending : Consultations) (state : Coordinator π) : Step (Coordinator π) Unit :=
  Step.forEach pending (fun pair => consultPolicy setup pair.1 pair.2) state

/-- What comes of asking the policy on an occasion: it remembers something, and the dropper of
the surface does as it asks. -/
def heed (state : Coordinator π) (handle : SurfaceHandle) (occasion : PolicyHook)
    (decision : π × List DropperRequest) : Step (Coordinator π) Unit :=
  let obeyed := state.roster.onSurface handle (obeyDropper decision.2)
  ⟨{ state with roster := obeyed.state, memory := decision.1 }, (),
    .hook occasion :: obeyed.effects⟩

/-- What consulting the policy about a surface can come to. -/
inductive Consulted (state : Coordinator π) (key : SessionHandle) (handle : SurfaceHandle) :
    Step (Coordinator π) Unit → Prop where
  /-- The session does not hold the surface, or is neither suspended nor running. -/
  | silent
      (idle : ∀ session, state.roster.session? key = some session →
        handle ∈ session.surfaceHandles →
        session.state ≠ .suspended ∧ session.state ≠ .running) :
      Consulted state key handle (.quiet state ())
  | suspended {session : Session} {surface : Surface}
      (found : state.roster.session? key = some session)
      (held : session.surface? handle = some surface) (posture : session.state = .suspended) :
      Consulted state key handle
        (state.heed handle (.suspended session.view surface.view)
          (setup.policy.suspended state.memory session.view surface.view))
  | resumed {session : Session} {surface : Surface}
      (found : state.roster.session? key = some session)
      (held : session.surface? handle = some surface) (posture : session.state = .running) :
      Consulted state key handle
        (state.heed handle (.resumed session.view surface.view)
          (setup.policy.resumed state.memory session.view surface.view))

/-- What handling an input can do before the policy is consulted. -/
inductive Move (state : Coordinator π) : Input → Step (Coordinator π) Consultations → Prop where
  /-- Nothing happens. -/
  | still (input : Input) : Move state input (.quiet state [])
  /-- A session comes up. -/
  | enroll {key : SessionHandle} {pid : UInt32} {reported : String} (appId : String)
      (absent : state.roster.session? key = none) :
      Move state (.event (.sessionCreated key pid reported))
        ⟨{ state with roster := state.roster.enroll key pid appId }, [],
          [.notify (.sessionAdded key appId)]⟩
  /-- A session moves along an edge of the transition graph and does not stop. -/
  | advance {input : Input} {op : LifecycleOp} {key : SessionHandle} {session : Session}
      {target : SessionState} (asked : input.lifecycle? = some (op, key))
      (found : state.roster.session? key = some session)
      (edge : op.target? session.state = some target) (active : target ≠ .stopped)
      (willing : op = .suspend → setup.config.isExempt session.appId = false) :
      Move state input
        ⟨{ state with
            roster := state.roster.put key { session with state := target }
            wakeLock := (setup.lockAt session key target state.wakeLock).state },
          consultationsAt session key target,
          .notify (.sessionStateChanged key target) ::
            (setup.lockAt session key target state.wakeLock).effects⟩
  /-- A session ends with all it holds. -/
  | finish {input : Input} {key : SessionHandle} {session : Session}
      (asked : input.ending? = some key) (found : state.roster.session? key = some session) :
      Move state input
        ⟨{ state.forgetting setup session.surfaceHandles with
            roster := state.roster.discard key session
            wakeLock := (setup.rest key state.wakeLock).state },
          [],
          Roster.farewell key session ++ obituaries session.surfaceHandles ++
            (setup.rest key state.wakeLock).effects⟩
  /-- A surface comes up. -/
  | arrive {handle : SurfaceHandle} {key : SessionHandle} {title : String} {chrome : ChromeLevel}
      {requested : Option SurfaceId} {session : Session}
      (absent : state.roster.owners.find? handle = none)
      (found : state.roster.session? key = some session) :
      Move state (.event (.surfaceCreated handle key title chrome requested))
        ⟨{ state with
            surfaceIds := (state.surfaceIds.name requested handle).1
            roster := state.roster.deliver key session
              (.create handle key (state.surfaceIds.name requested handle).2 title chrome)
            wakeLock := (setup.lockJoined session key state.wakeLock).state },
          [(key, handle)],
          .notify (.surfaceAdded handle key) ::
            (setup.lockJoined session key state.wakeLock).effects⟩
  /-- A surface is refused, after it was named. -/
  | refuse {handle : SurfaceHandle} {key : SessionHandle} {title : String} {chrome : ChromeLevel}
      {requested : Option SurfaceId} (refused : state.roster.Refuses handle key) :
      Move state (.event (.surfaceCreated handle key title chrome requested))
        (.quiet
          { state with
            surfaceIds := (state.surfaceIds.name requested handle).1.forget handle }
          [])
  /-- A surface goes. -/
  | depart {handle : SurfaceHandle} {key : SessionHandle} {session : Session} {surface : Surface}
      (found : state.roster.session? key = some session)
      (held : session.surface? handle = some surface) :
      Move state (.event (.surfaceRemoved handle))
        ⟨{ state.forgetting setup [handle] with
            roster := state.roster.collect key session handle },
          [], surface.markReleased.effects ++ obituaries [handle]⟩
  /-- A surface changes hands. -/
  | handOver {handle : SurfaceHandle} {key target : SessionHandle} {session receiver : Session}
      {surface : Surface} (found : state.roster.session? key = some session)
      (held : session.surface? handle = some surface)
      (foundTarget : state.roster.session? target = some receiver) (different : key ≠ target) :
      Move state (.event (.surfaceReparented handle target))
        ⟨{ state with
            roster := (state.roster.collect key session handle).deliver target receiver surface
            wakeLock := (setup.lockJoined receiver target state.wakeLock).state },
          [(target, handle)], (setup.lockJoined receiver target state.wakeLock).effects⟩
  /-- A surface is given the focus. -/
  | focus {handle : SurfaceHandle} {surface : Surface}
      (found : state.roster.surface? handle = some surface) :
      Move state (.command (.focusSurface handle))
        ⟨{ state with
            roster := ((state.unfocus handle).state.onSurface handle
              (Touch.act (.focus true))).state
            focused := some handle },
          [],
          (state.unfocus handle).effects ++
            ((state.unfocus handle).state.onSurface handle (Touch.act (.focus true))).effects⟩
  /-- A surface is touched otherwise. -/
  | touch {input : Input} {touch : Touch} {handle : SurfaceHandle}
      (asked : input.touch? = some (touch, handle)) :
      Move state input
        ⟨{ state with roster := (state.roster.onSurface handle touch.act).state }, [],
          (state.roster.onSurface handle touch.act).effects⟩
  /-- All sessions end. -/
  | shutdown :
      Move state .shutdown
        ⟨{ state.forgetting setup state.roster.surfaceHandles with
            roster := state.roster.removeAll.state
            wakeLock := (state.wakeLock.releaseAll setup.power).state },
          [],
          state.roster.removeAll.effects ++ obituaries state.roster.surfaceHandles ++
            (state.wakeLock.releaseAll setup.power).effects⟩

/-- A step that is a move followed by the consultations that it asks for. -/
def Follows (state : Coordinator π) (input : Input) (step : Step (Coordinator π) Unit) : Prop :=
  ∃ move, Move setup state input move ∧ step = move.andThen (consult setup)

end Coordinator

end AppLifecycle
