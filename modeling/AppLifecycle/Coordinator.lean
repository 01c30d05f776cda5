import AppLifecycle.Authorizer
import AppLifecycle.Policy
import AppLifecycle.Roster
import AppLifecycle.SurfaceIds
import AppLifecycle.WakeLock

/-!
# The coordinator

The coordinator applies compositor events and shell commands to the sessions and their surfaces
and draws the consequences:

* a session that holds a surface and is running holds the wake lock; one that becomes suspended
  gives it up;
* a session that stops is removed at once, with its surfaces and its hold on the wake lock;
* surfaces are drawn only while their session is running;
* the surface policy is asked about each surface that is held by a session as it becomes
  suspended or running, or that joins a suspended or running session.

What stays the same throughout a run is the `Setup`; what changes is the `Coordinator`.
-/

namespace AppLifecycle

/-- What a coordinator is built with. -/
structure Setup (π : Type) where
  config : LifecycleConfig
  policy : SurfacePolicy π
  authorizer : Authorizer
  processes : ProcessTable
  power : PowerBackend
  /-- What the persistent ids that are issued start with. -/
  idStem : String
  /-- How the registry is searched for a session of a process. -/
  walk : Registry.Walk := .ascending

namespace Setup

/-- What a configuration asks for: its policy and its authorizer, and a power backend that
always succeeds. -/
def ofConfig (config : LifecycleConfig) (processes : ProcessTable)
    (walk : Registry.Walk := .ascending) : Setup (KeySet SurfaceHandle) where
  config := config
  policy :=
    if config.throttleSuspendedSurfaces then .throttleSuspended else .keepCompositing
  authorizer := .ofConfig config processes
  processes := processes
  power _ := true
  idStem := "surface"
  walk := walk

end Setup

/-- The state of all sessions and surfaces. -/
structure Coordinator (π : Type) where
  roster : Roster
  wakeLock : WakeLock
  surfaceIds : SurfaceIds
  /-- What the surface policy remembers. -/
  memory : π
  /-- The surface that was given the focus last, if it still exists. -/
  focused : Option SurfaceHandle
  deriving DecidableEq

namespace Coordinator

variable {π α : Type}

/-- Acts on the sessions. -/
def withRoster (act : Roster → Step Roster α) (state : Coordinator π) :
    Step (Coordinator π) α :=
  (act state.roster).within fun roster => { state with roster := roster }

/-- Acts on the wake lock. -/
def withWakeLock (act : WakeLock → Step WakeLock α) (state : Coordinator π) :
    Step (Coordinator π) α :=
  (act state.wakeLock).within fun lock => { state with wakeLock := lock }

/-- The surface of a handle, unless it has been released. -/
def liveSurface? (state : Coordinator π) (surface : SurfaceHandle) : Option Surface :=
  (state.roster.surface? surface).filter (·.live)

/-- Acts on a surface if it is live, and leaves everything alone otherwise. -/
def onLiveSurface (surface : SurfaceHandle) (act : Surface → Step Surface Bool)
    (state : Coordinator π) : Step (Coordinator π) Unit :=
  match state.liveSurface? surface with
  | some _ => (state.withRoster (·.onSurface surface act)).answering ()
  | none => .quiet state ()

/-- The picture of all sessions. -/
def snapshot (state : Coordinator π) : ShellSnapshot :=
  state.roster.snapshot state.wakeLock.enabled

/-- Binds a buffer to a surface for drawing. -/
def bindTexture (state : Coordinator π) (surface : SurfaceHandle) (buffer : BufferInfo) :
    Except Failure TextureBinding :=
  match state.roster.surface? surface with
  | some found => found.bindTexture buffer
  | none => .error (.unknownSurface surface)

/-- Gives the focus to a surface, if it is live, and takes it away from the one that had it.
Answers whether the surface did not have it yet. -/
def focus (surface : SurfaceHandle) (state : Coordinator π) : Step (Coordinator π) Bool :=
  match state.liveSurface? surface with
  | none => .quiet state false
  | some _ =>
      let unfocused :=
        match state.focused.filter (· ≠ surface) with
        | some former => (state.withRoster (·.onSurface former (·.setFocused false))).answering ()
        | none => .quiet state ()
      unfocused.andThen fun _ next =>
        let step :=
          { next with focused := some surface }.withRoster (·.onSurface surface (·.setFocused true))
        step.answering (step.answer.getD false)

/-- Draws a surface if the session that holds it is running. -/
def render (surface : SurfaceHandle) (state : Coordinator π) :
    Step (Coordinator π) (Option RenderOutcome) :=
  match state.roster.ownerOf? surface with
  | some owner =>
      if owner.state = .running then state.withRoster (·.onSurface surface (·.render))
      else .quiet state none
  | none => .quiet state none

variable (setup : Setup π)

/-- The state before the first event. -/
def start : Coordinator π where
  roster := .empty
  wakeLock := .free
  surfaceIds := .withStem setup.idStem
  memory := setup.policy.initial
  focused := none

/-- Whether a client may connect. -/
def authorize (pid : UInt32) (appId : String) : Bool :=
  setup.authorizer pid appId

/-- The application id of a session whose process tells of none. -/
def unknownAppId : String :=
  "unknown"

/-- The application id of a new session: the one reported, or else that of a session of the same
process, or else the one the process was launched under. -/
def resolveAppId (pid : UInt32) (reported : String) (roster : Roster) : String :=
  if reported.isEmpty then
    match roster.findByPid? pid setup.walk with
    | some sibling => sibling.appId
    | none => (setup.processes.launchedAppId? pid).getD unknownAppId
  else
    reported

/-- Carries out what a policy asks of the dropper of a surface. -/
def obeyDropper (requests : List DropperRequest) (surface : Surface) : Step Surface Unit :=
  Step.forEach requests
    (fun request surface =>
      match request with
      | .start => surface.startFrameDropper.answering ()
      | .stop => surface.stopFrameDropper.answering ())
    surface

/-- Asks the policy about a surface of a suspended or running session. -/
def consultPolicy (session : SessionHandle) (surface : SurfaceHandle) (state : Coordinator π) :
    Step (Coordinator π) Unit :=
  match state.roster.session? session with
  | none => .quiet state ()
  | some owner =>
      match owner.surface? surface with
      | none => .quiet state ()
      | some held =>
          let ask (occasion : PolicyHook) (decision : π × List DropperRequest) :
              Step (Coordinator π) Unit :=
            let asked : Step (Coordinator π) Unit :=
              ⟨{ state with memory := decision.1 }, (), [.hook occasion]⟩
            asked.andThen fun _ next =>
              (next.withRoster
                (·.onSession session (·.onSurface surface (obeyDropper decision.2)))).answering ()
          match owner.state with
          | .suspended =>
              ask (.suspended owner.view held.view)
                (setup.policy.suspended state.memory owner.view held.view)
          | .running =>
              ask (.resumed owner.view held.view)
                (setup.policy.resumed state.memory owner.view held.view)
          | _ => .quiet state ()

/-- Keeps the device awake for a session, if the configuration wants it. -/
def keepAwake (session : SessionHandle) (state : Coordinator π) : Step (Coordinator π) Unit :=
  if setup.config.wakelock then
    (state.withWakeLock (·.acquire setup.power (.session session))).answering ()
  else
    .quiet state ()

/-- No longer keeps the device awake for a session. -/
def letSleep (session : SessionHandle) (state : Coordinator π) : Step (Coordinator π) Unit :=
  (state.withWakeLock (·.release setup.power (.session session))).answering ()

/-- Drops what is remembered of a surface that is gone. -/
def forgetSurface (surface : SurfaceHandle) (state : Coordinator π) :
    Step (Coordinator π) Unit where
  state :=
    { state with
      surfaceIds := state.surfaceIds.forget surface
      memory := setup.policy.removed state.memory surface
      focused := state.focused.filter (· ≠ surface) }
  answer := ()
  effects := [.hook (.removed surface)]

/-- Removes a session with all that belongs to it. -/
def removeSession (session : SessionHandle) (state : Coordinator π) :
    Step (Coordinator π) Unit :=
  match state.roster.session? session with
  | none => .quiet state ()
  | some removed =>
      (state.withRoster (·.removeSession session)).andThen fun _ next =>
        (Step.forEach removed.surfaceHandles (forgetSurface setup) next).andThen fun _ last =>
          letSleep setup session last

/-- Draws the consequences of a session having come into a state. -/
def afterTransition (session : SessionHandle) (state : Coordinator π) :
    Step (Coordinator π) Unit :=
  match state.roster.session? session with
  | none => .quiet state ()
  | some owner =>
      match owner.state with
      | .running =>
          let awake :=
            if owner.surfaces.isEmpty then .quiet state () else keepAwake setup session state
          awake.andThen fun _ next =>
            Step.forEach owner.surfaceHandles (consultPolicy setup session) next
      | .suspended =>
          (letSleep setup session state).andThen fun _ next =>
            Step.forEach owner.surfaceHandles (consultPolicy setup session) next
      | .stopped => removeSession setup session state
      | _ => .quiet state ()

/-- Moves a session along the transition graph. Answers whether there was an edge. -/
def transition (op : LifecycleOp) (session : SessionHandle) (state : Coordinator π) :
    Step (Coordinator π) Bool :=
  (state.withRoster (·.onSession session (·.apply op))).andThen fun moved next =>
    match moved with
    | some true => (afterTransition setup session next).answering true
    | _ => .quiet next false

/-- Activates a session. -/
def markRunning (session : SessionHandle) (state : Coordinator π) : Step (Coordinator π) Bool :=
  transition setup .markRunning session state

/-- Requests the suspension of a session, unless its application is exempt. -/
def suspend (session : SessionHandle) (state : Coordinator π) : Step (Coordinator π) Bool :=
  match state.roster.session? session with
  | none => .quiet state false
  | some target =>
      if setup.config.isExempt target.appId then .quiet state false
      else transition setup .suspend session state

/-- Lets a session run again. -/
def resume (session : SessionHandle) (state : Coordinator π) : Step (Coordinator π) Bool :=
  transition setup .resume session state

/-- Stops a session and removes it. -/
def stop (session : SessionHandle) (state : Coordinator π) : Step (Coordinator π) Bool :=
  transition setup .stop session state

/-- Applies the state of its session to a surface that has just joined it. -/
def settle (session : SessionHandle) (surface : SurfaceHandle) (state : Coordinator π) :
    Step (Coordinator π) Unit :=
  match state.roster.session? session with
  | none => .quiet state ()
  | some owner =>
      (if owner.state = .running then keepAwake setup session state else .quiet state ()).andThen
        fun _ next => consultPolicy setup session surface next

/-- Brings up a surface, under the id it asks for or a new one. -/
def addSurface (surface : SurfaceHandle) (session : SessionHandle) (title : String)
    (chrome : ChromeLevel) (persistentId : Option SurfaceId) (state : Coordinator π) :
    Step (Coordinator π) Unit :=
  let named :=
    match persistentId with
    | some id => (state.surfaceIds.associate id surface, id)
    | none => state.surfaceIds.idFor surface
  ({ state with surfaceIds := named.1 }.withRoster
      (·.addSurface surface session named.2 title chrome)).andThen fun created next =>
    match created with
    | some _ => settle setup session surface next
    | none => .quiet { next with surfaceIds := next.surfaceIds.forget surface } ()

/-- Hands a surface over to another session. Answers whether that session holds it now. -/
def reparentSurface (surface : SurfaceHandle) (session : SessionHandle) (state : Coordinator π) :
    Step (Coordinator π) Bool :=
  match state.roster.ownerOf? surface with
  | none => .quiet state false
  | some former =>
      if former.handle = session then .quiet state true
      else
        (state.withRoster (·.reparentSurface surface session)).andThen fun moved next =>
          if moved then (settle setup session surface next).answering true
          else .quiet next false

/-- Removes a surface. -/
def removeSurface (surface : SurfaceHandle) (state : Coordinator π) :
    Step (Coordinator π) Unit :=
  (state.withRoster (·.removeSurface surface)).andThen fun removed next =>
    match removed with
    | some _ => forgetSurface setup surface next
    | none => .quiet next ()

/-- Ends all sessions and releases the wake lock. -/
def shutdown (state : Coordinator π) : Step (Coordinator π) Unit :=
  (state.withRoster (·.removeAll)).andThen fun _ next =>
    (Step.forEach state.roster.surfaceHandles (forgetSurface setup) next).andThen fun _ last =>
      last.withWakeLock (·.releaseAll setup.power)

/-- Applies an event of the compositor. -/
def handleEvent (event : CompositorEvent) (state : Coordinator π) : Step (Coordinator π) Unit :=
  match event with
  | .sessionCreated session pid appId =>
      (state.withRoster
        (·.addSession session pid (resolveAppId setup pid appId state.roster))).answering ()
  | .sessionRemoved session => removeSession setup session state
  | .sessionSuspended session =>
      (transition setup .confirmSuspended session state).answering ()
  | .surfaceCreated surface session title chrome persistentId =>
      addSurface setup surface session title chrome persistentId state
  | .surfaceRemoved surface => removeSurface setup surface state
  | .surfaceReparented surface session =>
      (reparentSurface setup surface session state).answering ()
  | .surfaceRenamed surface title => state.onLiveSurface surface (·.setTitle title)
  | .frameReady surface =>
      (state.withRoster (·.onSurface surface fun found => .quiet found.frameReady ())).answering ()

/-- Applies a command of the shell. -/
def handleCommand (command : ShellCommand) (state : Coordinator π) : Step (Coordinator π) Unit :=
  match command with
  | .markRunning session => (markRunning setup session state).answering ()
  | .suspendSession session => (suspend setup session state).answering ()
  | .resumeSession session => (resume setup session state).answering ()
  | .stopSession session => (stop setup session state).answering ()
  | .focusSurface surface => (state.focus surface).answering ()
  | .requestPresentation surface presentation =>
      state.onLiveSurface surface (·.requestPresentation presentation)
  | .render surface => (state.render surface).answering ()
  | .startFrameDropper surface => state.onLiveSurface surface (·.startFrameDropper)
  | .stopFrameDropper surface => state.onLiveSurface surface (·.stopFrameDropper)

end Coordinator

end AppLifecycle
