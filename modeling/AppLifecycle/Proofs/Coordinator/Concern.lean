import AppLifecycle.Proofs.Coordinator.Ownership

/-!
# Whom an input concerns

An input that names a session or a surface concerns one session, the one named or the one that
holds the surface. What it comes to is a deed, and which deed it is depends on that session and
the configuration alone (`handleInput_of_concern`).
-/

namespace AppLifecycle

/-- What an input is about. -/
inductive Subject where
  | session (key : SessionHandle)
  | surface (handle : SurfaceHandle)
  deriving DecidableEq

/-- The session that is named, or that holds the surface named. -/
def Subject.session? (roster : Roster) : Subject → Option Session
  | session key => roster.session? key
  | surface handle => roster.ownerOf? handle

/-- What comes of an input for the session that it concerns. -/
inductive Deed where
  /-- The session moves along an edge of the transition graph and does not stop. -/
  | advance (target : SessionState)
  /-- The session ends with all it holds. -/
  | finish
  /-- A surface of the session goes. -/
  | depart (handle : SurfaceHandle)
  /-- A surface of the session is touched. -/
  | touch (touch : Touch) (handle : SurfaceHandle)

/-- A deed that leaves the session sound: it does not stop without ending, and what goes or is
touched is held. -/
def Deed.Fits (session : Session) : Deed → Prop
  | advance target => target ≠ .stopped
  | finish => True
  | depart handle | touch _ handle => handle ∈ session.surfaceHandles

namespace Input

/-- What an input is about, unless it reports something new or is about everybody. -/
def subject? : Input → Option Subject
  | .event (.sessionRemoved key) => some (.session key)
  | .event (.sessionSuspended key) => some (.session key)
  | .event (.surfaceRemoved handle) => some (.surface handle)
  | .event (.surfaceReparented handle _) => some (.surface handle)
  | .event (.surfaceRenamed handle _) => some (.surface handle)
  | .event (.frameReady handle) => some (.surface handle)
  | .command (.markRunning key) => some (.session key)
  | .command (.suspendSession key) => some (.session key)
  | .command (.resumeSession key) => some (.session key)
  | .command (.stopSession key) => some (.session key)
  | .command (.focusSurface handle) => some (.surface handle)
  | .command (.requestPresentation handle _) => some (.surface handle)
  | .command (.render handle) => some (.surface handle)
  | .command (.startFrameDropper handle) => some (.surface handle)
  | .command (.stopFrameDropper handle) => some (.surface handle)
  | .event (.sessionCreated ..) | .event (.surfaceCreated ..) | .shutdown => none

/-- What an input is about that concerns one session only. A surface that is given the focus may
take it from a surface of another session, and one that changes hands concerns two sessions. -/
def concern? : Input → Option Subject
  | .command (.focusSurface _) | .event (.surfaceReparented _ _) => none
  | input => input.subject?

theorem subject?_of_concern? {input : Input} {subject : Subject}
    (concern : input.concern? = some subject) : input.subject? = some subject := by
  unfold concern? at concern
  split at concern
  · contradiction
  · contradiction
  · exact concern

/-- What comes of an input that concerns one session, if anything does. -/
def deed? (config : LifecycleConfig) (session : Session) : Input → Option Deed
  | .event (.sessionRemoved _) | .command (.stopSession _) => some .finish
  | .event (.surfaceRemoved handle) => some (.depart handle)
  | .command (.suspendSession _) =>
      if config.isExempt session.appId then none
      else (LifecycleOp.target? .suspend session.state).map .advance
  | .command (.render handle) =>
      if session.state = .running then some (.touch .render handle) else none
  | input =>
      match input.lifecycle? with
      | some (op, _) => (op.target? session.state).map .advance
      | none => input.touch?.map fun touched => .touch touched.1 touched.2

end Input

namespace Subject

variable {roster : Roster} {subject : Subject} {session : Session} {handle : SurfaceHandle}

/-- Whoever is concerned exists under its own handle. -/
theorem found_of_session? (consistent : roster.Consistent)
    (concerned : subject.session? roster = some session) :
    roster.session? session.handle = some session := by
  cases subject with
  | session key =>
      have found : roster.session? key = some session := concerned
      rw [(consistent.sound key session found).handle]
      exact found
  | surface handle =>
      obtain ⟨key, _, found⟩ := Option.bind_eq_some_iff.1 concerned
      rw [(consistent.sound key session found).handle]
      exact found

/-- Whoever a surface concerns holds it, and the index knows. -/
theorem owners_of_session? (consistent : roster.Consistent)
    (concerned : (Subject.surface handle).session? roster = some session) :
    roster.owners.find? handle = some session.handle := by
  obtain ⟨key, indexed, found⟩ := Option.bind_eq_some_iff.1 concerned
  rw [(consistent.sound key session found).handle]
  exact indexed

theorem held_of_session? (consistent : roster.Consistent)
    (concerned : (Subject.surface handle).session? roster = some session) :
    ∃ surface, session.surface? handle = some surface :=
  Session.exists_surface?_of_mem <| consistent.mem_of_owners
    (found_of_session? consistent concerned) (owners_of_session? consistent concerned)

/-- A surface concerns nobody exactly if the index does not know it. -/
theorem owners_of_unknown (consistent : roster.Consistent)
    (unknown : (Subject.surface handle).session? roster = none) :
    roster.owners.find? handle = none := by
  cases indexed : roster.owners.find? handle with
  | none => rfl
  | some key =>
      obtain ⟨session, owned, _⟩ := consistent.ownerOf?_of_owners indexed
      rw [session?, owned] at unknown
      contradiction

end Subject

namespace Coordinator

variable {π : Type} {setup : Setup π} {state : Coordinator π} {input : Input}
  {subject : Subject} {session : Session} {key : SessionHandle} {handle : SurfaceHandle}

/-! ## Deeds -/

/-- Does a deed for a session. Consultations may follow. -/
def perform (setup : Setup π) (session : Session) (state : Coordinator π) :
    Deed → Step (Coordinator π) Consultations
  | .advance target =>
      ⟨{ state with
          roster := state.roster.put session.handle { session with state := target }
          wakeLock := (setup.lockAt session session.handle target state.wakeLock).state },
        consultationsAt session session.handle target,
        .notify (.sessionStateChanged session.handle target) ::
          (setup.lockAt session session.handle target state.wakeLock).effects⟩
  | .finish =>
      ⟨{ state.forgetting setup session.surfaceHandles with
          roster := state.roster.discard session.handle session
          wakeLock := (setup.rest session.handle state.wakeLock).state },
        [],
        Roster.farewell session.handle session ++ obituaries session.surfaceHandles ++
          (setup.rest session.handle state.wakeLock).effects⟩
  | .depart handle =>
      ⟨{ state.forgetting setup [handle] with
          roster := state.roster.collect session.handle session handle },
        [],
        (session.onSurface handle Surface.markReleased).effects ++ obituaries [handle]⟩
  | .touch touch handle =>
      ⟨{ state with
          roster := state.roster.put session.handle (session.onSurface handle touch.act).state },
        [], (session.onSurface handle touch.act).effects⟩

theorem andThen_consult_nil (next : Coordinator π) (effects : List Effect) :
    (⟨next, [], effects⟩ : Step (Coordinator π) Consultations).andThen (consult setup) =
      ⟨next, (), effects⟩ := by
  simp [Step.andThen, consult, Step.forEach, Step.quiet]

/-- What an input comes to that may come to a deed. -/
def carryOut (setup : Setup π) (session : Session) (state : Coordinator π) :
    Option Deed → Step (Coordinator π) Unit
  | some deed => (perform setup session state deed).andThen (consult setup)
  | none => .quiet state ()

/-! ## Inputs about a session -/

theorem transition_of_found {op : LifecycleOp} (found : state.roster.session? key = some session)
    (handleEq : session.handle = key) (notStop : op ≠ .stop) :
    (transition setup op key state).answering () =
      carryOut setup session state ((op.target? session.state).map .advance) := by
  cases edge : op.target? session.state with
  | none =>
      rw [transition_of_no_edge found edge]
      rfl
  | some target =>
      rw [transition_of_edge found handleEq edge (target?_ne_stopped notStop edge)]
      subst handleEq
      rfl

section Consistent

variable (consistent : state.roster.Consistent)
include consistent

theorem removeSession_of_found (found : state.roster.session? key = some session) :
    removeSession setup key state = carryOut setup session state (some .finish) := by
  obtain rfl := (consistent.sound key session found).handle
  rw [removeSession_eq found, carryOut, perform, andThen_consult_nil]

theorem stop_of_found (found : state.roster.session? key = some session) :
    (stop setup key state).answering () = carryOut setup session state (some .finish) := by
  rw [stop, transition_stop found (consistent.sound key session found).active,
    removeSession_of_found consistent found]
  rfl

theorem suspend_of_found (found : state.roster.session? key = some session) :
    (suspend setup key state).answering () =
      carryOut setup session state
        (if setup.config.isExempt session.appId then none
          else (LifecycleOp.target? .suspend session.state).map .advance) := by
  rw [suspend, found]
  simp only
  split
  · rfl
  · exact transition_of_found found (consistent.sound key session found).handle
      LifecycleOp.noConfusion

/-! ## Inputs about a surface -/

variable (concerned : (Subject.surface handle).session? state.roster = some session)
include concerned

theorem removeSurface_of_held :
    removeSurface setup handle state = carryOut setup session state (some (.depart handle)) := by
  obtain ⟨surface, held⟩ := Subject.held_of_session? consistent concerned
  unfold removeSurface
  rw [withRoster_eq, Roster.removeSurface_of_found
    (Subject.owners_of_session? consistent concerned)
    (Subject.found_of_session? consistent concerned) held]
  simp only [Step.andThen, forgetSurface_eq]
  rw [carryOut, perform, andThen_consult_nil, Session.effects_onSurface held]
  rfl

/-- Acting on a surface as a touch does. -/
theorem onSurface_of_held {α : Type} (touch : Touch) {act : Surface → Step Surface α}
    (same : ∀ surface, (act surface).answering () = touch.act surface) :
    (state.withRoster (·.onSurface handle act)).answering () =
      carryOut setup session state (some (.touch touch handle)) := by
  have equal := Roster.onSurface_congr state.roster handle act touch.act
    (fun surface => congrArg Step.state (same surface))
    fun surface => congrArg Step.effects (same surface)
  rw [withRoster_eq]
  simp only [Step.answering, equal.1, equal.2]
  rw [Roster.onSurface_of_found (Subject.owners_of_session? consistent concerned)
    (Subject.found_of_session? consistent concerned),
    Roster.onSession_of_found (Subject.found_of_session? consistent concerned), carryOut, perform,
    andThen_consult_nil]
  rfl

theorem onLiveSurface_of_held (touch : Touch) {act : Surface → Step Surface Bool}
    (same : ∀ surface, (act surface).answering () = touch.act surface) :
    state.onLiveSurface handle act =
      carryOut setup session state (some (.touch touch handle)) := by
  obtain ⟨surface, held⟩ := Subject.held_of_session? consistent concerned
  have found : state.roster.surface? handle = some surface := by
    rw [Roster.surface?]
    exact (congrArg (·.bind (·.surface? handle)) concerned).trans held
  have live : state.liveSurface? handle = some surface := by
    rw [liveSurface?, found, Option.filter_some, if_pos (consistent.live_of_surface? found)]
  rw [onLiveSurface, live]
  exact onSurface_of_held consistent concerned touch same

theorem render_of_held :
    (state.render handle).answering () =
      carryOut setup session state
        (if session.state = .running then some (.touch .render handle) else none) := by
  have owned : state.roster.ownerOf? handle = some session := concerned
  rw [render, owned]
  simp only
  split
  · exact onSurface_of_held consistent concerned .render fun _ => rfl
  · rfl

end Consistent

/-! ## All inputs that concern one session -/

/-- What comes of an input is decided by the session that it concerns. -/
theorem handleInput_of_concern (setup : Setup π) (consistent : state.roster.Consistent)
    (concern : input.concern? = some subject)
    (concerned : subject.session? state.roster = some session) :
    handleInput setup input state =
      carryOut setup session state (input.deed? setup.config session) := by
  have sound (key : SessionHandle) (found : state.roster.session? key = some session) :=
    (consistent.sound key session found).handle
  cases input with
  | shutdown => contradiction
  | event event =>
      cases event with
      | sessionCreated | surfaceCreated | surfaceReparented => contradiction
      | sessionRemoved key =>
          cases concern
          exact removeSession_of_found consistent concerned
      | sessionSuspended key =>
          cases concern
          exact transition_of_found concerned (sound key concerned) LifecycleOp.noConfusion
      | surfaceRemoved handle =>
          cases concern
          exact removeSurface_of_held consistent concerned
      | surfaceRenamed handle title =>
          cases concern
          exact onLiveSurface_of_held consistent concerned (.rename title) fun _ => rfl
      | frameReady handle =>
          cases concern
          exact onSurface_of_held consistent concerned .frameReady fun _ => rfl
  | command command =>
      cases command with
      | focusSurface => contradiction
      | markRunning key =>
          cases concern
          exact transition_of_found concerned (sound key concerned) LifecycleOp.noConfusion
      | suspendSession key =>
          cases concern
          exact suspend_of_found consistent concerned
      | resumeSession key =>
          cases concern
          exact transition_of_found concerned (sound key concerned) LifecycleOp.noConfusion
      | stopSession key =>
          cases concern
          exact stop_of_found consistent concerned
      | requestPresentation handle presentation =>
          cases concern
          exact onLiveSurface_of_held consistent concerned (.present presentation) fun _ => rfl
      | render handle =>
          cases concern
          exact render_of_held consistent concerned
      | startFrameDropper handle =>
          cases concern
          exact onLiveSurface_of_held consistent concerned .startDropper fun _ => rfl
      | stopFrameDropper handle =>
          cases concern
          exact onLiveSurface_of_held consistent concerned .stopDropper fun _ => rfl

end Coordinator

end AppLifecycle
