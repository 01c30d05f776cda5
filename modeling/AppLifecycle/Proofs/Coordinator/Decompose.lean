import AppLifecycle.Proofs.Coordinator.Move

/-!
# Every input is a move

On a consistent roster every function of the coordinator comes to a move and the consultations
that follow it (`handleInput_follows`). Stopping a session and removing it come to the same move.
-/

namespace AppLifecycle

namespace Roster

variable {α β : Type} {roster : Roster} {key : SessionHandle} {session : Session}
  {handle : SurfaceHandle}

/-- A session that has just stopped is discarded like the one that was running. -/
theorem discard_put (session stopped : Session)
    (same : stopped.surfaceHandles = session.surfaceHandles) :
    (roster.put key stopped).discard key stopped = roster.discard key session := by
  have sessions : (roster.sessions.insert key stopped).erase key = roster.sessions.erase key := by
    apply KeyMap.ext_find?
    intro other
    rw [KeyMap.find?_erase, KeyMap.find?_erase, KeyMap.find?_insert]
    split <;> rfl
  simp only [discard, put, sessions, same]

/-- What is answered does not matter to what is done to a surface. -/
theorem onSurface_congr (roster : Roster) (handle : SurfaceHandle)
    (first : Surface → Step Surface α) (second : Surface → Step Surface β)
    (state : ∀ surface, (first surface).state = (second surface).state)
    (effects : ∀ surface, (first surface).effects = (second surface).effects) :
    (roster.onSurface handle first).state = (roster.onSurface handle second).state ∧
      (roster.onSurface handle first).effects = (roster.onSurface handle second).effects := by
  unfold onSurface
  split
  · unfold onSession
    split
    · simp only [Session.onSurface, Step.answering]
      split
      · exact ⟨by rw [state], effects _⟩
      · exact ⟨rfl, rfl⟩
    · exact ⟨rfl, rfl⟩
  · exact ⟨rfl, rfl⟩

end Roster

namespace Coordinator

variable {π α : Type} {setup : Setup π} {state : Coordinator π} {input : Input}
  {key : SessionHandle} {handle : SurfaceHandle} {session : Session}

/-! ## Putting moves together -/

theorem follows_still : Follows setup state input (.quiet state ()) :=
  ⟨_, .still input, rfl⟩

/-- A move after which nobody is consulted. -/
theorem follows_of_move {next : Coordinator π} {effects : List Effect}
    (move : Move setup state input ⟨next, [], effects⟩) :
    Follows setup state input ⟨next, (), effects⟩ :=
  ⟨_, move, by simp [Step.andThen, consult, Step.forEach, Step.quiet]⟩

theorem withRoster_eq {α : Type} (act : Roster → Step Roster α) (state : Coordinator π) :
    state.withRoster act =
      ⟨{ state with roster := (act state.roster).state }, (act state.roster).answer,
        (act state.roster).effects⟩ :=
  rfl

/-! ## Sessions that end -/

theorem forgetSurface_eq (handle : SurfaceHandle) (state : Coordinator π) :
    forgetSurface setup handle state =
      ⟨state.forgetting setup [handle], (), obituaries [handle]⟩ := by
  simp [forgetSurface, forgetting, obituaries]

theorem forEach_forgetSurface (handles : List SurfaceHandle) (state : Coordinator π) :
    Step.forEach handles (forgetSurface setup) state =
      ⟨state.forgetting setup handles, (), obituaries handles⟩ := by
  induction handles generalizing state with
  | nil =>
      have focused : state.focused.filter (· ∉ ([] : List SurfaceHandle)) = state.focused := by
        cases state.focused <;> simp
      rw [forgetting, focused]
      rfl
  | cons handle rest ih =>
      rw [Step.forEach, Step.andThen, ih]
      have focused : (state.focused.filter (· ≠ handle)).filter (· ∉ rest) =
          state.focused.filter (· ∉ handle :: rest) := by
        cases state.focused with
        | none => rfl
        | some held =>
            by_cases equal : held = handle <;> simp [equal]
      simp only [forgetSurface, forgetting, List.foldl_cons, focused]
      rfl

theorem removeSession_eq (found : state.roster.session? key = some session) :
    removeSession setup key state =
      ⟨{ state.forgetting setup session.surfaceHandles with
          roster := state.roster.discard key session
          wakeLock := (setup.rest key state.wakeLock).state },
        (),
        Roster.farewell key session ++ obituaries session.surfaceHandles ++
          (setup.rest key state.wakeLock).effects⟩ := by
  rw [removeSession, found]
  simp only [withRoster_eq, Step.andThen, forEach_forgetSurface, Roster.state_removeSession found,
    Roster.effects_removeSession found, List.append_assoc]
  rfl

theorem removeSession_of_absent (absent : state.roster.session? key = none) :
    removeSession setup key state = .quiet state () := by
  rw [removeSession, absent]

theorem removeSession_follows (asked : input.ending? = some key) :
    Follows setup state input (removeSession setup key state) := by
  cases found : state.roster.session? key with
  | none =>
      rw [removeSession_of_absent found]
      exact follows_still
  | some session =>
      rw [removeSession_eq found]
      exact follows_of_move (.finish asked found)

/-! ## Moving along the transition graph -/

theorem transition_of_absent (op : LifecycleOp) (absent : state.roster.session? key = none) :
    transition setup op key state = .quiet state false := by
  rw [transition, withRoster_eq, Roster.onSession_of_absent absent]
  rfl

theorem transition_of_no_edge {op : LifecycleOp} (found : state.roster.session? key = some session)
    (noEdge : op.target? session.state = none) :
    transition setup op key state = .quiet state false := by
  rw [transition, withRoster_eq, Roster.onSession_of_found found]
  simp only [Session.apply, noEdge, Step.quiet, Roster.put_self found]
  rfl

/-- A session that comes into a state that is not the end. -/
theorem transition_of_edge {op : LifecycleOp} {target : SessionState}
    (found : state.roster.session? key = some session) (handleEq : session.handle = key)
    (edge : op.target? session.state = some target) (active : target ≠ .stopped) :
    transition setup op key state =
      ((⟨{ state with
            roster := state.roster.put key { session with state := target }
            wakeLock := (setup.lockAt session key target state.wakeLock).state },
          consultationsAt session key target,
          .notify (.sessionStateChanged key target) ::
            (setup.lockAt session key target state.wakeLock).effects⟩ :
          Step (Coordinator π) Consultations).andThen (consult setup)).answering true := by
  subst handleEq
  rw [transition, withRoster_eq, Roster.onSession_of_found found]
  simp only [Session.apply, edge, Step.andThen]
  unfold afterTransition
  simp only [Roster.session?_put, if_true]
  cases target with
  | stopped => exact absurd rfl active
  | starting | suspending =>
      simp [Step.answering, Step.quiet, consult, consultationsAt, Setup.lockAt, Step.forEach]
  | running =>
      simp only [Step.answering, Step.andThen, consult, consultationsAt, Step.forEach_map,
        Setup.lockAt, keepAwake, Setup.wake]
      split
      · rfl
      · split <;> simp [withWakeLock, Step.within, Step.quiet, Session.surfaceHandles]
  | suspended =>
      simp [Step.answering, Step.andThen, consult, consultationsAt, Step.forEach_map,
        Setup.lockAt, letSleep, Setup.rest, withWakeLock, Step.within, Session.surfaceHandles]

/-- Stopping a session comes to the same as removing it. -/
theorem transition_stop (found : state.roster.session? key = some session)
    (active : session.state ≠ .stopped) :
    transition setup .stop key state = (removeSession setup key state).answering true := by
  have edge : LifecycleOp.target? .stop session.state = some .stopped := by
    cases state : session.state <;> first | rfl | exact absurd state active
  have noEdge : LifecycleOp.target? .stop .stopped = none := rfl
  rw [transition, withRoster_eq, Roster.onSession_of_found found, removeSession_eq found]
  simp only [Session.apply, edge, Step.andThen]
  unfold afterTransition
  simp only [Roster.session?_put, if_true]
  rw [removeSession_eq (by rw [Roster.session?_put, if_pos rfl])]
  simp only [Step.answering, Roster.farewell, Session.apply, edge, noEdge, Step.quiet,
    Roster.discard_put session { session with state := .stopped } rfl,
    List.nil_append, List.append_assoc]
  rfl

theorem target?_ne_stopped {op : LifecycleOp} {source target : SessionState}
    (notStop : op ≠ .stop) (edge : op.target? source = some target) : target ≠ .stopped := by
  rintro rfl
  cases op <;> cases source <;> first | exact notStop rfl | simp [LifecycleOp.target?] at edge

section Consistent

variable (consistent : state.roster.Consistent)
include consistent

theorem transition_follows {op : LifecycleOp} (asked : input.lifecycle? = some (op, key))
    (notStop : op ≠ .stop)
    (willing : ∀ session, state.roster.session? key = some session → op = .suspend →
      setup.config.isExempt session.appId = false) :
    Follows setup state input ((transition setup op key state).answering ()) := by
  cases found : state.roster.session? key with
  | none =>
      rw [transition_of_absent op found]
      exact follows_still
  | some session =>
      cases edge : op.target? session.state with
      | none =>
          rw [transition_of_no_edge found edge]
          exact follows_still
      | some target =>
          have active := target?_ne_stopped notStop edge
          rw [transition_of_edge found (consistent.sound key session found).handle edge active]
          exact ⟨_, .advance asked found edge active (willing session found), rfl⟩

theorem suspend_follows :
    Follows setup state (.command (.suspendSession key))
      ((suspend setup key state).answering ()) := by
  unfold suspend
  cases found : state.roster.session? key with
  | none => exact follows_still
  | some target =>
      simp only
      split
      · exact follows_still
      · rename_i notExempt
        apply transition_follows consistent rfl LifecycleOp.noConfusion
        intro session sessionFound _
        rw [found] at sessionFound
        rw [← Option.some.inj sessionFound]
        simpa using notExempt

theorem stop_follows (asked : input.ending? = some key) :
    Follows setup state input ((stop setup key state).answering ()) := by
  cases found : state.roster.session? key with
  | none =>
      rw [stop, transition_of_absent .stop found]
      exact follows_still
  | some session =>
      rw [stop, transition_stop found (consistent.sound key session found).active]
      exact removeSession_follows asked

/-! ## Surfaces that come up, go and change hands -/

omit consistent in
theorem settle_eq (found : state.roster.session? key = some session) :
    settle setup key handle state =
      (⟨{ state with wakeLock := (setup.lockJoined session key state.wakeLock).state },
          [(key, handle)], (setup.lockJoined session key state.wakeLock).effects⟩ :
          Step (Coordinator π) Consultations).andThen (consult setup) := by
  rw [settle, found]
  simp only [Step.andThen, consult, Step.forEach, Step.quiet, List.append_nil, Setup.lockJoined]
  split
  · simp only [keepAwake, Setup.wake]
    split <;> rfl
  · rfl

omit consistent in
theorem addSurface_of_refused {title : String} {chrome : ChromeLevel}
    {requested : Option SurfaceId} (refused : state.roster.Refuses handle key) :
    addSurface setup handle key title chrome requested state =
      .quiet
        { state with surfaceIds := (state.surfaceIds.name requested handle).1.forget handle }
        () := by
  unfold addSurface
  simp only [withRoster_eq]
  rw [Roster.addSurface_of_refused refused]
  rfl

/-- A surface that is not refused comes up in the session, under the id that it is named by. -/
theorem addSurface_of_accepted {title : String} {chrome : ChromeLevel}
    {requested : Option SurfaceId} (absent : state.roster.owners.find? handle = none)
    (found : state.roster.session? key = some session) :
    addSurface setup handle key title chrome requested state =
      (⟨{ state with
            surfaceIds := (state.surfaceIds.name requested handle).1
            roster := state.roster.deliver key session
              (.create handle key (state.surfaceIds.name requested handle).2 title chrome)
            wakeLock := (setup.lockJoined session key state.wakeLock).state },
          [(key, handle)],
          .notify (.surfaceAdded handle key) ::
            (setup.lockJoined session key state.wakeLock).effects⟩ :
          Step (Coordinator π) Consultations).andThen (consult setup) := by
  unfold addSurface
  simp only [withRoster_eq]
  rw [Roster.addSurface_of_accepted absent found (consistent.sound key session found).active]
  have joined : (state.roster.deliver key session (.create handle key
      (state.surfaceIds.name requested handle).2 title chrome)).session? key =
      some (session.adopt (.create handle key
        (state.surfaceIds.name requested handle).2 title chrome)) := by
    rw [Roster.session?_deliver, if_pos rfl]
  simp only [Step.andThen]
  rw [settle_eq joined]
  have sameLock : setup.lockJoined (session.adopt (.create handle key
      (state.surfaceIds.name requested handle).2 title chrome)) key state.wakeLock =
      setup.lockJoined session key state.wakeLock := by
    have unheld : (Surface.create handle key
        (state.surfaceIds.name requested handle).2 title chrome).handle ∉
        session.surfaceHandles := consistent.not_mem_of_absent absent found
    rw [Session.adopt_of_not_mem unheld]
    rfl
  simp only [sameLock, Step.andThen]
  rfl

theorem addSurface_follows {title : String} {chrome : ChromeLevel}
    {requested : Option SurfaceId} :
    Follows setup state (.event (.surfaceCreated handle key title chrome requested))
      (addSurface setup handle key title chrome requested state) := by
  by_cases refused : state.roster.Refuses handle key
  · rw [addSurface_of_refused refused]
    exact follows_of_move (.refuse refused)
  · obtain ⟨absent, session, found⟩ := Roster.accepts_of_not_refuses refused
    exact ⟨_, .arrive absent found, addSurface_of_accepted consistent absent found⟩

theorem removeSurface_follows :
    Follows setup state (.event (.surfaceRemoved handle)) (removeSurface setup handle state) := by
  unfold removeSurface
  cases indexed : state.roster.owners.find? handle with
  | none =>
      rw [withRoster_eq, Roster.removeSurface_of_absent indexed]
      exact follows_still
  | some key =>
      rcases (consistent.indexed handle key).1 indexed with ⟨session, found, member⟩
      rcases Session.exists_surface?_of_mem member with ⟨surface, held⟩
      rw [withRoster_eq, Roster.removeSurface_of_found indexed found held]
      simp only [Step.andThen, forgetSurface_eq]
      exact follows_of_move (.depart found held)

/-- A surface that somebody else holds is handed to the session that is to take it in. -/
theorem reparentSurface_of_accepted {target : SessionHandle} {receiver : Session}
    {surface : Surface} (found : state.roster.session? key = some session)
    (held : session.surface? handle = some surface)
    (foundTarget : state.roster.session? target = some receiver) (different : key ≠ target) :
    (reparentSurface setup handle target state).answering () =
      (⟨{ state with
            roster := (state.roster.collect key session handle).deliver target receiver surface
            wakeLock := (setup.lockJoined receiver target state.wakeLock).state },
          [(target, handle)], (setup.lockJoined receiver target state.wakeLock).effects⟩ :
          Step (Coordinator π) Consultations).andThen (consult setup) := by
  have member := Session.mem_surfaceHandles_of_surface? held
  have indexed := consistent.owners_of_mem found member
  have owned : state.roster.ownerOf? handle = some session := by
    rw [Roster.ownerOf?, indexed]
    exact found
  have active := (consistent.sound target receiver foundTarget).active
  have unheld := consistent.not_mem_of_held found held foundTarget different
  have joined : ((state.roster.collect key session handle).deliver target receiver
      surface).session? target = some (receiver.adopt surface) := by
    rw [Roster.session?_deliver, if_pos rfl]
  have sameLock : setup.lockJoined (receiver.adopt surface) target state.wakeLock =
      setup.lockJoined receiver target state.wakeLock := by
    rw [Session.adopt_of_not_mem unheld]
    rfl
  rw [reparentSurface, owned]
  simp only [(consistent.sound key session found).handle]
  rw [if_neg different, withRoster_eq,
    Roster.reparentSurface_of_found indexed found held foundTarget active different]
  simp only [Step.andThen, Step.quiet, if_true]
  rw [settle_eq joined]
  simp only [sameLock, Step.andThen, Step.answering, List.nil_append]

theorem reparentSurface_follows {target : SessionHandle} :
    Follows setup state (.event (.surfaceReparented handle target))
      ((reparentSurface setup handle target state).answering ()) := by
  cases indexed : state.roster.owners.find? handle with
  | none =>
      have unowned : state.roster.ownerOf? handle = none := by
        rw [Roster.ownerOf?, indexed]
        rfl
      rw [reparentSurface, unowned]
      exact follows_still
  | some key =>
      rcases consistent.ownerOf?_of_owners indexed with ⟨session, owned, found, member⟩
      rcases Session.exists_surface?_of_mem member with ⟨surface, held⟩
      by_cases different : key = target
      · rw [reparentSurface, owned]
        simp only [(consistent.sound key session found).handle]
        rw [if_pos different]
        exact follows_still
      · cases foundTarget : state.roster.session? target with
        | none =>
            rw [reparentSurface, owned]
            simp only [(consistent.sound key session found).handle]
            rw [if_neg different, withRoster_eq, Roster.reparentSurface_of_unknown foundTarget]
            exact follows_still
        | some receiver =>
            rw [reparentSurface_of_accepted consistent found held foundTarget different]
            exact ⟨_, .handOver found held foundTarget different, rfl⟩

/-! ## Surfaces that are touched -/

theorem focus_follows :
    Follows setup state (.command (.focusSurface handle)) ((state.focus handle).answering ()) := by
  unfold focus liveSurface?
  cases found : state.roster.surface? handle with
  | none => exact follows_still
  | some surface =>
      rw [Option.filter_some, if_pos (consistent.live_of_surface? found)]
      have lost (former : SurfaceHandle) := Roster.onSurface_congr state.roster former
        (·.setFocused false) (Touch.act (.focus false)) (fun _ => rfl) fun _ => rfl
      have gained (roster : Roster) := Roster.onSurface_congr roster handle
        (·.setFocused true) (Touch.act (.focus true)) (fun _ => rfl) fun _ => rfl
      have move : Follows setup state (.command (.focusSurface handle)) _ :=
        follows_of_move (.focus found)
      simp only [unfocus] at move
      cases focusedFound : state.focused.filter (· ≠ handle) with
      | none =>
          simp only [focusedFound, Step.quiet, List.nil_append] at move
          simp only [withRoster_eq, Step.andThen, Step.answering, Step.quiet,
            (gained state.roster).1, (gained state.roster).2, List.nil_append]
          exact move
      | some former =>
          simp only [focusedFound, Step.answering] at move
          simp only [withRoster_eq, Step.andThen, Step.answering, (lost former).1,
            (lost former).2, (gained _).1, (gained _).2]
          exact move

omit consistent in
/-- Acting on a surface as a touch does is that touch. -/
theorem touch_follows (touch : Touch) (asked : input.touch? = some (touch, handle))
    {act : Surface → Step Surface α}
    (same : ∀ surface, (act surface).answering () = touch.act surface) :
    Follows setup state input
      ((state.withRoster (·.onSurface handle act)).answering ()) := by
  have equal := Roster.onSurface_congr state.roster handle act touch.act
    (fun surface => congrArg Step.state (same surface))
    fun surface => congrArg Step.effects (same surface)
  rw [withRoster_eq]
  simp only [Step.answering, equal.1, equal.2]
  exact follows_of_move (.touch asked)

omit consistent in
theorem onLiveSurface_follows (touch : Touch) (asked : input.touch? = some (touch, handle))
    {act : Surface → Step Surface Bool}
    (same : ∀ surface, (act surface).answering () = touch.act surface) :
    Follows setup state input (state.onLiveSurface handle act) := by
  unfold onLiveSurface
  cases state.liveSurface? handle with
  | none => exact follows_still
  | some surface => exact touch_follows touch asked same

omit consistent in
theorem render_follows :
    Follows setup state (.command (.render handle)) ((state.render handle).answering ()) := by
  unfold render
  cases state.roster.ownerOf? handle with
  | none => exact follows_still
  | some owner =>
      simp only
      split
      · exact touch_follows .render rfl fun _ => rfl
      · exact follows_still

/-! ## All inputs -/

omit consistent in
theorem addSession_follows {pid : UInt32} {reported : String} :
    Follows setup state (.event (.sessionCreated key pid reported))
      ((state.withRoster
        (·.addSession key pid (resolveAppId setup pid reported state.roster))).answering ()) := by
  rw [withRoster_eq]
  cases found : state.roster.session? key with
  | none =>
      rw [Roster.addSession_of_absent found]
      exact follows_of_move (.enroll _ found)
  | some session =>
      rw [Roster.addSession_of_found found]
      exact follows_still

omit consistent in
theorem shutdown_eq :
    shutdown setup state =
      ⟨{ state.forgetting setup state.roster.surfaceHandles with
          roster := state.roster.removeAll.state
          wakeLock := (state.wakeLock.releaseAll setup.power).state },
        (),
        state.roster.removeAll.effects ++ obituaries state.roster.surfaceHandles ++
          (state.wakeLock.releaseAll setup.power).effects⟩ := by
  simp only [shutdown, withRoster_eq, Step.andThen, forEach_forgetSurface, List.append_assoc]
  rfl

omit consistent in
theorem shutdown_follows : Follows setup state .shutdown (shutdown setup state) := by
  rw [shutdown_eq]
  exact follows_of_move .shutdown

/-- Whatever is handled is a move and the consultations that it asks for. -/
theorem handleInput_follows (setup : Setup π) (input : Input) :
    Follows setup state input (handleInput setup input state) := by
  cases input with
  | shutdown => exact shutdown_follows
  | event event =>
      cases event with
      | sessionCreated key pid reported => exact addSession_follows
      | sessionRemoved key => exact removeSession_follows rfl
      | sessionSuspended key =>
          exact transition_follows consistent rfl LifecycleOp.noConfusion fun _ _ =>
            LifecycleOp.noConfusion
      | surfaceCreated handle key title chrome requested => exact addSurface_follows consistent
      | surfaceRemoved handle => exact removeSurface_follows consistent
      | surfaceReparented handle target => exact reparentSurface_follows consistent
      | surfaceRenamed handle title =>
          exact onLiveSurface_follows (.rename title) rfl fun _ => rfl
      | frameReady handle => exact touch_follows .frameReady rfl fun _ => rfl
  | command command =>
      cases command with
      | markRunning key =>
          exact transition_follows consistent rfl LifecycleOp.noConfusion fun _ _ =>
            LifecycleOp.noConfusion
      | suspendSession key => exact suspend_follows consistent
      | resumeSession key =>
          exact transition_follows consistent rfl LifecycleOp.noConfusion fun _ _ =>
            LifecycleOp.noConfusion
      | stopSession key => exact stop_follows consistent rfl
      | focusSurface handle => exact focus_follows consistent
      | requestPresentation handle presentation =>
          exact onLiveSurface_follows (.present presentation) rfl fun _ => rfl
      | render handle => exact render_follows
      | startFrameDropper handle =>
          exact onLiveSurface_follows .startDropper rfl fun _ => rfl
      | stopFrameDropper handle =>
          exact onLiveSurface_follows .stopDropper rfl fun _ => rfl

/-! ## Consulting the policy -/

/-- Consulting the policy does one of the things listed. -/
theorem consultPolicy_consulted (setup : Setup π) (key : SessionHandle) (handle : SurfaceHandle) :
    Consulted setup state key handle (consultPolicy setup key handle state) := by
  cases found : state.roster.session? key with
  | none =>
      have silent : consultPolicy setup key handle state = .quiet state () := by
        rw [consultPolicy, found]
      rw [silent]
      apply Consulted.silent
      intro session sessionFound
      rw [found] at sessionFound
      contradiction
  | some session =>
      cases held : session.surface? handle with
      | none =>
          have silent : consultPolicy setup key handle state = .quiet state () := by
            simp only [consultPolicy, found, held]
          rw [silent]
          apply Consulted.silent
          intro other otherFound member
          rw [found] at otherFound
          rw [← Option.some.inj otherFound] at member
          exact absurd member (Session.surface?_eq_none_iff.1 held)
      | some surface =>
          have member := Session.mem_surfaceHandles_of_surface? held
          have indexed := consistent.owners_of_mem found member
          have reached (act : Surface → Step Surface Unit) :
              state.roster.onSurface handle act = _ := Roster.onSurface_of_found indexed found
          -- The policy acts through the session, which is the one that the index knows.
          cases posture : session.state with
          | suspended =>
              have asked : Consulted setup state key handle _ := .suspended found held posture
              simp only [heed, reached] at asked
              simp only [consultPolicy, found, held, posture]
              exact asked
          | running =>
              have asked : Consulted setup state key handle _ := .resumed found held posture
              simp only [heed, reached] at asked
              simp only [consultPolicy, found, held, posture]
              exact asked
          | starting | suspending | stopped =>
              have silent : consultPolicy setup key handle state = .quiet state () := by
                simp only [consultPolicy, found, held, posture]
              rw [silent]
              apply Consulted.silent
              intro other otherFound _
              rw [found] at otherFound
              rw [← Option.some.inj otherFound, posture]
              exact ⟨SessionState.noConfusion, SessionState.noConfusion⟩

end Consistent

end Coordinator

end AppLifecycle
