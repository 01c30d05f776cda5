import AppLifecycle.Proofs.Coordinator.Concern
import AppLifecycle.Proofs.Coordinator.Refusal

/-!
# Inputs that come too late

An input is stale if it names a session or a surface that does not exist, reports a session that
exists already, hands a surface to nobody or to the session that holds it, asks a session to go
where no edge leads, or asks for a drawing while the session does not run. All checks stand before
the first change, so a stale input leaves everything as it is and shows nothing
(`stale_input_silent`).
-/

namespace AppLifecycle

/-- The request that an input makes of a session, be it to stop. -/
def Input.request? : Input → Option (LifecycleOp × SessionHandle)
  | .command (.stopSession key) => some (.stop, key)
  | input => input.lifecycle?

namespace Coordinator

variable {π : Type} {setup : Setup π} {state : Coordinator π} {input : Input}
  {subject : Subject} {session : Session} {key : SessionHandle} {handle : SurfaceHandle}

/-- An input that comes too late, or asks for what cannot be or is so already. -/
inductive Stale (state : Coordinator π) : Input → Prop where
  /-- The session that is reported exists already. -/
  | enrolled {key : SessionHandle} {session : Session} {pid : UInt32} {reported : String}
      (found : state.roster.session? key = some session) :
      Stale state (.event (.sessionCreated key pid reported))
  /-- There is no such session, or nobody holds the surface. -/
  | unknown {input : Input} {subject : Subject} (about : input.subject? = some subject)
      (absent : subject.session? state.roster = none) : Stale state input
  /-- The session that is to take the surface in does not exist. -/
  | nobody {handle : SurfaceHandle} {target : SessionHandle}
      (absent : state.roster.session? target = none) :
      Stale state (.event (.surfaceReparented handle target))
  /-- The session that is to take the surface in holds it. -/
  | settled {handle : SurfaceHandle} {owner : Session}
      (owned : state.roster.ownerOf? handle = some owner) :
      Stale state (.event (.surfaceReparented handle owner.handle))
  /-- No edge of the transition graph leads on from the state of the session. -/
  | deadEnd {input : Input} {op : LifecycleOp} {key : SessionHandle} {session : Session}
      (asked : input.request? = some (op, key)) (found : state.roster.session? key = some session)
      (noEdge : op.target? session.state = none) : Stale state input
  /-- The session that holds the surface does not run. -/
  | idle {handle : SurfaceHandle} {owner : Session}
      (owned : state.roster.ownerOf? handle = some owner) (idle : owner.state ≠ .running) :
      Stale state (.command (.render handle))

/-! ## Who does not exist -/

theorem touch_of_unknown {α : Type} {act : Surface → Step Surface α}
    (absent : state.roster.owners.find? handle = none) :
    (state.withRoster (·.onSurface handle act)).answering () = .quiet state () := by
  rw [withRoster_eq, Roster.onSurface_of_absent absent]
  rfl

theorem onLiveSurface_of_unknown {act : Surface → Step Surface Bool}
    (absent : state.roster.owners.find? handle = none) :
    state.onLiveSurface handle act = .quiet state () := by
  unfold onLiveSurface
  split
  · exact touch_of_unknown absent
  · rfl

/-- An input about a session or a surface that does not exist comes to nothing. -/
theorem handleInput_of_unknown (setup : Setup π) (consistent : state.roster.Consistent)
    (about : input.subject? = some subject) (absent : subject.session? state.roster = none) :
    handleInput setup input state = .quiet state () := by
  have transitions (op : LifecycleOp) (key : SessionHandle)
      (unknown : state.roster.session? key = none) :
      (transition setup op key state).answering () = .quiet state () := by
    rw [transition_of_absent op unknown]
    rfl
  have unowned (handle : SurfaceHandle) (unknown : state.roster.ownerOf? handle = none) :
      state.roster.owners.find? handle = none := Subject.owners_of_unknown consistent unknown
  cases input with
  | shutdown => contradiction
  | event event =>
      cases event with
      | sessionCreated | surfaceCreated => contradiction
      | sessionRemoved key =>
          cases about
          exact removeSession_of_absent absent
      | sessionSuspended key =>
          cases about
          exact transitions .confirmSuspended key absent
      | surfaceRemoved handle =>
          cases about
          change removeSurface setup handle state = _
          rw [removeSurface, withRoster_eq, Roster.removeSurface_of_absent (unowned handle absent)]
          rfl
      | surfaceReparented handle target =>
          cases about
          have unknown : state.roster.ownerOf? handle = none := absent
          change (reparentSurface setup handle target state).answering () = _
          rw [reparentSurface, unknown]
          rfl
      | surfaceRenamed handle title =>
          cases about
          exact onLiveSurface_of_unknown (unowned handle absent)
      | frameReady handle =>
          cases about
          exact touch_of_unknown (unowned handle absent)
  | command command =>
      cases command with
      | markRunning key =>
          cases about
          exact transitions .markRunning key absent
      | suspendSession key =>
          cases about
          have unknown : state.roster.session? key = none := absent
          change (suspend setup key state).answering () = _
          rw [suspend, unknown]
          rfl
      | resumeSession key =>
          cases about
          exact transitions .resume key absent
      | stopSession key =>
          cases about
          exact transitions .stop key absent
      | focusSurface handle =>
          cases about
          have nowhere : state.liveSurface? handle = none := by
            rw [liveSurface?, consistent.surface?_eq_none_iff.2 (unowned handle absent)]
            rfl
          change (state.focus handle).answering () = _
          rw [focus, nowhere]
          rfl
      | render handle =>
          cases about
          have unknown : state.roster.ownerOf? handle = none := absent
          change (state.render handle).answering () = _
          rw [render, unknown]
          rfl
      | requestPresentation handle presentation =>
          cases about
          exact onLiveSurface_of_unknown (unowned handle absent)
      | startFrameDropper handle =>
          cases about
          exact onLiveSurface_of_unknown (unowned handle absent)
      | stopFrameDropper handle =>
          cases about
          exact onLiveSurface_of_unknown (unowned handle absent)

/-! ## Where nothing leads -/

theorem reparentSurface_of_nobody {target : SessionHandle}
    (absent : state.roster.session? target = none) :
    (reparentSurface setup handle target state).answering () = .quiet state () := by
  unfold reparentSurface
  split
  · rfl
  · split
    · rfl
    · rw [withRoster_eq, Roster.reparentSurface_of_unknown absent]
      rfl

theorem reparentSurface_of_settled (owned : state.roster.ownerOf? handle = some session) :
    (reparentSurface setup handle session.handle state).answering () = .quiet state () := by
  rw [reparentSurface, owned]
  simp only [if_true]
  rfl

/-- A session that cannot go where it is asked to stays where it is. -/
theorem handleInput_of_deadEnd (setup : Setup π) {op : LifecycleOp}
    (asked : input.request? = some (op, key)) (found : state.roster.session? key = some session)
    (noEdge : op.target? session.state = none) :
    handleInput setup input state = .quiet state () := by
  have stays : (transition setup op key state).answering () = .quiet state () := by
    rw [transition_of_no_edge found noEdge]
    rfl
  cases input with
  | shutdown => contradiction
  | event event =>
      cases event with
      | sessionSuspended =>
          cases asked
          exact stays
      | _ => contradiction
  | command command =>
      cases command with
      | markRunning | resumeSession | stopSession =>
          cases asked
          exact stays
      | suspendSession =>
          cases asked
          change (suspend setup key state).answering () = _
          rw [suspend, found]
          simp only
          split
          · rfl
          · exact stays
      | _ => contradiction

/-- Whenever in a run a stale input comes, all that the coordinator keeps stays as it is: sessions,
surfaces with their frames, registry, ids, focus, wake lock and what the policy remembers. Nothing
is told, the power backend is not called and the policy is not asked. -/
theorem stale_input_silent (setup : Setup π) (moments : List Moment) (surroundings : Surroundings)
    (input : Input) (stale : (after setup moments).Stale input) :
    handleInput (setup.amid surroundings) input (after setup moments) =
      .quiet (after setup moments) () := by
  have consistent : (after setup moments).roster.Consistent := after_consistent setup moments
  cases stale with
  | @enrolled key session pid reported found =>
      change Step.answering (withRoster _ _) () = _
      rw [withRoster_eq, Roster.addSession_of_found found]
      rfl
  | unknown about absent => exact handleInput_of_unknown _ consistent about absent
  | nobody absent => exact reparentSurface_of_nobody absent
  | settled owned => exact reparentSurface_of_settled owned
  | deadEnd asked found noEdge => exact handleInput_of_deadEnd _ asked found noEdge
  | @idle handle owner owned idle =>
      change ((after setup moments).render handle).answering () = _
      rw [render, owned]
      simp only [idle, if_false]
      rfl

/-- A window of a session that has not been activated is to be drawn. -/
theorem stale_render_silent :
    (after plainSetup oneWindow).Stale (.command (.render ⟨10⟩)) ∧
      handleInput plainSetup (.command (.render ⟨10⟩)) (after plainSetup oneWindow) =
        .quiet (after plainSetup oneWindow) () := by
  have owned : ∃ owner, (after plainSetup oneWindow).roster.ownerOf? ⟨10⟩ = some owner ∧
      owner.state ≠ .running := by
    refine ⟨((after plainSetup oneWindow).roster.ownerOf? ⟨10⟩).getD default, ?_, ?_⟩ <;> decide
  obtain ⟨owner, owned, idle⟩ := owned
  have stale : (after plainSetup oneWindow).Stale (.command (.render ⟨10⟩)) := .idle owned idle
  exact ⟨stale, stale_input_silent plainSetup oneWindow plainSetup.surroundings _ stale⟩

end Coordinator

end AppLifecycle
