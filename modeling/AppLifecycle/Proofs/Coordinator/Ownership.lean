import AppLifecycle.Proofs.Coordinator.Decompose

/-!
# Who holds what, throughout a run

Moves and consultations keep the roster consistent, and so does every run (`after_consistent`).
What moves and consultations keep of a state with a consistent roster is therefore kept by every
run; the further theory of runs rests on this principle (`invariant_of_moves`). What consistency
says of ownership is spelled out in `ownership_after`.
-/

namespace AppLifecycle.Coordinator

variable {π : Type} {setup : Setup π} {state : Coordinator π} {input : Input}
  {key : SessionHandle} {handle : SurfaceHandle}

/-! ## Consultations -/

theorem obeyDropper_cons (request : DropperRequest) (rest : List DropperRequest)
    (surface : Surface) :
    obeyDropper (request :: rest) surface =
      ((Touch.ofRequest request).act surface).andThen fun _ next => obeyDropper rest next := by
  cases request <;> rfl

theorem obeyDropper_gentle (requests : List DropperRequest) :
    Surface.Gentle (obeyDropper requests) := by
  intro surface
  induction requests generalizing surface with
  | nil => exact .refl surface
  | cons request rest ih =>
      rw [obeyDropper_cons]
      exact (Touch.act_gentle _ surface).trans (ih _)

/-- A consultation is silent, or a decision is heeded. -/
theorem Consulted.silent_or_heed {step : Step (Coordinator π) Unit}
    (consulted : Consulted setup state key handle step) :
    step = .quiet state () ∨ ∃ occasion decision, step = state.heed handle occasion decision := by
  cases consulted with
  | silent idle => exact .inl rfl
  | suspended found held posture => exact .inr ⟨_, _, rfl⟩
  | resumed found held posture => exact .inr ⟨_, _, rfl⟩

theorem Consulted.consistent {step : Step (Coordinator π) Unit}
    (consulted : Consulted setup state key handle step) (before : state.roster.Consistent) :
    step.state.roster.Consistent := by
  rcases consulted.silent_or_heed with rfl | ⟨occasion, decision, rfl⟩
  · exact before
  · exact before.onSurface (obeyDropper_gentle decision.2)

/-- A consultation leaves the index alone. -/
theorem Consulted.owners {step : Step (Coordinator π) Unit}
    (consulted : Consulted setup state key handle step) :
    step.state.roster.owners = state.roster.owners := by
  rcases consulted.silent_or_heed with rfl | ⟨occasion, decision, rfl⟩
  · rfl
  · exact Roster.owners_onSurface

/-- What each consultation keeps, all of them keep. -/
theorem consult_induction (Inv : List Effect → Coordinator π → Prop)
    (consulted : ∀ past state key handle step, state.roster.Consistent → Inv past state →
      Consulted setup state key handle step → Inv (past ++ step.effects) step.state)
    (pending : Consultations) (past : List Effect) (consistent : state.roster.Consistent)
    (before : Inv past state) :
    (consult setup pending state).state.roster.Consistent ∧
      Inv (past ++ (consult setup pending state).effects)
        (consult setup pending state).state := by
  refine Step.forEach_induction (fun past state => state.roster.Consistent ∧ Inv past state)
    ?_ ⟨consistent, before⟩
  rintro past state ⟨key, handle⟩ _ ⟨consistent, before⟩
  have asked := consultPolicy_consulted consistent setup key handle
  exact ⟨asked.consistent consistent, consulted past state key handle _ consistent before asked⟩

/-! ## Moves -/

theorem unfocus_consistent (before : state.roster.Consistent) (next : SurfaceHandle) :
    (state.unfocus next).state.Consistent := by
  unfold unfocus
  split
  · exact before.onSurface (Touch.act_gentle _)
  · exact before

/-- A move keeps the roster consistent. -/
theorem Move.consistent {move : Step (Coordinator π) Consultations}
    (moved : Move setup state input move) (before : state.roster.Consistent) :
    move.state.roster.Consistent := by
  cases moved with
  | still => exact before
  | enroll appId absent => exact before.enroll absent
  | advance asked found edge active willing => exact before.move found active
  | finish asked found => exact before.discard found
  | arrive absent found => exact before.deliver found absent rfl
  | refuse refused => exact before
  | depart found held =>
      exact before.collect found (Session.mem_surfaceHandles_of_surface? held)
  | handOver found held foundTarget different =>
      exact before.handOver found held foundTarget different
  | focus found => exact (unfocus_consistent before _).onSurface (Touch.act_gentle _)
  | touch asked => exact before.onSurface (Touch.act_gentle _)
  | shutdown => exact before.removeAll

/-! ## Runs -/

theorem handleInput_consistent (consistent : state.roster.Consistent) (setup : Setup π)
    (input : Input) :
    (handleInput setup input state).state.roster.Consistent := by
  rcases handleInput_follows consistent setup input with ⟨move, moved, equal⟩
  rw [equal]
  exact (consult_induction (fun _ _ => True) (fun _ _ _ _ _ _ _ _ => trivial) move.answer []
    (moved.consistent consistent) trivial).1

/-- What moves and consultations keep of states with a consistent roster, every run keeps. -/
theorem invariant_of_moves (setup : Setup π) (Inv : List Effect → Coordinator π → Prop)
    (base : Inv [] (start setup))
    (moved : ∀ past state surroundings input move, state.roster.Consistent → Inv past state →
      Move (setup.amid surroundings) state input move → Inv (past ++ move.effects) move.state)
    (consulted : ∀ past state surroundings key handle step, state.roster.Consistent →
      Inv past state → Consulted (setup.amid surroundings) state key handle step →
      Inv (past ++ step.effects) step.state)
    (moments : List Moment) :
    (after setup moments).roster.Consistent ∧
      Inv (effectsOf setup moments) (after setup moments) := by
  refine run_induction setup (fun past state => state.roster.Consistent ∧ Inv past state)
    ⟨Roster.empty_consistent, base⟩ ?_ moments
  rintro past state moment ⟨consistent, before⟩
  rcases handleInput_follows consistent (setup.amid moment.surroundings) moment.input with
    ⟨move, moveIs, equal⟩
  rw [equal]
  have kept := consult_induction Inv (fun past state => consulted past state moment.surroundings)
    move.answer _ (moveIs.consistent consistent)
    (moved past state moment.surroundings moment.input move consistent before moveIs)
  simpa only [Step.andThen, List.append_assoc] using kept

/-- After every run the roster is consistent. -/
theorem after_consistent (setup : Setup π) (moments : List Moment) :
    (after setup moments).roster.Consistent :=
  (invariant_of_moves setup (fun _ _ => True) trivial (fun _ _ _ _ _ _ _ _ => trivial)
    (fun _ _ _ _ _ _ _ _ _ => trivial) moments).1

/-- While the roster is consistent, no binding meets a released surface. -/
theorem bindTexture_ne_surfaceReleased (consistent : state.roster.Consistent)
    {buffer : BufferInfo} (released : SurfaceHandle) :
    state.bindTexture handle buffer ≠ .error (.surfaceReleased released) := by
  unfold bindTexture
  cases found : state.roster.surface? handle with
  | none => simp
  | some surface =>
      have live := consistent.live_of_surface? found
      simp only [Surface.bindTexture, live, if_true]
      split
      · split <;> simp
      · simp

/-- Ownership after any run, and thus after each input of a run: the index leads exactly to the
holder, no surface is held twice, held surfaces are live and know their session, so that no
binding meets a released one, and sessions are active, filed under their own handles and known
to the registry, which knows no others. -/
theorem ownership_after (setup : Setup π) (moments : List Moment) :
    let state := after setup moments
    (∀ handle key, state.roster.owners.find? handle = some key ↔
      ∃ session, state.roster.session? key = some session ∧ handle ∈ session.surfaceHandles) ∧
    (∀ key session, state.roster.session? key = some session → session.surfaceHandles.Nodup) ∧
    (∀ handle first left second right, state.roster.session? first = some left →
      state.roster.session? second = some right → handle ∈ left.surfaceHandles →
      handle ∈ right.surfaceHandles → first = second) ∧
    (∀ key session, state.roster.session? key = some session → ∀ surface ∈ session.surfaces,
      surface.live = true ∧ surface.owner = session.handle) ∧
    (∀ handle buffer released,
      state.bindTexture handle buffer ≠ .error (.surfaceReleased released)) ∧
    (∀ key session, state.roster.session? key = some session →
      session.handle = key ∧ session.state ≠ .stopped) ∧
    (∀ key, state.roster.findSession? key = state.roster.session? key) ∧
    state.roster.registry.size = state.roster.sessions.size := by
  intro state
  have consistent : state.roster.Consistent := after_consistent setup moments
  refine ⟨consistent.indexed, ?_, ?_, ?_, ?_, ?_, consistent.findSession?_eq,
    consistent.registry_size⟩
  · intro key session found
    exact (consistent.sound key session found).distinct
  · intro handle first left second right foundLeft foundRight memberLeft memberRight
    exact consistent.holder_unique foundLeft memberLeft foundRight memberRight
  · intro key session found surface member
    have sound := consistent.sound key session found
    exact ⟨sound.live surface member, (sound.owned surface member).trans sound.handle.symm⟩
  · intro handle buffer released
    exact bindTexture_ne_surfaceReleased consistent released
  · intro key session found
    have sound := consistent.sound key session found
    exact ⟨sound.handle, sound.active⟩

end AppLifecycle.Coordinator
