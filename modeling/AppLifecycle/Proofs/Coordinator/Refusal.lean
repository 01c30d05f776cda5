import AppLifecycle.Proofs.Coordinator.Ownership

/-!
# Surfaces that are refused

A surface is named before the roster decides about it, and forgotten again if it is refused. The
rest of the state and the world outside see nothing of it, but the table of ids does: whoever
held the handle or the id loses it. `refused_creation` says exactly which ids lead elsewhere
afterwards, and when none does.
-/

namespace AppLifecycle.Coordinator

variable {π : Type} {setup : Setup π} {state : Coordinator π} {input : Input}
  {key : SessionHandle} {handle : SurfaceHandle}

/-! ## The table of ids throughout a run -/

theorem Move.paired {move : Step (Coordinator π) Consultations}
    (moved : Move setup state input move) (before : state.surfaceIds.Paired) :
    move.state.surfaceIds.Paired := by
  cases moved with
  | still | enroll | advance | handOver | focus | touch => exact before
  | arrive absent found => exact SurfaceIds.name_paired before _
  | refuse refused => exact SurfaceIds.forget_paired (SurfaceIds.name_paired before _)
  | finish | depart | shutdown => exact SurfaceIds.forgetEach_paired before _

/-- After every run the two sides of the table of ids are inverse to each other. -/
theorem after_paired (setup : Setup π) (moments : List Moment) :
    (after setup moments).surfaceIds.Paired := by
  refine (invariant_of_moves setup (fun _ state => state.surfaceIds.Paired)
    (SurfaceIds.withStem_paired setup.idStem) ?_ ?_ moments).2
  · intro past state surroundings input move _ paired moved
    exact moved.paired paired
  · intro past state surroundings key handle step _ paired consulted
    rcases consulted.silent_or_heed with rfl | ⟨occasion, decision, rfl⟩
    · exact paired
    · exact paired

/-! ## What a refusal does -/

/-- A creation is refused if the handle is held or the session does not exist. -/
theorem refuses_iff (consistent : state.roster.Consistent) :
    state.roster.Refuses handle key ↔
      (∃ surface, state.roster.surface? handle = some surface) ∨
        state.roster.session? key = none := by
  have held : state.roster.owners.contains handle = true ↔
      ∃ surface, state.roster.surface? handle = some surface := by
    rw [← Bool.not_eq_false, KeyMap.contains_eq_false_iff, ← consistent.surface?_eq_none_iff,
      ← Option.isSome_iff_exists, Option.isSome_iff_ne_none]
  have unknown : (∀ session, state.roster.session? key = some session →
      session.state = .stopped) ↔ state.roster.session? key = none := by
    constructor
    · intro stopped
      cases found : state.roster.session? key with
      | none => rfl
      | some session =>
          exact absurd (stopped session found) (consistent.sound key session found).active
    · intro absent session found
      rw [absent] at found
      contradiction
  rw [Roster.Refuses, held, unknown]

/-- After a refusal in any run nothing has been told, and nothing has changed but the table of
ids. There the id that was asked for and the one of the held surface lead nowhere. So all ids lead
where they did exactly if no id led to the handle and the id that was asked for led nowhere. -/
theorem refused_creation (setup : Setup π) (moments : List Moment) (surroundings : Surroundings)
    (handle : SurfaceHandle) (key : SessionHandle) (title : String) (chrome : ChromeLevel)
    (requested : Option SurfaceId)
    (refused : (∃ surface, (after setup moments).roster.surface? handle = some surface) ∨
      (after setup moments).roster.session? key = none) :
    let before := after setup moments
    let step := handleInput (setup.amid surroundings)
      (.event (.surfaceCreated handle key title chrome requested)) before
    step.effects = [] ∧
      step.state = { before with surfaceIds := step.state.surfaceIds } ∧
      (∀ id, step.state.surfaceIds.surfaceFor? id =
        if requested = some id ∨ before.surfaceIds.surfaceFor? id = some handle then none
        else before.surfaceIds.surfaceFor? id) ∧
      ((∀ id, step.state.surfaceIds.surfaceFor? id = before.surfaceIds.surfaceFor? id) ↔
        (∀ id, before.surfaceIds.surfaceFor? id ≠ some handle) ∧
          ∀ id, requested = some id → before.surfaceIds.surfaceFor? id = none) := by
  intro before step
  have paired : before.surfaceIds.Paired := after_paired setup moments
  have refuses : before.roster.Refuses handle key :=
    (refuses_iff (after_consistent setup moments)).2 refused
  have stepIs : step = .quiet
      { before with surfaceIds := (before.surfaceIds.name requested handle).1.forget handle } () :=
    addSurface_of_refused refuses
  have leads (id : SurfaceId) : step.state.surfaceIds.surfaceFor? id =
      if requested = some id ∨ before.surfaceIds.surfaceFor? id = some handle then none
      else before.surfaceIds.surfaceFor? id := by
    rw [stepIs]
    exact SurfaceIds.surfaceFor?_forget_name paired requested
  refine ⟨by rw [stepIs]; rfl, by rw [stepIs]; rfl, leads, ?_⟩
  constructor
  · intro same
    constructor
    · intro id held
      have lost := leads id
      rw [same, if_pos (.inr held), held] at lost
      contradiction
    · intro id asked
      have lost := leads id
      rwa [same, if_pos (.inl asked)] at lost
  · rintro ⟨unheld, unused⟩ id
    rw [leads]
    split
    · rename_i either
      rcases either with asked | held
      · exact (unused id asked).symm
      · exact absurd held (unheld id)
    · rfl

/-! ## A window that is reported twice -/

/-- The usual setup on a host that tells of no process. -/
def plainSetup : Setup (KeySet SurfaceHandle) :=
  .ofConfig {} .empty

/-- A session comes up with a window that asks for an id. -/
def oneWindow : List Moment :=
  [⟨.event (.sessionCreated ⟨1⟩ 7 "app"), plainSetup.surroundings⟩,
    ⟨.event (.surfaceCreated ⟨10⟩ ⟨1⟩ "" .normal (some ⟨"main"⟩)), plainSetup.surroundings⟩]

/-- The same window is reported once more, without an id. -/
theorem refused_creation_of_held :
    (∃ surface, (after plainSetup oneWindow).roster.surface? ⟨10⟩ = some surface) ∧
      (handleInput plainSetup (.event (.surfaceCreated ⟨10⟩ ⟨1⟩ "" .normal none))
        (after plainSetup oneWindow)).effects = [] := by
  have held : ∃ surface, (after plainSetup oneWindow).roster.surface? ⟨10⟩ = some surface :=
    Option.isSome_iff_exists.1 (by decide)
  have step := refused_creation plainSetup oneWindow plainSetup.surroundings ⟨10⟩ ⟨1⟩ "" .normal
    none (.inl held)
  exact ⟨held, step.1⟩

/-- The window is live before and after, but the id that led to it leads nowhere any more. -/
theorem refusal_forgets_live_window :
    let before := after plainSetup oneWindow
    let step := handleInput plainSetup (.event (.surfaceCreated ⟨10⟩ ⟨1⟩ "" .normal none)) before
    before.surfaceIds.surfaceFor? ⟨"main"⟩ = some ⟨10⟩ ∧
      (before.liveSurface? ⟨10⟩).map (·.persistentId) = some ⟨"main"⟩ ∧
      (step.state.liveSurface? ⟨10⟩).map (·.persistentId) = some ⟨"main"⟩ ∧
      step.state.surfaceIds.surfaceFor? ⟨"main"⟩ = none := by
  decide

end AppLifecycle.Coordinator
