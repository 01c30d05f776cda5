import AppLifecycle.Proofs.Coordinator.Concern
import AppLifecycle.Proofs.Coordinator.Focus
import AppLifecycle.Proofs.Coordinator.Mirrored
import AppLifecycle.Proofs.Coordinator.Throttling
import AppLifecycle.Proofs.Coordinator.Wakefulness
import AppLifecycle.Proofs.Coordinator.WindowIds

/-!
# What belongs to a session

To a session belong its surfaces, its hold on the wake lock, the ids that its surfaces go by and
what the policy remembers of them. Two states agree on a session if all of this is the same in
both (`Agree`). In the states that runs lead to nothing else is kept, the number of ids issued
apart: states that agree on every session are equal (`Coherent.eq_of_agree`).
-/

namespace AppLifecycle

/-- One of the policies that a configuration can ask for. -/
def SurfacePolicy.BuiltIn (policy : SurfacePolicy (KeySet SurfaceHandle)) : Prop :=
  policy = .keepCompositing ∨ policy = .throttleSuspended

theorem Setup.ofConfig_builtIn (config : LifecycleConfig) (processes : ProcessTable) :
    (Setup.ofConfig config processes).policy.BuiltIn := by
  unfold ofConfig
  simp only
  split
  · exact .inr rfl
  · exact .inl rfl

namespace Roster

variable {roster : Roster} {key other : SessionHandle} {session : Session} {handle : SurfaceHandle}

/-- A session holds the surface of a handle. -/
def Holds (roster : Roster) (key : SessionHandle) (handle : SurfaceHandle) : Prop :=
  ∃ session, roster.session? key = some session ∧ handle ∈ session.surfaceHandles

theorem holds_iff_of_found (found : roster.session? key = some session) :
    roster.Holds key handle ↔ handle ∈ session.surfaceHandles := by
  simp [Holds, found]

theorem holds_put :
    (roster.put key session).Holds key handle ↔ handle ∈ session.surfaceHandles :=
  holds_iff_of_found (session?_put.trans (if_pos rfl))

theorem holds_collect {gone : SurfaceHandle} :
    (roster.collect key session gone).Holds key handle ↔
      handle ∈ session.surfaceHandles ∧ handle ≠ gone :=
  (holds_iff_of_found (session?_collect.trans (if_pos rfl))).trans
    Session.mem_surfaceHandles_without

theorem not_holds_of_absent (absent : roster.session? key = none) : ¬ roster.Holds key handle := by
  simp [Holds, absent]

theorem holds_congr {later : Roster} (same : later.session? key = roster.session? key) :
    later.Holds key handle ↔ roster.Holds key handle := by
  rw [Holds, Holds, same]

theorem Consistent.holder_eq (consistent : roster.Consistent) (left : roster.Holds key handle)
    (right : roster.Holds other handle) : key = other := by
  obtain ⟨session, found, member⟩ := left
  obtain ⟨holder, foundHolder, memberHolder⟩ := right
  exact consistent.holder_unique found member foundHolder memberHolder

/-- What another session holds a session does not hold. -/
theorem Consistent.not_mem_of_elsewhere (consistent : roster.Consistent)
    (found : roster.session? key = some session) (different : other ≠ key)
    (elsewhere : roster.Holds other handle) : handle ∉ session.surfaceHandles :=
  fun member => different (consistent.holder_eq elsewhere ⟨session, found, member⟩)

end Roster

namespace Coordinator

variable {setup : Setup (KeySet SurfaceHandle)}
  {state first second third : Coordinator (KeySet SurfaceHandle)} {input : Input}
  {key : SessionHandle} {handle : SurfaceHandle}

/-! ## Agreeing on a session -/

/-- All that belongs to a session is the same in two states. -/
structure Agree (key : SessionHandle) (first second : Coordinator (KeySet SurfaceHandle)) :
    Prop where
  session : second.roster.session? key = first.roster.session? key
  awake : second.wakeLock.isHeldBy (.session key) = first.wakeLock.isHeldBy (.session key)
  named : ∀ handle, first.roster.Holds key handle →
    second.surfaceIds.bySurface.find? handle = first.surfaceIds.bySurface.find? handle
  remembered : ∀ handle, first.roster.Holds key handle →
    second.memory.contains handle = first.memory.contains handle

namespace Agree

theorem refl (key : SessionHandle) (state : Coordinator (KeySet SurfaceHandle)) :
    Agree key state state where
  session := rfl
  awake := rfl
  named _ _ := rfl
  remembered _ _ := rfl

theorem holds_iff (agree : Agree key first second) :
    second.roster.Holds key handle ↔ first.roster.Holds key handle :=
  Roster.holds_congr agree.session

theorem symm (agree : Agree key first second) : Agree key second first where
  session := agree.session.symm
  awake := agree.awake.symm
  named handle holds := (agree.named handle (agree.holds_iff.1 holds)).symm
  remembered handle holds := (agree.remembered handle (agree.holds_iff.1 holds)).symm

theorem trans (left : Agree key first second) (right : Agree key second third) :
    Agree key first third where
  session := right.session.trans left.session
  awake := right.awake.trans left.awake
  named handle holds :=
    (right.named handle (left.holds_iff.2 holds)).trans (left.named handle holds)
  remembered handle holds :=
    (right.remembered handle (left.holds_iff.2 holds)).trans (left.remembered handle holds)

end Agree

/-! ## States that keep nothing else -/

/-- Everything that a state keeps belongs to a session that exists. -/
structure Coherent (state : Coordinator (KeySet SurfaceHandle)) : Prop where
  consistent : state.roster.Consistent
  paired : state.surfaceIds.Paired
  leads : state.LeadsToCarrier
  focusKnown : state.FocusKnown
  settled : state.wakeLock.Settled
  holder : ∀ owner, state.wakeLock.isHeldBy owner = true →
    ∃ key session, owner = .session key ∧ state.roster.session? key = some session
  tidy : state.Tidy

/-- Only surfaces that somebody holds go by ids. -/
theorem Coherent.unnamed (coherent : state.Coherent)
    (absent : state.roster.surface? handle = none) :
    state.surfaceIds.bySurface.find? handle = none := by
  rw [coherent.paired.unnamed_iff]
  intro id led
  have carried := coherent.leads id handle led
  rw [Roster.carried?_eq_none_iff.2 absent] at carried
  contradiction

/-- A surface is held by some session, or by nobody. -/
theorem Coherent.held_or_absent (coherent : state.Coherent) (handle : SurfaceHandle) :
    (∃ key, state.roster.Holds key handle) ∨ state.roster.surface? handle = none := by
  cases found : state.roster.surface? handle with
  | none => exact .inr rfl
  | some surface =>
      obtain ⟨key, session, filed, held⟩ := coherent.consistent.surface?_eq_some_iff.1 found
      exact .inl ⟨key, session, filed, Session.mem_surfaceHandles_of_surface? held⟩

theorem Coherent.idle_client (coherent : state.Coherent) (number : Nat) :
    state.wakeLock.isHeldBy (.client number) = false := by
  apply Bool.eq_false_iff.2
  intro holds
  obtain ⟨key, session, same, _⟩ := coherent.holder _ holds
  contradiction

/-- States that agree on every session are equal, if as many ids have been issued. -/
theorem Coherent.eq_of_agree (left : first.Coherent) (right : second.Coherent)
    (stem : first.surfaceIds.stem = second.surfaceIds.stem)
    (issued : first.surfaceIds.issued = second.surfaceIds.issued)
    (agree : ∀ key, Agree key first second) : first = second := by
  have roster : first.roster = second.roster :=
    left.consistent.eq_of_session? right.consistent fun key => (agree key).session.symm
  have lock : first.wakeLock = second.wakeLock := by
    apply left.settled.eq_of_isHeldBy right.settled
    intro owner
    cases owner with
    | session key => exact (agree key).awake.symm
    | client number => rw [left.idle_client, right.idle_client]
  have ids : first.surfaceIds = second.surfaceIds := by
    apply left.paired.eq_of_bySurface right.paired stem issued
    intro handle
    rcases left.held_or_absent handle with ⟨key, holds⟩ | absent
    · exact ((agree key).named handle holds).symm
    · rw [left.unnamed absent, right.unnamed (roster ▸ absent)]
  have memory : first.memory = second.memory := by
    apply KeyMap.ext_contains
    intro handle
    rcases left.held_or_absent handle with ⟨key, holds⟩ | absent
    · exact ((agree key).remembered handle holds).symm
    · rw [left.tidy handle absent, right.tidy handle (roster ▸ absent)]
  have focused : first.focused = second.focused := by
    apply Option.ext
    intro handle
    rw [left.focusKnown handle, right.focusKnown handle, roster]
  cases first
  cases second
  simp only at roster lock ids memory focused
  rw [roster, lock, ids, memory, focused]

/-! ## Runs -/

/-- A policy that leaves all droppers alone remembers nothing. -/
theorem memory_of_keeping (keeping : setup.policy = .keepCompositing) (moments : List Moment) :
    (after setup moments).memory = ∅ := by
  have forgotten (handles : List SurfaceHandle) (memory : KeySet SurfaceHandle) :
      handles.foldl setup.policy.removed memory = memory := by
    rw [keeping]
    induction handles with
    | nil => rfl
    | cons handle rest ih => exact ih
  refine (invariant_of_moves setup (fun _ state => state.memory = ∅) ?_ ?_ ?_ moments).2
  · rw [start, keeping]
    rfl
  · intro past state surroundings input move _ blank moved
    cases moved with
    | finish | depart | shutdown => exact (forgotten _ _).trans blank
    | still | enroll | advance | arrive | refuse | handOver | focus | touch => exact blank
  · intro past state surroundings key handle step _ blank consulted
    have same : (setup.amid surroundings).policy = .keepCompositing := keeping
    cases consulted with
    | silent => exact blank
    | suspended found held posture | resumed found held posture =>
        rw [heed, same]
        exact blank

theorem tidy_of_builtIn (builtIn : setup.policy.BuiltIn) (moments : List Moment) :
    (after setup moments).Tidy := by
  rcases builtIn with keeping | throttling
  · intro handle _
    rw [memory_of_keeping keeping]
    rfl
  · exact after_tidy throttling moments

/-- After every run all that is kept belongs to a session that exists. -/
theorem after_coherent (builtIn : setup.policy.BuiltIn) (moments : List Moment) :
    (after setup moments).Coherent where
  consistent := after_consistent setup moments
  paired := after_paired setup moments
  leads := after_leadsToCarrier setup moments
  focusKnown := after_focusKnown setup moments
  settled := (mirrored_after setup moments).settled
  holder owner holds := by
    cases owner with
    | client number =>
        rw [client_idle setup moments number] at holds
        contradiction
    | session key =>
        obtain ⟨_, posture, known, _⟩ := (standing_sound setup moments key).holder holds
        obtain ⟨session, found, _⟩ := Option.map_eq_some_iff.1 known
        exact ⟨key, session, rfl, found⟩
  tidy := tidy_of_builtIn builtIn moments

/-- An input that reports no new surface issues no id. -/
theorem handleInput_issues_none {π : Type} {state : Coordinator π} (setup : Setup π)
    (consistent : state.roster.Consistent) (silent : input.arrival? = none) :
    (handleInput setup input state).state.surfaceIds.stem = state.surfaceIds.stem ∧
      (handleInput setup input state).state.surfaceIds.issued = state.surfaceIds.issued := by
  cases handleInput_naming setup consistent input with
  | arrive asked | refuse asked =>
      rw [silent] at asked
      contradiction
  | part handles silent ids carried =>
      rw [ids]
      exact ⟨SurfaceIds.stem_forgetEach handles, SurfaceIds.issued_forgetEach handles⟩

/-- Nor do several of them. -/
theorem follow_issues_none {π : Type} {state : Coordinator π} (setup : Setup π)
    (consistent : state.roster.Consistent) (moments : List Moment)
    (silent : ∀ moment ∈ moments, moment.input.arrival? = none) :
    (follow setup moments state).state.surfaceIds.stem = state.surfaceIds.stem ∧
      (follow setup moments state).state.surfaceIds.issued = state.surfaceIds.issued := by
  induction moments generalizing state with
  | nil => exact ⟨rfl, rfl⟩
  | cons moment rest ih =>
      have first := handleInput_issues_none (setup.amid moment.surroundings) consistent
        (silent moment (List.mem_cons_self ..))
      have later := ih (handleInput_consistent consistent (setup.amid moment.surroundings)
        moment.input) fun other member => silent other (List.mem_cons_of_mem _ member)
      exact ⟨later.1.trans first.1, later.2.trans first.2⟩

/-- Two ways to go on from a run that report no new surface lead to the same state if they leave
every session with the same. -/
theorem follow_eq_of_agree (builtIn : setup.policy.BuiltIn) (moments : List Moment)
    {left right : List Moment} (silentLeft : ∀ moment ∈ left, moment.input.arrival? = none)
    (silentRight : ∀ moment ∈ right, moment.input.arrival? = none)
    (agree : ∀ key, Agree key (follow setup left (after setup moments)).state
      (follow setup right (after setup moments)).state) :
    (follow setup left (after setup moments)).state =
      (follow setup right (after setup moments)).state := by
  have coherent (inputs : List Moment) :
      (follow setup inputs (after setup moments)).state.Coherent := by
    rw [← after_append]
    exact after_coherent builtIn (moments ++ inputs)
  have consistent : (after setup moments).roster.Consistent := after_consistent setup moments
  have issuedLeft := follow_issues_none setup consistent left silentLeft
  have issuedRight := follow_issues_none setup consistent right silentRight
  exact (coherent left).eq_of_agree (coherent right) (issuedLeft.1.trans issuedRight.1.symm)
    (issuedLeft.2.trans issuedRight.2.symm) agree

end Coordinator

end AppLifecycle
