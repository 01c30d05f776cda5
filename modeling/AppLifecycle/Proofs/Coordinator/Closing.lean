import AppLifecycle.Proofs.Coordinator.Ending
import AppLifecycle.Proofs.Coordinator.Independence

/-!
# Everybody ends

Sessions may all be ended at once, or one after the other in any order. Each parts in the same
way, the wake lock is let go of once, if it was held at all, and nothing is left but the number of
ids issued (`shutdown_like_removals`).
-/

namespace AppLifecycle

/-! ## What is told of the wake lock -/

namespace Effect

/-- What is told of the wake lock among some effects. -/
def lockReports (effects : List Effect) : List Bool :=
  (notifications effects).filterMap fun
    | .wakeLockEnabledChanged enabled => some enabled
    | _ => none

@[simp]
theorem lockReports_append (first second : List Effect) :
    lockReports (first ++ second) = lockReports first ++ lockReports second := by
  rw [lockReports, notifications_append, List.filterMap_append]
  rfl

theorem lockReports_eq_nil {effects : List Effect}
    (others : ∀ enabled, .wakeLockEnabledChanged enabled ∉ notifications effects) :
    lockReports effects = [] := by
  apply List.filterMap_eq_nil_iff.2
  intro notification member
  cases notification with
  | wakeLockEnabledChanged enabled => exact absurd member (others enabled)
  | _ => rfl

end Effect

/-- A lock that comes to be held or free is told of as it is then. -/
theorem WakeLock.Announces.lockReports {lock : WakeLock} {step : Step WakeLock Unit}
    (announces : lock.Announces step) :
    Effect.lockReports step.effects =
      if lock.enabled = step.state.enabled then [] else [step.state.enabled] := by
  rw [Effect.lockReports, announces.told]
  split <;> rfl

theorem Session.wakeLock_not_mem_parting (session : Session) (enabled : Bool) :
    .wakeLockEnabledChanged enabled ∉ session.parting := by
  intro member
  simp only [parting, List.mem_cons, reduceCtorEq, List.mem_append, List.mem_flatMap,
    List.not_mem_nil, or_false, false_or] at member
  obtain ⟨surface, _, told⟩ := member
  unfold Surface.parting at told
  split at told <;> simp at told

namespace Roster

variable {roster : Roster} {key : SessionHandle} {session : Session}

/-- Without sessions there are no surfaces. -/
theorem Consistent.surface?_of_deserted (consistent : roster.Consistent)
    (deserted : ∀ key, roster.session? key = none) (handle : SurfaceHandle) :
    roster.surface? handle = none := by
  cases found : roster.surface? handle with
  | none => rfl
  | some surface =>
      obtain ⟨key, session, filed, _⟩ := consistent.surface?_eq_some_iff.1 found
      rw [deserted key] at filed
      contradiction

theorem lockReports_farewell (sound : session.Sound key) :
    Effect.lockReports (farewell key session) = [] := by
  apply Effect.lockReports_eq_nil
  intro enabled
  rw [notifications_farewell sound]
  exact session.wakeLock_not_mem_parting enabled

theorem lockReports_removeEach (consistent : roster.Consistent) (keys : List SessionHandle) :
    Effect.lockReports (roster.removeEach keys).effects = [] := by
  induction keys generalizing roster with
  | nil => rfl
  | cons key rest ih =>
      have first : Effect.lockReports (roster.removeSession key).effects = [] := by
        cases found : roster.session? key with
        | none =>
            rw [removeSession_of_absent found]
            rfl
        | some session =>
            rw [effects_removeSession found]
            exact lockReports_farewell (consistent.sound key session found)
      have later := ih (consistent.removeSession key)
      have both : Effect.lockReports ((roster.removeSession key).effects ++
          ((roster.removeSession key).state.removeEach rest).effects) = [] := by
        rw [Effect.lockReports_append, first, later, List.append_nil]
      exact both

end Roster

namespace Setup

variable {π : Type} {setup : Setup π} {key : SessionHandle} {lock : WakeLock}

/-- Who lets go of the lock does not make it held. -/
theorem enabled_of_rest (enabled : (setup.rest key lock).state.enabled = true) :
    lock.enabled = true := by
  obtain ⟨owner, holds⟩ := WakeLock.enabled_iff.1 enabled
  rw [isHeldBy_rest] at holds
  split at holds
  · contradiction
  · exact WakeLock.enabled_iff.2 ⟨owner, holds⟩

end Setup

theorem WakeLock.enabled_releaseAll {lock : WakeLock} {backend : PowerBackend} :
    (lock.releaseAll backend).state.enabled = false := by
  apply Bool.eq_false_iff.2
  intro enabled
  obtain ⟨owner, holds⟩ := WakeLock.enabled_iff.1 enabled
  rw [WakeLock.isHeldBy_releaseAll] at holds
  contradiction

namespace SurfaceIds

/-- The table in which nobody goes by an id any more. -/
def vacated (ids : SurfaceIds) : SurfaceIds where
  stem := ids.stem
  issued := ids.issued
  bySurface := ∅
  byId := ∅

theorem vacated_paired (ids : SurfaceIds) : ids.vacated.Paired := by
  intro surface id
  simp [vacated, surfaceFor?]

end SurfaceIds

namespace Coordinator

variable {π : Type} {setup : Setup π} {state : Coordinator π} {input : Input}
  {key : SessionHandle} {handle : SurfaceHandle}

@[simp]
theorem lockReports_obituaries (handles : List SurfaceHandle) :
    Effect.lockReports (obituaries handles) = [] := by
  apply Effect.lockReports_eq_nil
  intro enabled member
  simp [Effect.mem_notifications_iff, obituaries] at member

/-! ## Steps that end sessions -/

/-- A step in which sessions end and nothing else happens: each session and each surface stays as it
is or parts, and the lock is let go of at most. -/
structure Closes (state : Coordinator π) (step : Step (Coordinator π) Unit) : Prop where
  consistent : step.state.roster.Consistent
  settled : step.state.wakeLock.Settled
  sessions : ∀ key, Roster.Parts Roster.lastWords Session.parting (state.roster.session? key)
    (step.state.roster.session? key) (Effect.toldOfSession key step.effects) step.effects
  surfaces : ∀ handle, Roster.Parts Surface.parting Surface.parting (state.roster.surface? handle)
    (step.state.roster.surface? handle) (Effect.toldOfSurface handle step.effects) step.effects
  falls : step.state.wakeLock.enabled = true → state.wakeLock.enabled = true
  reports : Effect.lockReports step.effects =
    if state.wakeLock.enabled = step.state.wakeLock.enabled then []
    else [step.state.wakeLock.enabled]

theorem Closes.quiet (consistent : state.roster.Consistent) (settled : state.wakeLock.Settled) :
    Closes state (.quiet state ()) where
  consistent := consistent
  settled := settled
  sessions _ := .inl ⟨rfl, rfl⟩
  surfaces _ := .inl ⟨rfl, rfl⟩
  falls := id
  reports := (if_pos rfl).symm

/-- What falls in two steps is told of as if it had fallen in one. -/
private theorem falls_append {first second third : Bool} (falls : second = true → first = true)
    (fallsOn : third = true → second = true) :
    ((if first = second then [] else [second]) ++ if second = third then [] else [third]) =
      if first = third then [] else [third] := by
  revert first second third
  decide

theorem Closes.andThen {step : Step (Coordinator π) Unit}
    {next : Coordinator π → Step (Coordinator π) Unit} (closes : Closes state step)
    (goesOn : Closes step.state (next step.state)) :
    Closes state (step.andThen fun _ => next) where
  consistent := goesOn.consistent
  settled := goesOn.settled
  sessions key := by
    rw [Step.andThen, Effect.toldOfSession_append]
    exact (closes.sessions key).trans (goesOn.sessions key)
  surfaces handle := by
    rw [Step.andThen, Effect.toldOfSurface_append]
    exact (closes.surfaces handle).trans (goesOn.surfaces handle)
  falls enabled := closes.falls (goesOn.falls enabled)
  reports := by
    rw [Step.andThen, Effect.lockReports_append, closes.reports, goesOn.reports]
    exact falls_append closes.falls goesOn.falls

section Settled

variable (consistent : state.roster.Consistent) (settled : state.wakeLock.Settled)
include consistent settled

theorem removeSession_closes (setup : Setup π) (key : SessionHandle) :
    Closes state (removeSession setup key state) := by
  cases found : state.roster.session? key with
  | none =>
      rw [removeSession_of_absent found]
      exact .quiet consistent settled
  | some session =>
      have announces := Setup.rest_announces setup key settled
      rw [removeSession_eq found]
      constructor
      · exact consistent.discard found
      · exact announces.settled
      · intro other
        simp only [Effect.toldOfSession_append, toldOfSession_obituaries,
          Effect.toldOfSession_ofLock Setup.rest_ofLock, List.append_nil]
        exact ((Roster.session_parts_farewell consistent found).weaken _).weaken _
      · intro handle
        simp only [Effect.toldOfSurface_append, toldOfSurface_obituaries,
          Effect.toldOfSurface_ofLock Setup.rest_ofLock, List.append_nil]
        exact ((Roster.surface_parts_farewell consistent found).weaken _).weaken _
      · exact Setup.enabled_of_rest
      · simp only [Effect.lockReports_append, lockReports_obituaries, announces.lockReports,
          Roster.lockReports_farewell (consistent.sound key session found), List.nil_append]

theorem shutdown_closes (setup : Setup π) : Closes state (shutdown setup state) := by
  have announces := WakeLock.releaseAll_announces settled setup.power
  rw [shutdown_eq]
  constructor
  · exact consistent.removeAll
  · exact announces.settled
  · intro other
    simp only [Effect.toldOfSession_append, toldOfSession_obituaries,
      Effect.toldOfSession_ofLock WakeLock.releaseAll_ofLock, List.append_nil]
    exact ((Roster.session_parts_removeAll consistent).weaken _).weaken _
  · intro handle
    simp only [Effect.toldOfSurface_append, toldOfSurface_obituaries,
      Effect.toldOfSurface_ofLock WakeLock.releaseAll_ofLock, List.append_nil]
    exact ((Roster.surface_parts_removeAll consistent).weaken _).weaken _
  · intro enabled
    rw [WakeLock.enabled_releaseAll] at enabled
    contradiction
  · simp only [Effect.lockReports_append, lockReports_obituaries, announces.lockReports,
      Roster.effects_removeAll, Roster.lockReports_removeEach consistent, List.nil_append]

/-- Sessions are ended one after the other. -/
theorem follow_closes (setup : Setup π) (moments : List Moment)
    (ending : ∀ moment ∈ moments, ∃ key, moment.input.ending? = some key) :
    Closes state (follow setup moments state) := by
  induction moments generalizing state with
  | nil => exact .quiet consistent settled
  | cons moment rest ih =>
      obtain ⟨key, asked⟩ := ending moment (List.mem_cons_self ..)
      have first : Closes state
          (handleInput (setup.amid moment.surroundings) moment.input state) := by
        rw [handleInput_of_ending _ consistent asked]
        exact removeSession_closes consistent settled _ key
      have later := ih first.consistent first.settled
        fun other member => ending other (List.mem_cons_of_mem _ member)
      exact first.andThen later

/-- Whoever is ended among others is gone in the end. -/
theorem absent_of_ended (setup : Setup π) {moments : List Moment}
    (ending : ∀ moment ∈ moments, ∃ key, moment.input.ending? = some key)
    (ended : ∃ moment ∈ moments, moment.input.ending? = some key) :
    (follow setup moments state).state.roster.session? key = none := by
  obtain ⟨moment, member, asked⟩ := ended
  obtain ⟨before, rest, rfl⟩ := List.append_of_mem member
  have earlier := follow_closes consistent settled setup before fun other inside =>
    ending other (List.mem_append_left _ inside)
  have closes := removeSession_closes earlier.consistent earlier.settled
    (setup.amid moment.surroundings) key
  have later := follow_closes closes.consistent closes.settled setup rest fun other inside =>
    ending other (List.mem_append_right _ (List.mem_cons_of_mem _ inside))
  rw [← handleInput_of_ending _ earlier.consistent asked] at later
  rw [follow_append]
  apply (later.sessions key).gone
  rw [handleInput_of_ending _ earlier.consistent asked]
  exact Roster.state?_eq_none_iff.1 (state?_removeSession _ _ key)

end Settled

/-! ## What is left -/

/-- The state in which nobody exists and nothing is kept but the number of ids issued. -/
def vacated (state : Coordinator (KeySet SurfaceHandle)) : Coordinator (KeySet SurfaceHandle) where
  roster := .empty
  wakeLock := .free
  surfaceIds := state.surfaceIds.vacated
  memory := ∅
  focused := none

theorem vacated_congr {first second : Coordinator (KeySet SurfaceHandle)}
    (stem : first.surfaceIds.stem = second.surfaceIds.stem)
    (issued : first.surfaceIds.issued = second.surfaceIds.issued) :
    first.vacated = second.vacated := by
  simp only [vacated, SurfaceIds.vacated, stem, issued]

/-- Where everything belongs to sessions, nothing is left without them. -/
theorem Coherent.eq_vacated {state : Coordinator (KeySet SurfaceHandle)} (coherent : state.Coherent)
    (deserted : ∀ key, state.roster.session? key = none) : state = state.vacated := by
  have bare := coherent.consistent.surface?_of_deserted deserted
  have roster : state.roster = .empty :=
    coherent.consistent.eq_of_session? Roster.empty_consistent deserted
  have lock : state.wakeLock = .free := by
    apply coherent.settled.eq_of_isHeldBy WakeLock.free_settled
    intro owner
    rw [WakeLock.isHeldBy_free]
    apply Bool.eq_false_iff.2
    intro holds
    obtain ⟨key, session, _, found⟩ := coherent.holder owner holds
    rw [deserted key] at found
    contradiction
  have ids : state.surfaceIds = state.surfaceIds.vacated := by
    apply coherent.paired.eq_of_bySurface (SurfaceIds.vacated_paired _) rfl rfl
    intro handle
    exact coherent.unnamed (bare handle)
  have memory : state.memory = ∅ := by
    apply KeyMap.ext_contains
    intro handle
    exact coherent.tidy handle (bare handle)
  have focused : state.focused = none := by
    apply Option.eq_none_iff_forall_ne_some.2
    intro handle has
    obtain ⟨surface, found, _⟩ := (coherent.focusKnown handle).1 has
    rw [bare handle] at found
    contradiction
  rw [vacated, ← roster, ← lock, ← ids, ← memory, ← focused]

/-- A run that goes on without new surfaces until nobody is left. -/
theorem follow_eq_vacated {setup : Setup (KeySet SurfaceHandle)} (builtIn : setup.policy.BuiltIn)
    (moments : List Moment) {rest : List Moment}
    (silent : ∀ moment ∈ rest, moment.input.arrival? = none)
    (deserted : ∀ key, (follow setup rest (after setup moments)).state.roster.session? key = none) :
    (follow setup rest (after setup moments)).state = (after setup moments).vacated := by
  have consistent : (after setup moments).roster.Consistent := after_consistent setup moments
  have issued := follow_issues_none setup consistent rest silent
  have coherent : (follow setup rest (after setup moments)).state.Coherent := by
    rw [← after_append]
    exact after_coherent builtIn (moments ++ rest)
  rw [← vacated_congr issued.1 issued.2]
  exact coherent.eq_vacated deserted

theorem shutdown_vacated (setup : Setup (KeySet SurfaceHandle))
    (state : Coordinator (KeySet SurfaceHandle)) :
    shutdown setup state.vacated = .quiet state.vacated () :=
  rfl

/-! ## Everybody ends -/

/-- However everybody is ended, each session and each surface is told the same. -/
theorem Closes.sameOutcome {first second : Step (Coordinator π) Unit} (left : Closes state first)
    (right : Closes state second) (deserted : ∀ key, first.state.roster.session? key = none)
    (same : first.state = second.state) : SameOutcome first second where
  state := same
  sessions key := by
    rw [(left.sessions key).told_of_gone (deserted key),
      (right.sessions key).told_of_gone (same ▸ deserted key)]
  surfaces handle := by
    have bare := left.consistent.surface?_of_deserted deserted handle
    rw [(left.surfaces handle).told_of_gone bare,
      (right.surfaces handle).told_of_gone (same ▸ bare)]

/-- A lock that is free in the end is told to be free once, if it was held. -/
theorem Closes.lockReports_of_free {step : Step (Coordinator π) Unit} (closes : Closes state step)
    (free : step.state.wakeLock.enabled = false) :
    Effect.lockReports step.effects = if state.wakeLock.enabled then [false] else [] := by
  rw [closes.reports, free]
  cases state.wakeLock.enabled <;> rfl

/-- Where the end of every session is reported, nothing else is. -/
theorem removal_of_everyone {removals : List Moment} {keys : List SessionHandle}
    (everyone : (removals.map (·.input)).Perm
      (keys.map fun key => .event (.sessionRemoved key)))
    {moment : Moment} (member : moment ∈ removals) :
    ∃ key, moment.input = .event (.sessionRemoved key) := by
  obtain ⟨key, _, same⟩ := List.mem_map.1 (everyone.mem_iff.1 (List.mem_map_of_mem member))
  exact ⟨key, same.symm⟩

theorem ended_of_everyone {removals : List Moment} {keys : List SessionHandle}
    (everyone : (removals.map (·.input)).Perm
      (keys.map fun key => .event (.sessionRemoved key)))
    {key : SessionHandle} (member : key ∈ keys) :
    ∃ moment ∈ removals, moment.input.ending? = some key := by
  obtain ⟨moment, found, same⟩ := List.mem_map.1 (everyone.mem_iff.2 (List.mem_map_of_mem member))
  exact ⟨moment, found, by rw [same]; rfl⟩

/-- After any run, ending everybody at once does what removing every session does, one after the
other in any order: the same state follows, in which nothing is kept but the number of ids issued,
and each session and each surface is told the same. The wake lock is told to be free once if it
was held, and is not told of otherwise. Ending everybody once more changes nothing and shows
nothing. -/
theorem shutdown_like_removals {setup : Setup (KeySet SurfaceHandle)}
    (builtIn : setup.policy.BuiltIn) (moments : List Moment) (surroundings : Surroundings)
    {removals : List Moment}
    (everyone : (removals.map (·.input)).Perm
      ((after setup moments).roster.sessions.keys.map fun key => .event (.sessionRemoved key))) :
    let before := after setup moments
    let ended := handleInput (setup.amid surroundings) .shutdown before
    let emptied := follow setup removals before
    SameOutcome ended emptied ∧ ended.state = before.vacated ∧
      Effect.lockReports ended.effects = (if before.wakeLock.enabled then [false] else []) ∧
      Effect.lockReports emptied.effects = (if before.wakeLock.enabled then [false] else []) ∧
      ∀ later, handleInput (setup.amid later) .shutdown ended.state = .quiet ended.state () := by
  intro before ended emptied
  have consistent : before.roster.Consistent := after_consistent setup moments
  have settled : before.wakeLock.Settled := (mirrored_after setup moments).settled
  have ending (moment : Moment) (member : moment ∈ removals) :
      ∃ key, moment.input.ending? = some key := by
    obtain ⟨key, removed⟩ := removal_of_everyone everyone member
    exact ⟨key, by rw [removed]; rfl⟩
  have closesAtOnce : Closes before ended := shutdown_closes consistent settled _
  have closesInTurn : Closes before emptied :=
    follow_closes consistent settled setup removals ending
  have goneAtOnce (key : SessionHandle) : ended.state.roster.session? key = none := by
    have same : ended = _ := shutdown_eq
    rw [same]
    exact Roster.session?_removeAll
  have goneInTurn (key : SessionHandle) : emptied.state.roster.session? key = none := by
    cases found : before.roster.session? key with
    | none => exact (closesInTurn.sessions key).gone found
    | some session =>
        apply absent_of_ended consistent settled setup ending
        exact ended_of_everyone everyone (KeyMap.mem_keys_iff.2 ⟨session, found⟩)
  have leftAtOnce : ended.state = before.vacated := by
    have silent : ∀ moment ∈ [Moment.mk .shutdown surroundings], moment.input.arrival? = none := by
      simp [Input.arrival?]
    exact follow_eq_vacated builtIn moments silent goneAtOnce
  have leftInTurn : emptied.state = before.vacated := by
    apply follow_eq_vacated builtIn moments _ goneInTurn
    intro moment member
    obtain ⟨key, removed⟩ := removal_of_everyone everyone member
    rw [removed]
    rfl
  have free : before.vacated.wakeLock.enabled = false := rfl
  refine ⟨?_, leftAtOnce, ?_, ?_, ?_⟩
  · exact closesAtOnce.sameOutcome closesInTurn goneAtOnce (leftAtOnce.trans leftInTurn.symm)
  · exact closesAtOnce.lockReports_of_free (leftAtOnce ▸ free)
  · exact closesInTurn.lockReports_of_free (leftInTurn ▸ free)
  · intro later
    rw [leftAtOnce]
    exact shutdown_vacated (setup.amid later) before

/-- The end of the second of two sessions is reported, and then that of the first. -/
def twoRemovals : List Moment :=
  [⟨.event (.sessionRemoved ⟨2⟩), plainSetup.surroundings⟩,
    ⟨.event (.sessionRemoved ⟨1⟩), plainSetup.surroundings⟩]

/-- The lock is held before, and let go of once either way. -/
theorem shutdown_of_two :
    let before := after plainSetup twoSessions
    let ended := handleInput plainSetup .shutdown before
    let emptied := follow plainSetup twoRemovals before
    before.wakeLock.enabled = true ∧ SameOutcome ended emptied ∧
      Effect.lockReports ended.effects = [false] ∧
      Effect.lockReports emptied.effects = [false] := by
  intro before ended emptied
  have builtIn : plainSetup.policy.BuiltIn := Setup.ofConfig_builtIn {} .empty
  have awake : before.wakeLock.enabled = true := by decide
  have keys : before.roster.sessions.keys = [⟨1⟩, ⟨2⟩] := by decide
  have everyone : (twoRemovals.map (·.input)).Perm
      (before.roster.sessions.keys.map fun key => .event (.sessionRemoved key)) := by
    rw [keys]
    exact .swap _ _ _
  obtain ⟨same, _, atOnce, inTurn, _⟩ :=
    shutdown_like_removals builtIn twoSessions plainSetup.surroundings everyone
  refine ⟨awake, same, ?_, ?_⟩
  · exact atOnce.trans (if_pos awake)
  · exact inTurn.trans (if_pos awake)

end Coordinator

end AppLifecycle
