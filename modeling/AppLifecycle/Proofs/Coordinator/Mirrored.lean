import Mathlib.Data.List.Nodup
import Mathlib.Data.List.Perm.Basic
import AppLifecycle.Proofs.Coordinator.Ownership
import AppLifecycle.Proofs.Roster.Mirrored
import AppLifecycle.Proofs.WakeLock

/-!
# Notifications tell everything

Whatever an input does to sessions, surfaces and the wake lock is told: a mirror that reflects the
coordinator before a move or a consultation and reads what is told meanwhile reflects it
afterwards. A shell that follows the notifications from the start therefore sees what a snapshot
shows (`mirror_matches_snapshot`).
-/

namespace AppLifecycle

/-! ## The wake lock -/

namespace WakeLock.Announces

variable {lock : WakeLock} {step : Step WakeLock Unit} {mirror : Mirror} {roster : Roster}

/-- A mirror follows what the lock announces. -/
theorem reflects (announces : lock.Announces step)
    (before : mirror.Reflects roster lock.enabled) :
    (mirror.read step.effects).Reflects roster step.state.enabled := by
  rw [Mirror.read, announces.told]
  split
  · rename_i same
    rw [← same]
    exact before
  · exact { before with awake := rfl }

end WakeLock.Announces

namespace Setup

variable {π : Type} (setup : Setup π) {lock : WakeLock} (key : SessionHandle)

theorem wake_announces (settled : lock.Settled) : lock.Announces (setup.wake key lock) := by
  unfold wake
  split
  · exact WakeLock.acquire_announces settled
  · exact WakeLock.quiet_announces settled

theorem rest_announces (settled : lock.Settled) : lock.Announces (setup.rest key lock) :=
  WakeLock.release_announces settled

theorem lockAt_announces (settled : lock.Settled) (session : Session) (target : SessionState) :
    lock.Announces (setup.lockAt session key target lock) := by
  cases target with
  | running =>
      simp only [lockAt]
      split
      · exact WakeLock.quiet_announces settled
      · exact wake_announces setup key settled
  | suspended => exact rest_announces setup key settled
  | starting | suspending | stopped => exact WakeLock.quiet_announces settled

theorem lockJoined_announces (settled : lock.Settled) (session : Session) :
    lock.Announces (setup.lockJoined session key lock) := by
  unfold lockJoined
  split
  · exact wake_announces setup key settled
  · exact WakeLock.quiet_announces settled

end Setup

/-! ## Moves and consultations -/

namespace Coordinator

variable {π : Type} {setup : Setup π} {state : Coordinator π} {input : Input}
  {key : SessionHandle} {handle : SurfaceHandle} {mirror : Mirror}

/-- The lock is settled and the mirror reflects the sessions and the lock. -/
structure Mirrored (mirror : Mirror) (state : Coordinator π) : Prop where
  settled : state.wakeLock.Settled
  reflects : mirror.Reflects state.roster state.wakeLock.enabled

theorem obeyDropper_told (requests : List DropperRequest) :
    Surface.Told (obeyDropper requests) := by
  induction requests with
  | nil => exact fun _ mirror _ shown => ⟨shown, .refl mirror⟩
  | cons request rest ih =>
      rw [funext (obeyDropper_cons request rest)]
      exact .andThen (Touch.act_gentle _) (Touch.act_told _) ih

theorem read_obituaries (handles : List SurfaceHandle) (mirror : Mirror) :
    mirror.read (obituaries handles) = mirror := by
  induction handles with
  | nil => rfl
  | cons handle rest ih => exact ih

theorem Consulted.mirrored {step : Step (Coordinator π) Unit}
    (consulted : Consulted setup state key handle step) (consistent : state.roster.Consistent)
    (before : Mirrored mirror state) : Mirrored (mirror.read step.effects) step.state := by
  rcases consulted.silent_or_heed with rfl | ⟨occasion, decision, rfl⟩
  · exact before
  · exact ⟨before.settled, before.reflects.onSurface consistent (obeyDropper_gentle _)
      (obeyDropper_told _)⟩

theorem unfocus_reflects {awake : Bool} (consistent : state.roster.Consistent)
    (before : mirror.Reflects state.roster awake) (next : SurfaceHandle) :
    (mirror.read (state.unfocus next).effects).Reflects (state.unfocus next).state awake := by
  unfold unfocus
  split
  · exact before.onSurface consistent (Touch.act_gentle _) (Touch.act_told _)
  · exact before

/-- A move tells all that it changes. -/
theorem Move.mirrored {move : Step (Coordinator π) Consultations}
    (moved : Move setup state input move) (consistent : state.roster.Consistent)
    (before : Mirrored mirror state) : Mirrored (mirror.read move.effects) move.state := by
  have settled := before.settled
  have reflects := before.reflects
  cases moved with
  | still => exact before
  | enroll appId absent => exact ⟨settled, reflects.enroll consistent absent⟩
  | @advance input op key session target asked found edge active willing =>
      have announces := Setup.lockAt_announces setup key settled session target
      exact ⟨announces.settled, announces.reflects (reflects.advance consistent found active)⟩
  | @finish input key session asked found =>
      have announces := Setup.rest_announces setup key settled
      constructor
      · exact announces.settled
      · rw [Mirror.read_append, Mirror.read_append, read_obituaries]
        exact announces.reflects (reflects.finish consistent found)
  | @arrive handle key title chrome requested session absent found =>
      have announces := Setup.lockJoined_announces setup key settled session
      exact ⟨announces.settled, announces.reflects (reflects.arrive consistent found absent)⟩
  | refuse refused => exact ⟨settled, reflects⟩
  | depart found held =>
      constructor
      · exact settled
      · rw [Mirror.read_append, read_obituaries]
        exact reflects.depart consistent found held
  | @handOver handle key target session receiver surface found held foundTarget different =>
      have announces := Setup.lockJoined_announces setup target settled receiver
      exact ⟨announces.settled,
        announces.reflects (reflects.handOver consistent found held foundTarget different)⟩
  | focus found =>
      constructor
      · exact settled
      · rw [Mirror.read_append]
        exact (unfocus_reflects consistent reflects _).onSurface (unfocus_consistent consistent _)
          (Touch.act_gentle _) (Touch.act_told _)
  | touch asked =>
      exact ⟨settled, reflects.onSurface consistent (Touch.act_gentle _) (Touch.act_told _)⟩
  | shutdown =>
      have announces := WakeLock.releaseAll_announces settled setup.power
      constructor
      · exact announces.settled
      · rw [Mirror.read_append, Mirror.read_append, read_obituaries]
        exact announces.reflects (reflects.removeAll consistent)

/-! ## Runs -/

/-- What a shell knows that has followed the notifications of a run. -/
def mirrorOf (setup : Setup π) (moments : List Moment) : Mirror :=
  Mirror.blank.replay (Effect.notifications (effectsOf setup moments))

theorem mirrored_after (setup : Setup π) (moments : List Moment) :
    Mirrored (mirrorOf setup moments) (after setup moments) := by
  refine (invariant_of_moves setup (fun past state => Mirrored (Mirror.blank.read past) state)
    ⟨WakeLock.free_settled, Mirror.Reflects.blank_reflects⟩ ?_ ?_ moments).2
  · intro past state surroundings input move consistent before moved
    rw [Mirror.read_append]
    exact moved.mirrored consistent before
  · intro past state surroundings key handle step consistent before consulted
    rw [Mirror.read_append]
    exact consulted.mirrored consistent before

/-- A shell that has followed the notifications of a run knows what a snapshot shows at its end:
the sessions with their application ids and states, the surfaces with what is to be seen of them,
their titles as far as they have changed since, and whether the wake lock is held. -/
theorem mirror_matches_snapshot (setup : Setup π) (moments : List Moment) :
    let mirror := mirrorOf setup moments
    let picture := (after setup moments).snapshot
    let shown := picture.sessions.flatMap (·.surfaces)
    mirror.sessions.entries =
        picture.sessions.map (fun session => (session.session, ⟨session.appId, session.state⟩)) ∧
      mirror.surfaces.entries.Perm
        (shown.map fun surface =>
          (surface.surface, ⟨surface.firstFrameDrawn, surface.dropperRunning,
            surface.presentation, surface.focused⟩)) ∧
      (∀ handle title, mirror.titles.find? handle = some title →
        ∃ surface ∈ shown, surface.surface = handle ∧ surface.title = title) ∧
      mirror.awake = picture.wakeLockEnabled := by
  intro mirror picture shown
  have consistent : (after setup moments).roster.Consistent := after_consistent setup moments
  have reflects := (mirrored_after setup moments).reflects
  have pictured : shown.Perm
      ((after setup moments).roster.surfaces.map SurfaceSnapshot.ofSurface) :=
    Roster.surfaces_snapshot_perm
  refine ⟨reflects.entries_sessions consistent, ?_, fun handle title known => ?_, reflects.awake⟩
  · apply (reflects.entries_surfaces_perm consistent).trans
    have rows := pictured.map fun surface : SurfaceSnapshot =>
      (surface.surface, (⟨surface.firstFrameDrawn, surface.dropperRunning, surface.presentation,
        surface.focused⟩ : Pane))
    rw [List.map_map] at rows
    exact rows.symm
  · rcases reflects.titles handle title known with ⟨surface, found, rfl⟩
    have isHandle := consistent.handle_of_surface? found
    subst isHandle
    refine ⟨.ofSurface surface, pictured.mem_iff.2 ?_, rfl, rfl⟩
    exact List.mem_map_of_mem (consistent.mem_surfaces_iff.2 found)

end Coordinator

end AppLifecycle
