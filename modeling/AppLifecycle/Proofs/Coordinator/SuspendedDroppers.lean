import AppLifecycle.Proofs.Chronicle
import AppLifecycle.Proofs.Coordinator.Throttling

/-!
# Droppers that the shell leaves alone

As long as the shell commands no frame dropper, the dropper of a surface tells how the sessions
that held it have fared: it stands still from the time such a session is suspended until one is
running. What the policy remembers comes to the same (`droppers_after`).
-/

namespace AppLifecycle

namespace Condition

/-- The dropper stands still exactly if the policy remembers that it stopped it, and so it is in a
suspended session and not so in a running one. -/
structure Orderly (condition : Condition) : Prop where
  stopped : condition.running = !condition.throttled
  suspended : condition.owner = .suspended → condition.throttled = true
  running : condition.owner = .running → condition.throttled = false

theorem orderly_fresh (owner : SessionState) : (fresh owner).settled.Orderly := by
  cases owner <;> constructor <;> decide

theorem throttled_fresh (owner : SessionState) :
    (fresh owner).settled.throttled = true ↔ owner = .suspended := by
  cases owner <;> decide

variable {condition : Condition}

theorem Orderly.join (orderly : condition.Orderly) (owner : SessionState) :
    { condition with owner := owner }.settled.Orderly := by
  have stopped := orderly.stopped
  rcases condition with ⟨former, running, throttled⟩
  obtain rfl : running = !throttled := stopped
  cases owner <;> cases throttled <;> constructor <;> simp [settled]

/-- Once settled, the policy remembers the dropper of a suspended session, and of any other but a
running one what it remembered. -/
theorem Orderly.throttled_join (orderly : condition.Orderly) (owner : SessionState) :
    { condition with owner := owner }.settled.throttled = true ↔
      owner = .suspended ∨ condition.throttled = true ∧ owner ≠ .running := by
  have stopped := orderly.stopped
  rcases condition with ⟨former, running, throttled⟩
  obtain rfl : running = !throttled := stopped
  cases owner <;> cases throttled <;> simp [settled]

end Condition

section Turn

variable {input : Input} {handle : SurfaceHandle} {before after : Option Condition}
  {events : List DropperEvent}
  (turn : DropperTurn input handle before after events) (unattended : input.dropperCommand? = none)
  (sound : ∀ condition, before = some condition → condition.Orderly)
include turn unattended sound

theorem DropperTurn.orderly (condition : Condition) (found : after = some condition) :
    condition.Orderly := by
  cases turn with
  | same => exact sound condition found
  | command former asked => rw [unattended] at asked; contradiction
  | join former owner =>
      cases found
      exact (sound former rfl).join owner
  | appear owner =>
      cases found
      exact Condition.orderly_fresh owner
  | vanish => contradiction

theorem DropperTurn.throttled :
    (after.map (·.throttled)).getD false = true ↔
      after.map (·.owner) = some .suspended ∨
        ((before.map (·.throttled)).getD false = true ∧
          ∃ owner, after.map (·.owner) = some owner ∧ owner ≠ .running) := by
  cases turn with
  | same =>
      cases before with
      | none => simp
      | some condition =>
          have suspended := (sound condition rfl).suspended
          have running := (sound condition rfl).running
          simp only [Option.map_some, Option.getD_some, Option.some.injEq, exists_eq_left']
          constructor
          · intro throttled
            refine .inr ⟨throttled, fun runs => ?_⟩
            rw [running runs] at throttled
            contradiction
          · rintro (posture | ⟨throttled, _⟩)
            · exact suspended posture
            · exact throttled
  | command former asked => rw [unattended] at asked; contradiction
  | join former owner =>
      have throttled := (sound former rfl).throttled_join owner
      simpa only [Option.map_some, Option.getD_some, Condition.owner_settled, Option.some.injEq,
        exists_eq_left'] using throttled
  | appear owner =>
      have throttled := Condition.throttled_fresh owner
      simpa [Condition.owner_settled, Condition.fresh] using throttled
  | vanish => simp

end Turn

namespace Coordinator

variable {π : Type}

/-- The state of the session that holds a surface, if one does. -/
def ownerState? (state : Coordinator π) (handle : SurfaceHandle) : Option SessionState :=
  (state.roster.ownerOf? handle).map (·.state)

section Owner

variable {state : Coordinator (KeySet SurfaceHandle)} {handle : SurfaceHandle}
  (consistent : state.roster.Consistent)
include consistent

theorem condition?_of_surface? {surface : Surface}
    (found : state.roster.surface? handle = some surface) :
    ∃ owner, state.ownerState? handle = some owner ∧
      state.condition? handle =
        some ⟨owner, surface.dropperRunning, state.memory.contains handle⟩ := by
  obtain ⟨session, owned, held⟩ := consistent.exists_owner found
  have indexed := consistent.owners_of_mem owned (Session.mem_surfaceHandles_of_surface? held)
  refine ⟨session.state, ?_, condition?_of_held consistent owned held⟩
  rw [ownerState?, Roster.ownerOf?, indexed, Option.bind_some, owned, Option.map_some]

theorem owner_condition? :
    (state.condition? handle).map (·.owner) = state.ownerState? handle := by
  cases found : state.roster.surface? handle with
  | none =>
      rw [(condition?_eq_none_iff consistent).2 found, ownerState?, Roster.ownerOf?,
        consistent.surface?_eq_none_iff.1 found]
      rfl
  | some surface =>
      obtain ⟨owner, owned, current⟩ := condition?_of_surface? consistent found
      rw [current, owned, Option.map_some]

end Owner

/-- A surface has been held by a suspended session, and since then always by a session that was
not running. -/
def SuspendedSince (setup : Setup π) (handle : SurfaceHandle) : List Moment → Prop :=
  Lasts setup (fun state => state.ownerState? handle = some .suspended)
    fun _ later => ∃ owner, later.ownerState? handle = some owner ∧ owner ≠ .running

variable {setup : Setup (KeySet SurfaceHandle)}

theorem after_orderly (throttling : setup.policy = .throttleSuspended) (moments : List Moment)
    (unattended : ∀ moment ∈ moments, moment.input.dropperCommand? = none)
    (handle : SurfaceHandle) (condition : Condition)
    (found : (after setup moments).condition? handle = some condition) : condition.Orderly := by
  induction moments using List.reverseRecOn generalizing condition with
  | nil => contradiction
  | append_singleton moments last ih =>
      have turn := after_turns throttling moments last handle
      have quiet : last.input.dropperCommand? = none := unattended last (by simp)
      exact turn.orderly quiet (ih fun moment member => unattended moment (by simp [member]))
        condition found

/-- While the shell commands no dropper, the policy remembers the surfaces whose sessions have
been suspended and have not been running since. -/
theorem contains_memory_iff (throttling : setup.policy = .throttleSuspended)
    (moments : List Moment)
    (unattended : ∀ moment ∈ moments, moment.input.dropperCommand? = none)
    (handle : SurfaceHandle) :
    (after setup moments).memory.contains handle = true ↔
      SuspendedSince setup handle moments := by
  induction moments using List.reverseRecOn with
  | nil =>
      rw [contains_memory throttling, SuspendedSince, lasts_nil]
      constructor <;> intro impossible <;> contradiction
  | append_singleton moments last ih =>
      have turn := after_turns throttling moments last handle
      have quiet : last.input.dropperCommand? = none := unattended last (by simp)
      have before : ∀ moment ∈ moments, moment.input.dropperCommand? = none :=
        fun moment member => unattended moment (by simp [member])
      -- One turn keeps up the past that `SuspendedSince` speaks of, input by input.
      have law := turn.throttled quiet (after_orderly throttling moments before handle)
      rw [← contains_memory throttling, ← contains_memory throttling,
        owner_condition? (after_consistent ..), ih before] at law
      rw [SuspendedSince, lasts_concat]
      exact law

/-- Frame droppers where suspended sessions are throttled and the shell commands no dropper, after
any run and thus after each input of one. The dropper of a surface stands still exactly if the
policy remembers the surface, and that is so exactly if, since the surface came up, a session that
held it has been suspended and none has been running since. So all droppers stand still in a
suspended session, and all run in a running one; and the policy remembers only surfaces that
somebody holds. -/
theorem droppers_after (setup : Setup (KeySet SurfaceHandle))
    (throttling : setup.policy = .throttleSuspended) (moments : List Moment)
    (unattended : ∀ moment ∈ moments, moment.input.dropperCommand? = none) :
    let state := after setup moments
    (∀ handle surface, state.roster.surface? handle = some surface →
      (surface.dropperRunning = false ↔ state.memory.contains handle = true) ∧
      (state.memory.contains handle = true ↔ SuspendedSince setup handle moments)) ∧
    (∀ key session, state.roster.session? key = some session → ∀ surface ∈ session.surfaces,
      (session.state = .suspended → surface.dropperRunning = false) ∧
      (session.state = .running → surface.dropperRunning = true)) ∧
    ∀ handle, state.memory.contains handle = true →
      ∃ surface, state.roster.surface? handle = some surface := by
  intro state
  have consistent : state.roster.Consistent := after_consistent setup moments
  have orderly := after_orderly throttling moments unattended
  refine ⟨fun handle surface found => ⟨?_, ?_⟩, fun key session found surface member => ?_,
    fun handle remembered => ?_⟩
  · obtain ⟨owner, _, current⟩ := condition?_of_surface? consistent found
    have stopped := (orderly handle _ current).stopped
    rw [show surface.dropperRunning = !state.memory.contains handle from stopped]
    exact iff_of_eq (Bool.not_eq_false' _)
  · exact contains_memory_iff throttling moments unattended handle
  · have distinct := (consistent.sound key session found).distinct
    have held := (Session.surface?_eq_some_iff distinct).2 ⟨member, rfl⟩
    have sound := orderly surface.handle _ (condition?_of_held consistent found held)
    have stopped : surface.dropperRunning = !state.memory.contains surface.handle := sound.stopped
    constructor
    · intro suspended
      rw [stopped, show state.memory.contains surface.handle = true from sound.suspended suspended]
      rfl
    · intro running
      rw [stopped, show state.memory.contains surface.handle = false from sound.running running]
      rfl
  · cases found : state.roster.surface? handle with
    | none =>
        rw [after_tidy throttling moments handle found] at remembered
        contradiction
    | some surface => exact ⟨surface, rfl⟩

/-! ## A window of a suspended session -/

/-- The usual setup that throttles suspended sessions. -/
def throttlingSetup : Setup (KeySet SurfaceHandle) :=
  .ofConfig { throttleSuspendedSurfaces := true } .empty

/-- A session comes up with a window, runs and is suspended. -/
def suspendedWindow : List Moment :=
  [⟨.event (.sessionCreated ⟨1⟩ 7 "app"), throttlingSetup.surroundings⟩,
    ⟨.event (.surfaceCreated ⟨10⟩ ⟨1⟩ "" .normal none), throttlingSetup.surroundings⟩,
    ⟨.command (.markRunning ⟨1⟩), throttlingSetup.surroundings⟩,
    ⟨.command (.suspendSession ⟨1⟩), throttlingSetup.surroundings⟩,
    ⟨.event (.sessionSuspended ⟨1⟩), throttlingSetup.surroundings⟩]

/-- The dropper of the window stands still, since its session is suspended. -/
theorem dropper_of_suspendedWindow :
    throttlingSetup.policy = .throttleSuspended ∧
      (∀ moment ∈ suspendedWindow, moment.input.dropperCommand? = none) ∧
      (after throttlingSetup suspendedWindow).memory.contains ⟨10⟩ = true ∧
      SuspendedSince throttlingSetup ⟨10⟩ suspendedWindow := by
  have throttling : throttlingSetup.policy = .throttleSuspended := rfl
  have unattended : ∀ moment ∈ suspendedWindow, moment.input.dropperCommand? = none := by decide
  have remembered : (after throttlingSetup suspendedWindow).memory.contains ⟨10⟩ = true := by decide
  have droppers := droppers_after throttlingSetup throttling suspendedWindow unattended
  obtain ⟨surface, found⟩ := droppers.2.2 ⟨10⟩ remembered
  exact ⟨throttling, unattended, remembered, (droppers.1 ⟨10⟩ surface found).2.1 remembered⟩

end Coordinator

end AppLifecycle
