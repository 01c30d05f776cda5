import Mathlib.Data.List.Infix
import AppLifecycle.Proofs.Coordinator.Belongings
import AppLifecycle.Proofs.Coordinator.SuspendedDroppers
import AppLifecycle.Proofs.SurfaceCalls

/-!
# Frames that wait to be drawn

A surface is drawn only at a command to draw it that meets a running owner. Until then the frames
of a surface whose dropper stands still wait, whatever else happens: transitions, other owners and
commands to draw that meet no running owner leave them alone, and so do the built-in policies. A
draw takes them all at once (`frames_wait`).
-/

namespace AppLifecycle

namespace Surface

/-- From one surface to the other nothing has been drawn. -/
structure Undrawn (before after : Surface) : Prop where
  first : after.firstFrameDrawn = before.firstFrameDrawn
  rendered : after.frames.rendered = before.frames.rendered

namespace Undrawn

theorem refl (surface : Surface) : Undrawn surface surface :=
  ⟨rfl, rfl⟩

theorem trans {first second third : Surface} (left : Undrawn first second)
    (right : Undrawn second third) : Undrawn first third where
  first := right.first.trans left.first
  rendered := right.rendered.trans left.rendered

end Undrawn

namespace Course

variable {surface : Surface} {call : SurfaceCall} {step : Step Surface SurfaceAnswer}
  (course : Course surface call step)
include course

theorem undrawn (noRender : call ≠ .render) (noFirst : call ≠ .drawFirstFrame) :
    Undrawn surface step.state ∧ Effect.firstFrames step.effects = [] := by
  cases course with
  | draw => contradiction
  | first => contradiction
  | aside live noFrame same undrawn unopened uncleared silent =>
      exact ⟨⟨same.first, by rw [same.frames]⟩, silent⟩
  | release live silent | start live stopped silent | stop live running silent =>
      exact ⟨⟨rfl, rfl⟩, silent⟩
  | refused | drop | queue => exact ⟨⟨rfl, rfl⟩, rfl⟩

/-- A call that no frame comes from, that draws none and discards none. -/
theorem frames_kept (noFrame : call ≠ .frameReady) (noRender : call ≠ .render)
    (noStart : call ≠ .startFrameDropper) (noRelease : call ≠ .markReleased) :
    step.state.frames = surface.frames := by
  cases course with
  | aside live noFrame same => exact same.frames
  | refused | first | stop => rfl
  | release | drop | queue | draw | start => contradiction

end Course

end Surface

namespace Touch

/-- The call that a touch makes. -/
def call : Touch → SurfaceCall
  | rename title => .setTitle title
  | present presentation => .requestPresentation presentation
  | focus focused => .setFocused focused
  | startDropper => .startFrameDropper
  | stopDropper => .stopFrameDropper
  | render => .render
  | frameReady => .frameReady

theorem course (touch : Touch) (surface : Surface) :
    ∃ answer, Surface.Course surface touch.call
      ⟨(touch.act surface).state, answer, (touch.act surface).effects⟩ := by
  cases touch <;> exact ⟨_, Surface.obey_course surface _⟩

variable {touch : Touch} {surface : Surface}

theorem undrawn (noRender : touch ≠ .render) (surface : Surface) :
    Surface.Undrawn surface (touch.act surface).state ∧
      Effect.firstFrames (touch.act surface).effects = [] := by
  obtain ⟨answer, course⟩ := touch.course surface
  apply course.undrawn
  · cases touch <;> first | contradiction | nofun
  · cases touch <;> nofun

theorem frames_kept (touch : Touch) (noFrame : touch ≠ .frameReady) (noRender : touch ≠ .render)
    (noStart : touch ≠ .startDropper) (surface : Surface) :
    (touch.act surface).state.frames = surface.frames := by
  obtain ⟨answer, course⟩ := touch.course surface
  apply course.frames_kept <;> cases touch <;> first | contradiction | nofun

theorem bounded (before : surface.frames.pending ≤ FrameStats.pendingLimit) :
    (touch.act surface).state.frames.pending ≤ FrameStats.pendingLimit := by
  obtain ⟨answer, course⟩ := touch.course surface
  exact course.bounded before

end Touch

namespace SurfacePolicy.BuiltIn

variable {policy : SurfacePolicy (KeySet SurfaceHandle)} (builtIn : policy.BuiltIn)
  (memory : KeySet SurfaceHandle) (session : SessionView) (surface : SurfaceView)
include builtIn

theorem only_stops :
    ∀ request ∈ (policy.suspended memory session surface).2, request = .stop := by
  rcases builtIn with rfl | rfl
  · simp [keepCompositing]
  · simp only [throttleSuspended]
    split <;> simp

theorem only_starts :
    ∀ request ∈ (policy.resumed memory session surface).2, request = .start := by
  rcases builtIn with rfl | rfl
  · simp [keepCompositing]
  · simp only [throttleSuspended]
    split <;> simp

end SurfacePolicy.BuiltIn

namespace Coordinator

variable {π : Type} {requests : List DropperRequest} {surface : Surface}

/-! ## Requests to a dropper -/

theorem obeyDropper_undrawn (requests : List DropperRequest) (surface : Surface) :
    Surface.Undrawn surface (obeyDropper requests surface).state ∧
      Effect.firstFrames (obeyDropper requests surface).effects = [] := by
  induction requests generalizing surface with
  | nil => exact ⟨.refl surface, rfl⟩
  | cons request rest ih =>
      have noRender : Touch.ofRequest request ≠ .render := by cases request <;> nofun
      obtain ⟨first, silent⟩ := Touch.undrawn noRender surface
      obtain ⟨later, silentLater⟩ := ih ((Touch.ofRequest request).act surface).state
      rw [obeyDropper_cons]
      refine ⟨first.trans later, ?_⟩
      rw [Step.andThen, Effect.firstFrames_append, silent, silentLater, List.nil_append]

theorem obeyDropper_bounded (requests : List DropperRequest) (surface : Surface)
    (before : surface.frames.pending ≤ FrameStats.pendingLimit) :
    (obeyDropper requests surface).state.frames.pending ≤ FrameStats.pendingLimit := by
  induction requests generalizing surface with
  | nil => exact before
  | cons request rest ih =>
      rw [obeyDropper_cons]
      exact ih _ (Touch.bounded before)

/-- Stopping a dropper leaves the frames alone. -/
theorem frames_obeyDropper (stops : ∀ request ∈ requests, request = .stop) (surface : Surface) :
    (obeyDropper requests surface).state.frames = surface.frames := by
  induction requests generalizing surface with
  | nil => rfl
  | cons request rest ih =>
      obtain ⟨rfl, others⟩ := List.forall_mem_cons.1 stops
      have kept : (Touch.stopDropper.act surface).state.frames = surface.frames :=
        Touch.frames_kept .stopDropper nofun nofun nofun surface
      rw [obeyDropper_cons]
      exact (ih others _).trans kept

/-- Once it is asked to start, and never to stop, a dropper runs. -/
theorem running_obeyDropper (starts : ∀ request ∈ requests, request = .start)
    (live : surface.live = true) :
    (obeyDropper requests surface).state = surface ∨
      (obeyDropper requests surface).state.dropperRunning = true := by
  induction requests generalizing surface with
  | nil => exact .inl rfl
  | cons request rest ih =>
      obtain ⟨rfl, others⟩ := List.forall_mem_cons.1 starts
      have started : ((Touch.ofRequest .start).act surface).state.dropperRunning = true :=
        Touch.dropperRunning_act live _
      have stillLive := (Touch.act_gentle (.ofRequest .start) surface).live.trans live
      rw [obeyDropper_cons]
      rcases ih others stillLive with same | running
      · exact .inr ((congrArg Surface.dropperRunning same).trans started)
      · exact .inr running

end Coordinator

/-- An action on a surface that somebody holds answers for that surface. -/
theorem Roster.answer_onSurface {α : Type} {roster : Roster} {handle : SurfaceHandle}
    {act : Surface → Step Surface α} (consistent : roster.Consistent) :
    (roster.onSurface handle act).answer =
      (roster.surface? handle).map fun surface => (act surface).answer := by
  cases indexed : roster.owners.find? handle with
  | none =>
      rw [onSurface_of_absent indexed, consistent.surface?_eq_none_iff.2 indexed]
      rfl
  | some key =>
      rcases (consistent.indexed handle key).1 indexed with ⟨session, found, member⟩
      rcases Session.exists_surface?_of_mem member with ⟨surface, held⟩
      rw [onSurface_of_found indexed found, consistent.surface?_of_mem found member, held]
      simp only [Step.answering, Session.onSurface_of_found held, Option.map_some]

/-! ## What is drawn, and when -/

theorem Effect.not_mem_of_firstFrames {effects : List Effect} {handle : SurfaceHandle}
    (silent : firstFrames effects = []) :
    .surfaceFirstFrameDrawn handle ∉ notifications effects := by
  intro member
  have listed : .surfaceFirstFrameDrawn handle ∈ firstFrames effects :=
    List.mem_filter.2 ⟨member, rfl⟩
  rw [silent] at listed
  contradiction

section Fate

variable {input : Input} {handle : SurfaceHandle}

/-- What draws a surface, hands it a frame or starts its dropper. -/
theorem Input.Touches.cause {touch : Touch} (touches : input.Touches touch handle) :
    (touch = .render → input = .command (.render handle)) ∧
      (touch = .frameReady → input = .event (.frameReady handle)) ∧
      (touch = .startDropper → input = .command (.startFrameDropper handle)) := by
  cases touches with
  | asked asked =>
      cases input with
      | event event => cases event <;> cases asked <;> simp
      | command command => cases command <;> cases asked <;> simp
      | shutdown => cases asked
  | focus => simp

variable {before after : Option Surface} {effects : List Effect}
  {told : List ShellNotification} (fate : SurfaceFate input handle effects before after told)
include fate

/-- What is not commanded to be drawn is not drawn by the move. -/
theorem SurfaceFate.undrawn (noDraw : input ≠ .command (.render handle)) :
    (∀ surface later, before = some surface → after = some later → surface.Undrawn later) ∧
      .surfaceFirstFrameDrawn handle ∉ told := by
  cases fate with
  | same =>
      refine ⟨fun surface later first last => ?_, List.not_mem_nil⟩
      cases first.symm.trans last
      exact .refl surface
  | arrive => exact ⟨fun _ _ first => absurd first.symm (Option.some_ne_none _), by simp⟩
  | touch surface touches =>
      obtain ⟨undrawn, silent⟩ := Touch.undrawn (mt touches.cause.1 noDraw) surface
      refine ⟨fun _ _ first last => ?_, Effect.not_mem_of_firstFrames silent⟩
      rw [← Option.some.inj first, ← Option.some.inj last]
      exact undrawn
  | handOver surface owner =>
      refine ⟨fun _ _ first last => ?_, List.not_mem_nil⟩
      rw [← Option.some.inj first, ← Option.some.inj last]
      exact ⟨rfl, rfl⟩
  | part surface =>
      refine ⟨fun _ _ _ last => absurd last.symm (Option.some_ne_none _), ?_⟩
      unfold Surface.parting
      split <;> simp

/-- Only a frame that becomes ready, a draw and the start of the dropper change the frames. -/
theorem SurfaceFate.frames_kept (noFrame : input ≠ .event (.frameReady handle))
    (noDraw : input ≠ .command (.render handle))
    (noStart : input ≠ .command (.startFrameDropper handle)) {surface later : Surface}
    (first : before = some surface) (last : after = some later) :
    later.frames = surface.frames := by
  cases fate with
  | same => rw [Option.some.inj (first.symm.trans last)]
  | arrive => exact absurd first.symm (Option.some_ne_none _)
  | touch found touches =>
      obtain ⟨drawn, ready, started⟩ := touches.cause
      rw [← Option.some.inj first, ← Option.some.inj last]
      exact Touch.frames_kept _ (mt ready noFrame) (mt drawn noDraw) (mt started noStart) found
  | handOver => rw [← Option.some.inj first, ← Option.some.inj last]
  | part => exact absurd last.symm (Option.some_ne_none _)

theorem SurfaceFate.bounded
    (before : ∀ surface, before = some surface →
      surface.frames.pending ≤ FrameStats.pendingLimit)
    {later : Surface} (last : after = some later) :
    later.frames.pending ≤ FrameStats.pendingLimit := by
  cases fate with
  | same => exact before later last
  | arrive =>
      rw [← Option.some.inj last]
      exact Nat.zero_le _
  | touch surface =>
      rw [← Option.some.inj last]
      exact Touch.bounded (before surface rfl)
  | handOver surface =>
      rw [← Option.some.inj last]
      exact before surface rfl
  | part => exact absurd last.symm (Option.some_ne_none _)

end Fate

namespace Coordinator

variable {π : Type} {setup : Setup π} {state : Coordinator π} {input : Input}
  {key : SessionHandle} {handle : SurfaceHandle}

/-- What is found of a surface was there before and has not been drawn since, nor is its first
frame told of. -/
def DrawsNone (handle : SurfaceHandle) (before : Coordinator π) (effects : List Effect)
    (after : Coordinator π) : Prop :=
  (∀ later, after.roster.surface? handle = some later →
    ∃ surface, before.roster.surface? handle = some surface ∧ surface.Undrawn later) ∧
  .surfaceFirstFrameDrawn handle ∉ Effect.toldOfSurface handle effects

theorem consult_undrawn (setup : Setup π) (consistent : state.roster.Consistent)
    (handle : SurfaceHandle) (pending : Consultations) :
    DrawsNone handle state (consult setup pending state).effects
      (consult setup pending state).state := by
  refine (consult_induction (DrawsNone handle state) ?_ pending [] consistent
    ⟨fun later found => ⟨later, found, .refl later⟩, List.not_mem_nil⟩).2
  rintro past middle key asked step consistent ⟨undrawn, silent⟩ consulted
  obtain ⟨requests, surfaces, told⟩ := consulted.surface_obeys consistent handle
  rw [DrawsNone, Effect.toldOfSurface_append, told, surfaces]
  cases found : middle.roster.surface? handle with
  | none => exact ⟨nofun, by simpa using silent⟩
  | some before =>
      obtain ⟨surface, known, first⟩ := undrawn before found
      obtain ⟨still, quiet⟩ := obeyDropper_undrawn requests before
      constructor
      · intro later last
        rw [← Option.some.inj last]
        exact ⟨surface, known, first.trans still⟩
      · rw [List.mem_append, not_or]
        exact ⟨silent, Effect.not_mem_of_firstFrames quiet⟩

/-- What is not commanded to be drawn is not drawn. -/
theorem handleInput_undrawn (consistent : state.roster.Consistent)
    (noDraw : input ≠ .command (.render handle)) :
    let step := handleInput setup input state
    (∀ surface later, state.roster.surface? handle = some surface →
      step.state.roster.surface? handle = some later → surface.Undrawn later) ∧
    .surfaceFirstFrameDrawn handle ∉ Effect.toldOfSurface handle step.effects := by
  obtain ⟨move, moved, equal⟩ := handleInput_follows consistent setup input
  obtain ⟨undrawn, silent⟩ := (moved.surfaceFate consistent handle).undrawn noDraw
  obtain ⟨still, quiet⟩ :=
    consult_undrawn setup (moved.consistent consistent) handle move.answer
  rw [equal]
  constructor
  · intro surface later found last
    obtain ⟨middle, known, after⟩ := still later last
    exact (undrawn surface middle found known).trans after
  · rw [Step.andThen, Effect.toldOfSurface_append, List.mem_append, not_or]
    exact ⟨silent, quiet⟩

/-! ## Commands to draw -/

theorem render_of_idle (idle : state.ownerState? handle ≠ some .running) :
    state.render handle = .quiet state none := by
  unfold render
  cases owned : state.roster.ownerOf? handle with
  | none => rfl
  | some owner =>
      have resting : owner.state ≠ .running := fun running =>
        idle (by rw [ownerState?, owned, Option.map_some, running])
      simp only [if_neg resting]

theorem render_of_running (running : state.ownerState? handle = some .running) :
    state.render handle = state.withRoster (·.onSurface handle (·.render)) := by
  obtain ⟨owner, owned, posture⟩ := Option.map_eq_some_iff.1 running
  rw [render, owned]
  exact if_pos posture

/-- A surface that is drawn while its owner runs. -/
theorem render_drawn (consistent : state.roster.Consistent) {surface : Surface}
    (found : state.roster.surface? handle = some surface)
    (running : state.ownerState? handle = some .running) :
    (state.render handle).answer =
        some (if surface.frames.pending = 0 then .noFrame
          else .drawn !surface.firstFrameDrawn) ∧
      (state.render handle).state.roster.surface? handle =
        some (if surface.frames.pending = 0 then surface
          else
            { surface with
              firstFrameDrawn := true
              frames :=
                { surface.frames with pending := 0, rendered := surface.frames.rendered + 1 } }) ∧
      (state.render handle).effects =
        if surface.frames.pending = 0 ∨ surface.firstFrameDrawn = true then []
        else [.notify (.surfaceFirstFrameDrawn handle)] := by
  have live := consistent.live_of_surface? found
  have called := consistent.handle_of_surface? found
  have gentle : Surface.Gentle (·.render) := Touch.act_gentle .render
  rw [render_of_running running, withRoster_eq]
  simp only
  rw [Roster.surface?_onSurface gentle consistent, Roster.effects_onSurface consistent,
    Roster.answer_onSurface consistent, found, if_pos rfl]
  simp only [Option.map_some, Option.getD_some, Surface.render, live, if_true, called]
  by_cases empty : surface.frames.pending = 0
  · simp [empty, Step.quiet]
  · simp [empty]

/-! ## Frames that wait -/

theorem ownerState?_eq (state : Coordinator π) (handle : SurfaceHandle) :
    state.ownerState? handle = (state.roster.owners.find? handle).bind state.roster.state? := by
  rw [ownerState?, Roster.ownerOf?, Option.map_bind]
  rfl

theorem ownerState?_of_held (consistent : state.roster.Consistent) {session : Session}
    {surface : Surface} (found : state.roster.session? key = some session)
    (held : session.surface? handle = some surface) :
    state.ownerState? handle = some session.state := by
  have member := Session.mem_surfaceHandles_of_surface? held
  rw [ownerState?_eq, consistent.owners_of_mem found member, Option.bind_some,
    Roster.state?_of_session? found]

theorem Consulted.ownerState? {asked : SurfaceHandle} {step : Step (Coordinator π) Unit}
    (consulted : Consulted setup state key asked step) (consistent : state.roster.Consistent)
    (handle : SurfaceHandle) : step.state.ownerState? handle = state.ownerState? handle := by
  rw [ownerState?_eq, ownerState?_eq, consulted.owners]
  congr 1
  funext other
  exact (consulted.sessions_unmoved consistent other).1

/-- No more frames wait than are kept. -/
theorem pending_bounded (setup : Setup π) (moments : List Moment) (handle : SurfaceHandle)
    (surface : Surface) (found : (after setup moments).roster.surface? handle = some surface) :
    surface.frames.pending ≤ FrameStats.pendingLimit := by
  refine (invariant_of_moves setup (fun _ state => ∀ surface,
    state.roster.surface? handle = some surface →
      surface.frames.pending ≤ FrameStats.pendingLimit) ?_ ?_ ?_ moments).2 surface found
  · intro surface found
    contradiction
  · intro past state surroundings input move consistent bounded moved surface found
    exact (moved.surfaceFate consistent handle).bounded bounded found
  · intro past state surroundings key asked step consistent bounded consulted surface found
    obtain ⟨requests, surfaces, _⟩ := consulted.surface_obeys consistent handle
    rw [surfaces] at found
    obtain ⟨before, known, rfl⟩ := Option.map_eq_some_iff.1 found
    exact obeyDropper_bounded requests before (bounded before known)

/-- What is found of a surface was there before and has the frames it had, unless its dropper runs
in a running session. -/
def KeepsFrames (handle : SurfaceHandle) (before after : Coordinator π) : Prop :=
  ∀ later, after.roster.surface? handle = some later →
    ∃ surface, before.roster.surface? handle = some surface ∧
      (later.frames = surface.frames ∨
        (later.dropperRunning = true ∧ after.ownerState? handle = some .running))

section BuiltIn

variable {setup : Setup (KeySet SurfaceHandle)} {state : Coordinator (KeySet SurfaceHandle)}
  (builtIn : setup.policy.BuiltIn) (consistent : state.roster.Consistent)
include builtIn consistent

theorem Consulted.keepsFrames {before : Coordinator (KeySet SurfaceHandle)}
    {asked : SurfaceHandle} {step : Step (Coordinator (KeySet SurfaceHandle)) Unit}
    (consulted : Consulted setup state key asked step) (kept : KeepsFrames handle before state) :
    KeepsFrames handle before step.state := by
  intro later last
  rw [consulted.ownerState? consistent]
  cases consulted with
  | silent => exact kept later last
  | suspended found held posture =>
      rw [heed, Roster.surface?_onSurface (obeyDropper_gentle _) consistent] at last
      split at last
      · rename_i equal
        obtain ⟨former, known, rfl⟩ := Option.map_eq_some_iff.1 last
        obtain ⟨surface, first, same | ⟨_, running⟩⟩ := kept former (equal ▸ known)
        · exact ⟨surface, first,
            .inl ((frames_obeyDropper (builtIn.only_stops _ _ _) former).trans same)⟩
        · -- A running session asks for no dropper to stop.
          rw [equal, ownerState?_of_held consistent found held, posture] at running
          contradiction
      · exact kept later last
  | resumed found held posture =>
      rw [heed, Roster.surface?_onSurface (obeyDropper_gentle _) consistent] at last
      split at last
      · rename_i equal
        obtain ⟨former, known, rfl⟩ := Option.map_eq_some_iff.1 last
        have live := consistent.live_of_surface? known
        rcases running_obeyDropper (builtIn.only_starts _ _ _) live with same | running
        · rw [same]
          exact kept former (equal ▸ known)
        · obtain ⟨surface, first, _⟩ := kept former (equal ▸ known)
          refine ⟨surface, first, .inr ⟨running, ?_⟩⟩
          rw [equal, ownerState?_of_held consistent found held, posture]
      · exact kept later last

/-- Consultations leave the frames of a surface alone whose dropper stands still afterwards. -/
theorem consult_frames (pending : Consultations) {later : Surface}
    (last : (consult setup pending state).state.roster.surface? handle = some later)
    (stopped : later.dropperRunning = false) :
    ∃ surface, state.roster.surface? handle = some surface ∧ later.frames = surface.frames := by
  have kept : KeepsFrames handle state (consult setup pending state).state :=
    (consult_induction (fun _ middle => KeepsFrames handle state middle)
      (fun _ _ _ _ _ consistent kept consulted => consulted.keepsFrames builtIn consistent kept)
      pending [] consistent fun later found => ⟨later, found, .inl rfl⟩).2
  obtain ⟨surface, found, same | ⟨running, _⟩⟩ := kept later last
  · exact ⟨surface, found, same⟩
  · rw [stopped] at running
    contradiction

/-- While the dropper of a surface stands still and nothing draws it, each frame that becomes ready
waits, and those that wait keep waiting. -/
theorem handleInput_pending {surface later : Surface}
    (found : state.roster.surface? handle = some surface)
    (stopped : surface.dropperRunning = false)
    (last : (handleInput setup input state).state.roster.surface? handle = some later)
    (still : later.dropperRunning = false)
    (idle : input = .command (.render handle) → state.ownerState? handle ≠ some .running) :
    later.frames.pending =
      if input = .event (.frameReady handle) then
        min (surface.frames.pending + 1) FrameStats.pendingLimit
      else surface.frames.pending := by
  have live := consistent.live_of_surface? found
  by_cases ready : input = .event (.frameReady handle)
  · subst ready
    have gentle : Surface.Gentle fun found : Surface => Step.quiet found.frameReady () :=
      Touch.act_gentle .frameReady
    have reached : (state.roster.onSurface handle
        fun found => .quiet found.frameReady ()).state.surface? handle = some later := last
    rw [Roster.surface?_onSurface gentle consistent, if_pos rfl, found] at reached
    rw [if_pos rfl, ← Option.some.inj reached]
    simp [Surface.frameReady, Step.quiet, live, stopped]
  rw [if_neg ready]
  by_cases draw : input = .command (.render handle)
  · subst draw
    have alone : (state.render handle).state.roster.surface? handle = some later := last
    rw [render_of_idle (idle rfl)] at alone
    rw [Option.some.inj (found.symm.trans alone)]
  by_cases start : input = .command (.startFrameDropper handle)
  · subst start
    have here : state.liveSurface? handle = some surface := by
      rw [liveSurface?, found, Option.filter_some, if_pos live]
    have gentle : Surface.Gentle (·.startFrameDropper) := Touch.act_gentle .startDropper
    have running : surface.startFrameDropper.state.dropperRunning = true :=
      Touch.dropperRunning_act live .startDropper
    rw [handleInput, handleCommand, onLiveSurface, here] at last
    simp only [withRoster_eq, Step.answering] at last
    rw [Roster.surface?_onSurface gentle consistent, if_pos rfl, found] at last
    have same : surface.startFrameDropper.state = later := Option.some.inj last
    rw [same, still] at running
    contradiction
  obtain ⟨move, moved, equal⟩ := handleInput_follows consistent setup input
  rw [equal] at last
  obtain ⟨middle, known, same⟩ :=
    consult_frames builtIn (moved.consistent consistent) move.answer last still
  have kept := (moved.surfaceFate consistent handle).frames_kept ready draw start found known
  rw [same, kept]

end BuiltIn

/-- Throughout a stretch of a run somebody holds the surface, its dropper stands still, and no
command to draw it meets a running owner. -/
structure FramesWait (setup : Setup π) (handle : SurfaceHandle) (moments stretch : List Moment) :
    Prop where
  stopped : ∀ earlier, earlier <+: stretch →
    ((after setup (moments ++ earlier)).roster.surface? handle).map (·.dropperRunning) = some false
  undrawn : ∀ earlier moment, earlier ++ [moment] <+: stretch →
    moment.input = .command (.render handle) →
      (after setup (moments ++ earlier)).ownerState? handle ≠ some .running

/-- Over such a stretch each frame that becomes ready adds one to those that wait. -/
theorem FramesWait.pending {setup : Setup (KeySet SurfaceHandle)} (builtIn : setup.policy.BuiltIn)
    {moments stretch : List Moment} (waits : FramesWait setup handle moments stretch)
    {surface : Surface} (found : (after setup moments).roster.surface? handle = some surface) :
    ∃ later, (after setup (moments ++ stretch)).roster.surface? handle = some later ∧
      later.frames.pending =
        min (surface.frames.pending + stretch.countP (·.input = .event (.frameReady handle)))
          FrameStats.pendingLimit := by
  induction stretch using List.reverseRecOn with
  | nil =>
      refine ⟨surface, by rwa [List.append_nil], ?_⟩
      rw [List.countP_nil, Nat.add_zero,
        Nat.min_eq_left (pending_bounded setup moments handle surface found)]
  | append_singleton stretch last ih =>
      have before : FramesWait setup handle moments stretch :=
        ⟨fun earlier within => waits.stopped earlier (within.trans (List.prefix_append ..)),
          fun earlier moment within =>
            waits.undrawn earlier moment (within.trans (List.prefix_append ..))⟩
      obtain ⟨middle, known, counted⟩ := ih before
      obtain ⟨held, foundHeld, stopped⟩ :=
        Option.map_eq_some_iff.1 (waits.stopped stretch (List.prefix_append ..))
      have stopped : middle.dropperRunning = false := by
        rw [Option.some.inj (known.symm.trans foundHeld)]
        exact stopped
      obtain ⟨later, foundLater, still⟩ :=
        Option.map_eq_some_iff.1 (waits.stopped _ (List.prefix_refl _))
      refine ⟨later, foundLater, ?_⟩
      rw [← List.append_assoc, after_concat] at foundLater
      have builtInThere : (setup.amid last.surroundings).policy.BuiltIn := builtIn
      have pending := handleInput_pending builtInThere (after_consistent setup _) known stopped
        foundLater still (waits.undrawn stretch last (List.prefix_refl _))
      rw [pending, counted, List.countP_append, List.countP_singleton]
      by_cases ready : last.input = .event (.frameReady handle)
      · simp only [ready, decide_true, if_true]
        omega
      · simp [ready]

/-- When frames wait and when they are drawn. A surface is drawn, and its first frame told of,
only as a command to draw it meets a running owner. Over a stretch of a run in which somebody
holds the surface, its dropper stands still and no such command meets a running owner, each frame
that becomes ready adds one to those that wait. A command that does meet a running owner draws
once if frames wait, and with it all of them. -/
theorem frames_wait (setup : Setup (KeySet SurfaceHandle)) (builtIn : setup.policy.BuiltIn)
    (moments : List Moment) (handle : SurfaceHandle) :
    let state := after setup moments
    (∀ last : Moment,
      let step := handleInput (setup.amid last.surroundings) last.input state
      (Effect.notify (.surfaceFirstFrameDrawn handle) ∈ step.effects ∨
        ∃ surface later, state.roster.surface? handle = some surface ∧
          step.state.roster.surface? handle = some later ∧
          (later.firstFrameDrawn ≠ surface.firstFrameDrawn ∨
            later.frames.rendered ≠ surface.frames.rendered)) →
      last.input = .command (.render handle) ∧ state.ownerState? handle = some .running) ∧
    (∀ stretch surface, state.roster.surface? handle = some surface →
      FramesWait setup handle moments stretch →
      ∃ later, (after setup (moments ++ stretch)).roster.surface? handle = some later ∧
        later.frames.pending =
          min (surface.frames.pending + stretch.countP (·.input = .event (.frameReady handle)))
            FrameStats.pendingLimit) ∧
    ∀ surroundings surface, state.roster.surface? handle = some surface →
      state.ownerState? handle = some .running →
      let step := handleInput (setup.amid surroundings) (.command (.render handle)) state
      (state.render handle).answer =
          some (if surface.frames.pending = 0 then .noFrame
            else .drawn !surface.firstFrameDrawn) ∧
        step.state.roster.surface? handle =
          some (if surface.frames.pending = 0 then surface
            else
              { surface with
                firstFrameDrawn := true
                frames :=
                  { surface.frames with
                    pending := 0
                    rendered := surface.frames.rendered + 1 } }) ∧
        step.effects =
          if surface.frames.pending = 0 ∨ surface.firstFrameDrawn = true then []
          else [.notify (.surfaceFirstFrameDrawn handle)] := by
  intro state
  have consistent : state.roster.Consistent := after_consistent setup moments
  refine ⟨?_, fun stretch surface found waits => waits.pending builtIn found,
    fun surroundings surface found running => render_drawn consistent found running⟩
  intro last step drawn
  have commanded : last.input = .command (.render handle) := by
    by_contra noDraw
    obtain ⟨undrawn, silent⟩ := handleInput_undrawn consistent noDraw
    rcases drawn with told | ⟨surface, later, found, foundLater, changed⟩
    · exact silent (List.mem_filter.2 ⟨Effect.mem_notifications_iff.2 told, by
        simp [ShellNotification.surface?]⟩)
    · have kept := undrawn surface later found foundLater
      exact changed.elim (fun first => first kept.first) fun rendered => rendered kept.rendered
  refine ⟨commanded, ?_⟩
  by_contra idle
  have alone : step = .quiet state () := by
    simp only [step, commanded, handleInput, handleCommand, render_of_idle idle]
    rfl
  rw [alone] at drawn
  rcases drawn with told | ⟨surface, later, found, foundLater, changed⟩
  · exact List.not_mem_nil told
  · cases Option.some.inj (found.symm.trans foundLater)
    exact changed.elim (· rfl) (· rfl)

/-- Two frames become ready for the window while its session is suspended, and wait. -/
theorem frames_wait_in_suspendedWindow :
    let ready : Moment := ⟨.event (.frameReady ⟨10⟩), throttlingSetup.surroundings⟩
    throttlingSetup.policy.BuiltIn ∧
      ∃ later,
        (after throttlingSetup (suspendedWindow ++ [ready, ready])).roster.surface? ⟨10⟩ =
          some later ∧
        later.frames.pending = 2 := by
  intro ready
  have builtIn : throttlingSetup.policy.BuiltIn := .inr rfl
  have waits : FramesWait throttlingSetup ⟨10⟩ suspendedWindow [ready, ready] := by
    constructor
    · intro earlier within
      have listed : ∀ earlier ∈ [ready, ready].inits,
          ((after throttlingSetup (suspendedWindow ++ earlier)).roster.surface? ⟨10⟩).map
            (·.dropperRunning) = some false := by decide
      exact listed earlier ((List.mem_inits ..).2 within)
    · intro earlier moment within drawn
      have member : moment ∈ [ready, ready] := within.subset (by simp)
      obtain rfl : moment = ready := by simpa using member
      contradiction
  obtain ⟨surface, found, empty⟩ : ∃ surface,
      (after throttlingSetup suspendedWindow).roster.surface? ⟨10⟩ = some surface ∧
        surface.frames.pending = 0 := ⟨_, rfl, rfl⟩
  obtain ⟨later, last, pending⟩ :=
    (frames_wait throttlingSetup builtIn suspendedWindow ⟨10⟩).2.1 _ surface found waits
  exact ⟨builtIn, later, last, by rw [pending, empty]; rfl⟩

end Coordinator

end AppLifecycle
