import AppLifecycle.Proofs.Chronicle
import AppLifecycle.Proofs.Coordinator.Fate
import AppLifecycle.Proofs.Protocol

/-!
# Every run keeps to the protocol

Whatever the inputs, what is told of each session and of each surface is a story that begins
nowhere and leads to where the session or surface stands. Those that go do so in one piece: a
surface that has the focus loses it directly before it is released, and a session releases all its
surfaces between stopping and being removed.
-/

namespace AppLifecycle

/-! ## Fates and stories -/

theorem SessionFate.story {key : SessionHandle} {effects : List Effect}
    {before after : Option Session} {told : List ShellNotification}
    (fate : SessionFate key effects before after told) :
    Story (SessionTurn key) (before.map (·.state)) told (after.map (·.state)) := by
  cases fate with
  | same unmoved =>
      rw [unmoved]
      exact .nil _
  | enroll appId starting =>
      rw [Option.map_some, starting]
      exact .single (.added appId)
  | advance edge => exact .single (.moved edge)
  | adopt handle active unmoved =>
      rw [Option.map_some, Option.map_some, unmoved]
      exact .single (.surfaceAdded handle active)
  | @part session active whole =>
      have stops : LifecycleOp.target? .stop session.state = some .stopped := by
        cases state : session.state with
        | stopped => exact absurd state active
        | starting | running | suspending | suspended => rfl
      exact .cons (.moved stops) (.single .removed)

theorem SurfaceFate.story {input : Input} {roster : Roster} {handle : SurfaceHandle}
    {effects : List Effect} {after : Option Surface} {told : List ShellNotification}
    (fate : SurfaceFate input handle effects (roster.surface? handle) after told)
    (consistent : roster.Consistent) :
    Story (SurfaceTurn handle) ((roster.surface? handle).map .ofSurface) (told.map (input, ·))
      (after.map .ofSurface) := by
  have known (surface : Surface) (found : roster.surface? handle = some surface) :=
    And.intro (consistent.live_of_surface? found) (consistent.handle_of_surface? found)
  generalize roster.surface? handle = before at fate known
  cases fate with
  | same => exact .nil _
  | @arrive key title chrome requested id asked =>
      rw [asked]
      exact .single (.added key title chrome requested)
  | touch surface asked =>
      obtain ⟨live, rfl⟩ := known surface rfl
      exact Touch.tells live _ input
  | handOver surface owner => exact .nil _
  | part surface whole =>
      obtain ⟨_, rfl⟩ := known surface rfl
      exact surface.parting_story input

namespace Coordinator

variable {π : Type} {setup : Setup π} {state : Coordinator π} {input : Input}
  {key : SessionHandle} {handle : SurfaceHandle}

theorem obeyDropper_tells {surface : Surface} (live : surface.live = true)
    (requests : List DropperRequest) (input : Input) :
    surface.Tells input (obeyDropper requests surface).state
      (obeyDropper requests surface).effects := by
  induction requests generalizing surface with
  | nil => exact .nil _
  | cons request rest ih =>
      have alike := Touch.act_gentle (.ofRequest request) surface
      have first := Touch.tells live (.ofRequest request) input
      have later := ih (alike.live.trans live)
      rw [Surface.Tells, alike.handle] at later
      rw [Surface.Tells, obeyDropper_cons]
      simp only [Step.andThen, Effect.notifications_append, List.map_append]
      exact first.append later

/-! ## One input -/

/-- The reports about a surface among what an input led to. -/
def reportsOfSurface (handle : SurfaceHandle) (chapter : Chapter) : List Report :=
  (Effect.toldOfSurface handle chapter.effects).map (chapter.input, ·)

/-- What an input lets the world see continues the story of each session. -/
theorem handleInput_sessionStory (consistent : state.roster.Consistent) (setup : Setup π)
    (input : Input) (key : SessionHandle) :
    Story (SessionTurn key) (state.roster.state? key)
      (Effect.toldOfSession key (handleInput setup input state).effects)
      ((handleInput setup input state).state.roster.state? key) := by
  rcases handleInput_follows consistent setup input with ⟨move, moved, equal⟩
  rw [equal]
  refine (consult_induction
    (fun past later => Story (SessionTurn key) (state.roster.state? key)
      (Effect.toldOfSession key past) (later.roster.state? key))
    ?_ move.answer move.effects (moved.consistent consistent)
    (moved.sessionFate consistent key).story).2
  intro past later owner handle step consistent story consulted
  obtain ⟨unmoved, silent⟩ := consulted.sessions_unmoved consistent key
  rw [Effect.toldOfSession_append, silent, unmoved, List.append_nil]
  exact story

/-- What an input lets the world see continues the story of each surface. -/
theorem handleInput_surfaceStory (consistent : state.roster.Consistent) (setup : Setup π)
    (input : Input) (handle : SurfaceHandle) :
    Story (SurfaceTurn handle) ((state.roster.surface? handle).map .ofSurface)
      (reportsOfSurface handle ⟨input, (handleInput setup input state).effects⟩)
      (((handleInput setup input state).state.roster.surface? handle).map .ofSurface) := by
  rcases handleInput_follows consistent setup input with ⟨move, moved, equal⟩
  rw [equal]
  refine (consult_induction
    (fun past later => Story (SurfaceTurn handle)
      ((state.roster.surface? handle).map .ofSurface) (reportsOfSurface handle ⟨input, past⟩)
      ((later.roster.surface? handle).map .ofSurface))
    ?_ move.answer move.effects (moved.consistent consistent)
    ((moved.surfaceFate consistent handle).story consistent)).2
  intro past later owner other step consistent story consulted
  obtain ⟨requests, obeyed, told⟩ := consulted.surface_obeys consistent handle
  simp only [reportsOfSurface, Effect.toldOfSurface_append, List.map_append] at story ⊢
  apply story.append
  rw [obeyed, told]
  cases found : later.roster.surface? handle with
  | none => exact .nil _
  | some surface =>
      rw [← consistent.handle_of_surface? found]
      exact obeyDropper_tells (consistent.live_of_surface? found) requests input

/-- A session or a surface that goes parts in one piece. -/
theorem handleInput_parts (consistent : state.roster.Consistent) (setup : Setup π)
    (input : Input) :
    let step := handleInput setup input state
    (∀ key session, state.roster.session? key = some session →
      step.state.roster.session? key = none →
      session.parting <:+: Effect.notifications step.effects) ∧
    ∀ handle surface, state.roster.surface? handle = some surface →
      step.state.roster.surface? handle = none →
      surface.parting <:+: Effect.notifications step.effects := by
  obtain ⟨move, moved, equal⟩ := handleInput_follows consistent setup input
  obtain ⟨sessions, surfaces⟩ :=
    consult_keeps setup (moved.consistent consistent) move.answer
  have seen {parting : List ShellNotification}
      (whole : parting <:+: Effect.notifications move.effects) :
      parting <:+: Effect.notifications (move.andThen (consult setup)).effects := by
    rw [Step.andThen, Effect.notifications_append]
    exact whole.trans (List.prefix_append ..).isInfix
  rw [equal]
  constructor
  · intro key session found gone
    have fate := moved.sessionFate consistent key
    rw [found, sessions key gone] at fate
    generalize Effect.toldOfSession key move.effects = told at fate
    cases fate with
    | same unmoved => simp at unmoved
    | part active whole => exact seen whole
  · intro handle surface found gone
    have fate := moved.surfaceFate consistent handle
    rw [found, surfaces handle gone] at fate
    generalize Effect.toldOfSurface handle move.effects = told at fate
    cases fate with
    | part _ whole => exact seen whole

/-! ## Runs -/

/-- All that is told of a session during a run is one story. -/
theorem after_sessionStory (setup : Setup π) (moments : List Moment) (key : SessionHandle) :
    Story (SessionTurn key) none (Effect.toldOfSession key (effectsOf setup moments))
      ((after setup moments).roster.state? key) := by
  refine (run_induction setup (fun past state => state.roster.Consistent ∧
    Story (SessionTurn key) none (Effect.toldOfSession key past) (state.roster.state? key))
    ⟨Roster.empty_consistent, .nil none⟩ ?_ moments).2
  rintro past state moment ⟨consistent, story⟩
  refine ⟨handleInput_consistent consistent _ _, ?_⟩
  rw [Effect.toldOfSession_append]
  exact story.append (handleInput_sessionStory consistent _ _ key)

/-- All that is told of a surface during a run is one story. -/
theorem after_surfaceStory (setup : Setup π) (moments : List Moment) (handle : SurfaceHandle) :
    Story (SurfaceTurn handle) none
      ((chronicle setup moments).flatMap (reportsOfSurface handle))
      (((after setup moments).roster.surface? handle).map .ofSurface) := by
  refine (chronicle_induction setup (fun past state => state.roster.Consistent ∧
    Story (SurfaceTurn handle) none (past.flatMap (reportsOfSurface handle))
      ((state.roster.surface? handle).map .ofSurface))
    ⟨Roster.empty_consistent, .nil none⟩ ?_ moments).2
  rintro past state moment ⟨consistent, story⟩
  refine ⟨handleInput_consistent consistent _ _, ?_⟩
  rw [List.flatMap_append, List.flatMap_singleton]
  exact story.append (handleInput_surfaceStory consistent _ _ handle)

/-- The protocol of the notifications, for every run and whatever the policy. What is told of a
session is a story that leads to where the session stands, and what is told of a surface is one
that leads to what the surface looks like; a surface that is there belongs to a session that has
not stopped. With each further input, a surface that goes parts in one piece, and so does a session
that goes, with all the surfaces that it holds. -/
theorem notification_protocol (setup : Setup π) (moments : List Moment) :
    let state := after setup moments
    (∀ key, Story (SessionTurn key) none
      (Effect.toldOfSession key (effectsOf setup moments)) (state.roster.state? key)) ∧
    (∀ handle, Story (SurfaceTurn handle) none
      ((chronicle setup moments).flatMap (reportsOfSurface handle))
      ((state.roster.surface? handle).map .ofSurface)) ∧
    (∀ handle surface, state.roster.surface? handle = some surface →
      ∃ owner, state.roster.state? surface.owner = some owner ∧ owner ≠ .stopped) ∧
    ∀ moment : Moment,
      let step := handleInput (setup.amid moment.surroundings) moment.input state
      (∀ key session, state.roster.session? key = some session →
        step.state.roster.session? key = none →
        session.parting <:+: Effect.notifications step.effects) ∧
      ∀ handle surface, state.roster.surface? handle = some surface →
        step.state.roster.surface? handle = none →
        surface.parting <:+: Effect.notifications step.effects := by
  intro state
  have consistent : state.roster.Consistent := after_consistent setup moments
  refine ⟨after_sessionStory setup moments, after_surfaceStory setup moments, ?_, fun moment => ?_⟩
  · intro handle surface found
    obtain ⟨session, owned, _⟩ := consistent.exists_owner found
    exact ⟨session.state, Roster.state?_of_session? owned,
      (consistent.sound surface.owner session owned).active⟩
  · exact handleInput_parts consistent _ _

end Coordinator

end AppLifecycle
