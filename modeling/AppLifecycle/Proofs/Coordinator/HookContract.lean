import AppLifecycle.Proofs.Coordinator.Calls
import AppLifecycle.Proofs.Coordinator.Protocol

/-!
# The contract of the policy hooks

Whatever the policy, an input calls it about a surface only as that surface comes to be held by a
suspended or running session that did not hold it in that state before, or as it goes, and exactly
once then (`HookContract`). Over a run the policy hears that a surface is gone once for each time
that it came up and is there no more (`hook_contract`).
-/

namespace AppLifecycle

/-! ## Coming up and going -/

/-- Whether a notification tells that a surface comes up. -/
def ShellNotification.adds (handle : SurfaceHandle) : ShellNotification → Bool
  | surfaceAdded other _ => other = handle
  | _ => false

/-- How often a surface is there: once or not at all. -/
def presence (found : Option Surface) : Nat :=
  found.elim 0 fun _ => 1

/-- Among some notifications it is told as often as it happens that a surface comes up and that it
goes. -/
structure TellsLife (handle : SurfaceHandle) (before after : Nat)
    (told : List ShellNotification) : Prop where
  added : told.countP (·.adds handle) = after - before
  released : told.count (.surfaceLiveChanged handle false) = before - after

namespace TellsLife

variable {handle : SurfaceHandle} {before after : Nat} {told more : List ShellNotification}

theorem append (life : TellsLife handle before after told)
    (silent : TellsLife handle after after more) :
    TellsLife handle before after (told ++ more) where
  added := by
    rw [List.countP_append, life.added, silent.added, Nat.sub_self, Nat.add_zero]
  released := by
    rw [List.count_append, life.released, silent.released, Nat.sub_self, Nat.add_zero]

theorem nil (handle : SurfaceHandle) (present : Nat) : TellsLife handle present present [] where
  added := (Nat.sub_self present).symm
  released := (Nat.sub_self present).symm

/-- A notification about something else changes nothing. -/
theorem cons_other {notification : ShellNotification}
    (life : TellsLife handle before after told) (notAdded : notification.adds handle = false)
    (notReleased : notification ≠ .surfaceLiveChanged handle false) :
    TellsLife handle before after (notification :: told) where
  added := by
    rw [List.countP_cons_of_neg (by simp [notAdded]), life.added]
  released := by
    rw [List.count_cons_of_ne notReleased, life.released]

/-- The notifications about a surface tell all there is to be told of its life. -/
theorem of_toldOfSurface {effects : List Effect}
    (life : TellsLife handle before after (Effect.toldOfSurface handle effects)) :
    TellsLife handle before after (Effect.notifications effects) where
  added := by
    rw [← life.added, Effect.toldOfSurface, List.countP_filter]
    apply List.countP_congr
    intro notification _
    cases notification <;> simp [ShellNotification.adds, ShellNotification.surface?]
  released := by
    rw [← life.released, Effect.toldOfSurface, List.count_filter]
    simp [ShellNotification.surface?]

/-- What is told of a surface between two moments at which it is there is not about its life, as
far as it does not come up. -/
theorem of_story {facade : Option Facade} {later : Facade}
    (story : Story (SurfaceTurn handle) facade (told.map (Input.shutdown, ·)) (some later))
    (present : Nat) : facade ≠ none ∧ TellsLife handle present present told := by
  induction told generalizing facade with
  | nil =>
      cases story
      exact ⟨Option.some_ne_none _, .nil handle present⟩
  | cons notification rest ih =>
      cases story with
      | cons turn following =>
          obtain ⟨there, life⟩ := ih following
          cases turn with
          | released => exact absurd rfl there
          | firstFrame | dropper | focus | presentation | title =>
              exact ⟨Option.some_ne_none _, life.cons_other rfl nofun⟩

end TellsLife

/-- The parting of a surface tells once that it goes. -/
theorem Surface.parting_life (surface : Surface) :
    TellsLife surface.handle 1 0 surface.parting := by
  have gone : TellsLife surface.handle 1 0 [.surfaceLiveChanged surface.handle false] := by
    constructor
    · rfl
    · exact List.count_cons_self
  unfold parting
  split
  · exact gone.cons_other rfl nofun
  · exact gone

theorem SurfaceFate.life {input : Input} {roster : Roster} {handle : SurfaceHandle}
    {effects : List Effect} {after : Option Surface} {told : List ShellNotification}
    (fate : SurfaceFate input handle effects (roster.surface? handle) after told)
    (consistent : roster.Consistent) :
    TellsLife handle (presence (roster.surface? handle)) (presence after) told := by
  have known (surface : Surface) (found : roster.surface? handle = some surface) :=
    And.intro (consistent.live_of_surface? found) (consistent.handle_of_surface? found)
  generalize roster.surface? handle = before at fate known
  cases fate with
  | same => exact .nil handle _
  | arrive id asked =>
      constructor
      · simp [ShellNotification.adds, presence]
      · simp [presence]
  | touch surface asked =>
      obtain ⟨live, rfl⟩ := known surface rfl
      exact (TellsLife.of_story (Touch.tells live _ .shutdown) 1).2
  | handOver surface owner => exact .nil handle _
  | part surface whole =>
      obtain ⟨_, rfl⟩ := known surface rfl
      exact surface.parting_life

namespace Roster

variable {roster before after : Roster} {handle : SurfaceHandle}

theorem Consistent.presence_eq (consistent : roster.Consistent) (handle : SurfaceHandle) :
    presence (roster.surface? handle) = (roster.holder? handle).elim 0 fun _ => 1 := by
  cases held : roster.holder? handle with
  | none =>
      rw [consistent.holder?_eq_none_iff.1 held]
      rfl
  | some holder =>
      cases found : roster.surface? handle with
      | none =>
          rw [consistent.holder?_eq_none_iff.2 found] at held
          contradiction
      | some surface => rfl

theorem count_removed_callsDue (consistent : before.Consistent) (later : after.Consistent) :
    (callsDue before after handle).count (.removed handle) =
      presence (before.surface? handle) - presence (after.surface? handle) := by
  have unheard (holder : SessionView) (surface : SurfaceView) :
      (PolicyHook.ofHolder? holder surface).toList.count (.removed handle) = 0 := by
    rw [PolicyHook.ofHolder?]
    split <;> simp
  rw [consistent.presence_eq, later.presence_eq]
  cases held : after.holder? handle with
  | none =>
      cases former : before.holder? handle with
      | none =>
          rw [callsDue_of_same (held.trans former.symm)]
          rfl
      | some holder =>
          rw [callsDue_of_gone former held]
          exact List.count_cons_self
  | some holder =>
      have silent : (callsDue before after handle).count (.removed handle) = 0 := by
        by_cases same : before.holder? handle = some holder
        · rw [callsDue_of_same (held.trans same.symm)]
          rfl
        · rw [callsDue_of_new same held, unheard]
      rw [silent]
      cases before.holder? handle <;> rfl

/-- A session, as a policy sees it, exists and holds a live surface. -/
def Keeps (roster : Roster) (session : SessionView) (handle : SurfaceHandle) : Prop :=
  ∃ holder surface, roster.session? session.handle = some holder ∧ holder.view = session ∧
    holder.surface? handle = some surface ∧ surface.live = true

theorem Consistent.keeps (consistent : roster.Consistent) {session : SessionView}
    (held : roster.holder? handle = some session) : roster.Keeps session handle := by
  obtain ⟨holder, owned, rfl⟩ := Option.map_eq_some_iff.1 held
  obtain ⟨key, indexed, found⟩ := Option.bind_eq_some_iff.1 owned
  have member := consistent.mem_of_owners found indexed
  obtain ⟨surface, foundSurface⟩ := Session.exists_surface?_of_mem member
  have sound := consistent.sound key holder found
  refine ⟨holder, surface, ?_, rfl, foundSurface, ?_⟩
  · rw [← found, ← sound.handle]
    rfl
  · exact sound.live surface (Session.mem_of_surface?_eq_some foundSurface).1

end Roster

/-- The contract of the policy hooks, for an input that turns one roster into another. -/
structure HookContract (before after : Roster) (effects : List Effect) : Prop where
  /-- When the policy is told of a suspended session, the session is suspended and holds the
  surface, which is live. -/
  suspended : ∀ session surface, .suspended session surface ∈ Effect.hooks effects →
    session.state = .suspended ∧ surface.live = true ∧ after.Keeps session surface.handle
  /-- When the policy is told of a running session, the session runs and holds the surface, which
  is live. -/
  resumed : ∀ session surface, .resumed session surface ∈ Effect.hooks effects →
    session.state = .running ∧ surface.live = true ∧ after.Keeps session surface.handle
  /-- A session that comes into another state has the policy called about each surface that it
  holds, in the order held, and about no others. -/
  entered : ∀ key session target, before.session? key = some session →
    after.state? key = some target → target ≠ session.state →
    Effect.hooks effects = session.surfaces.filterMap fun surface =>
      PolicyHook.ofHolder? ⟨key, target⟩ surface.view
  /-- A surface that comes to be held by another session has the policy called about it, if the
  session is suspended or running, and about no others. -/
  joined : ∀ handle holder, after.holder? handle = some holder →
    (before.holder? handle).map (·.handle) ≠ some holder.handle →
    Effect.hooks effects = (PolicyHook.ofHolder? holder (before.view handle)).toList
  /-- A surface that goes has the policy called once. -/
  gone : ∀ handle, before.holder? handle ≠ none → after.holder? handle = none →
    (Effect.hooks effects).filter (·.surface = handle) = [.removed handle]
  /-- A surface that is held as before, and one that is not there, has no calls. -/
  unmoved : ∀ handle, after.holder? handle = before.holder? handle →
    ∀ call ∈ Effect.hooks effects, call.surface ≠ handle
  /-- The policy is told that a surface is gone as often as the shell is told that it is
  released. -/
  released : ∀ handle, (Effect.hooks effects).count (.removed handle) =
    (Effect.notifications effects).count (.surfaceLiveChanged handle false)

namespace Coordinator

variable {π : Type} {setup : Setup π} {state : Coordinator π} {input : Input}
  {key : SessionHandle} {handle : SurfaceHandle} {session : Session}

/-- What an input lets the world see tells how often a surface comes up and goes. -/
theorem handleInput_life (consistent : state.roster.Consistent) (setup : Setup π) (input : Input)
    (handle : SurfaceHandle) :
    TellsLife handle (presence (state.roster.surface? handle))
      (presence ((handleInput setup input state).state.roster.surface? handle))
      (Effect.notifications (handleInput setup input state).effects) := by
  apply TellsLife.of_toldOfSurface
  obtain ⟨move, moved, equal⟩ := handleInput_follows consistent setup input
  rw [equal]
  refine (consult_induction
    (fun past later => TellsLife handle (presence (state.roster.surface? handle))
      (presence (later.roster.surface? handle)) (Effect.toldOfSurface handle past))
    ?_ move.answer move.effects (moved.consistent consistent)
    ((moved.surfaceFate consistent handle).life consistent)).2
  intro past later owner other step consistent life consulted
  obtain ⟨requests, obeyed, told⟩ := consulted.surface_obeys consistent handle
  rw [Effect.toldOfSurface_append, told, obeyed]
  cases found : later.roster.surface? handle with
  | none =>
      rw [found] at life
      exact life.append (.nil handle 0)
  | some surface =>
      have named := consistent.handle_of_surface? found
      have story := obeyDropper_tells (consistent.live_of_surface? found) requests .shutdown
      rw [found] at life
      rw [Surface.Tells, named] at story
      exact life.append (TellsLife.of_story story 1).2

/-- The policy hears that a surface is gone once if it goes, and not at all otherwise. -/
theorem handleInput_removed (consistent : state.roster.Consistent) (setup : Setup π)
    (input : Input) (handle : SurfaceHandle) :
    (Effect.hooks (handleInput setup input state).effects).count (.removed handle) =
      presence (state.roster.surface? handle) -
        presence ((handleInput setup input state).state.roster.surface? handle) := by
  rw [← Roster.count_removed_callsDue consistent (handleInput_consistent consistent setup input),
    ← handleInput_calls consistent setup input handle, List.count_filter]
  exact decide_eq_true rfl

/-- A call about a surface that is not gone shows who holds it in the end, and that it is live. -/
theorem handleInput_sound (consistent : state.roster.Consistent) (setup : Setup π) (input : Input)
    {call : PolicyHook} {session : SessionView} {surface : SurfaceView}
    (called : call ∈ Effect.hooks (handleInput setup input state).effects)
    (shown : call.shown? = some (session, surface)) :
    PolicyHook.ofHolder? session surface = some call ∧ surface.live = true ∧
      (handleInput setup input state).state.roster.Keeps session surface.handle := by
  have later := handleInput_consistent consistent setup input
  have due : call ∈ Roster.callsDue state.roster (handleInput setup input state).state.roster
      call.surface := by
    rw [← handleInput_calls consistent setup input call.surface]
    exact List.mem_filter.2 ⟨called, decide_eq_true rfl⟩
  rcases Roster.mem_callsDue due with gone | ⟨holder, held, asked⟩
  · rw [gone] at shown
    contradiction
  · have about := PolicyHook.surface_of_holder asked
    cases (PolicyHook.shown?_of_holder asked).symm.trans shown
    have keeps := later.keeps held
    rw [about] at keeps
    exact ⟨asked, consistent.live_view call.surface, keeps⟩

/-- Every input honors the contract. -/
theorem handleInput_contract (consistent : state.roster.Consistent) (setup : Setup π)
    (input : Input) :
    HookContract state.roster (handleInput setup input state).state.roster
      (handleInput setup input state).effects where
  suspended session surface called := by
    obtain ⟨asked, live, keeps⟩ := handleInput_sound consistent setup input called rfl
    rcases PolicyHook.shows_holder asked with ⟨suspended, _⟩ | ⟨_, impossible⟩
    · exact ⟨suspended, live, keeps⟩
    · contradiction
  resumed session surface called := by
    obtain ⟨asked, live, keeps⟩ := handleInput_sound consistent setup input called rfl
    rcases PolicyHook.shows_holder asked with ⟨_, impossible⟩ | ⟨running, _⟩
    · contradiction
    · exact ⟨running, live, keeps⟩
  entered key session target found entered new :=
    handleInput_entered consistent setup input found entered new
  joined handle holder held new := handleInput_joined consistent setup input held new
  gone handle held gone := by
    obtain ⟨holder, former⟩ := Option.ne_none_iff_exists'.1 held
    rw [handleInput_calls consistent, Roster.callsDue_of_gone former gone]
  unmoved handle same call called about := by
    have due := handleInput_calls consistent setup input handle
    rw [Roster.callsDue_of_same same] at due
    exact List.filter_eq_nil_iff.1 due call called (decide_eq_true about)
  released handle := by
    rw [handleInput_removed consistent, (handleInput_life consistent setup input handle).released]

/-- Over a run the policy hears as often that a surface is gone as it came up, unless it is still
there. -/
theorem after_removed (setup : Setup π) (moments : List Moment) (handle : SurfaceHandle) :
    (Effect.hooks (effectsOf setup moments)).count (.removed handle) +
        presence ((after setup moments).roster.surface? handle) =
      (Effect.notifications (effectsOf setup moments)).countP (·.adds handle) := by
  refine (run_induction setup (fun past state => state.roster.Consistent ∧
    (Effect.hooks past).count (.removed handle) + presence (state.roster.surface? handle) =
      (Effect.notifications past).countP (·.adds handle))
    ⟨Roster.empty_consistent, rfl⟩ ?_ moments).2
  rintro past state moment ⟨consistent, balanced⟩
  constructor
  · exact handleInput_consistent consistent _ _
  · have removed := handleInput_removed consistent (setup.amid moment.surroundings) moment.input
      handle
    have added := (handleInput_life consistent (setup.amid moment.surroundings) moment.input
      handle).added
    rw [Effect.hooks_append, List.count_append, removed, Effect.notifications_append,
      List.countP_append, added, ← balanced]
    omega

/-- The contract of the policy hooks, for every run and whatever the policy. Each further input
honors the contract, and a creation that is refused makes no calls. The policy heard as often that
a surface is gone as the shell was told that it came up, less the one time if it is still there. -/
theorem hook_contract (setup : Setup π) (moments : List Moment) :
    let state := after setup moments
    (∀ moment : Moment,
      let step := handleInput (setup.amid moment.surroundings) moment.input state
      HookContract state.roster step.state.roster step.effects) ∧
    (∀ surroundings handle key title chrome requested, state.roster.Refuses handle key →
      Effect.hooks (handleInput (setup.amid surroundings)
        (.event (.surfaceCreated handle key title chrome requested)) state).effects = []) ∧
    ∀ handle, (Effect.hooks (effectsOf setup moments)).count (.removed handle) +
        presence (state.roster.surface? handle) =
      (Effect.notifications (effectsOf setup moments)).countP (·.adds handle) := by
  intro state
  refine ⟨?_, ?_, after_removed setup moments⟩
  · intro moment
    exact handleInput_contract (after_consistent setup moments) _ _
  · intro surroundings handle key title chrome requested refused
    rw [handleInput, handleEvent, addSurface_of_refused refused]
    rfl

end Coordinator

end AppLifecycle
