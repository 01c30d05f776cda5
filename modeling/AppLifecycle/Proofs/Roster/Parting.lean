import AppLifecycle.Proofs.Roster.SessionLife
import AppLifecycle.Proofs.Subject

/-!
# What is told of those that go

A surface that goes loses the focus, if it had it, and is live no more. A session that goes
stops, parts with its surfaces in the order held, and is gone; nothing else is told in between.
Where all sessions end, each one parts in this way.
-/

namespace AppLifecycle

namespace Surface

/-- What the shell is told as a live surface is released. -/
def parting (surface : Surface) : List ShellNotification :=
  (if surface.focused then [.surfaceFocusChanged surface.handle false] else []) ++
    [.surfaceLiveChanged surface.handle false]

variable {surface : Surface}

theorem notifications_markReleased (live : surface.live = true) :
    Effect.notifications surface.markReleased.effects = surface.parting := by
  simp only [markReleased, live, if_true, parting]
  cases surface.focused <;> rfl

theorem session?_of_mem_parting {notification : ShellNotification}
    (member : notification ∈ surface.parting) : notification.session? = none := by
  rcases List.mem_append.1 member with early | late
  · split at early
    · rw [List.mem_singleton.1 early]
      rfl
    · simp at early
  · rw [List.mem_singleton.1 late]
    rfl

theorem filter_parting (surface : Surface) (handle : SurfaceHandle) :
    surface.parting.filter (fun notification => notification.surface? = some handle) =
      if surface.handle = handle then surface.parting else [] := by
  unfold parting
  cases surface.focused <;> by_cases equal : surface.handle = handle <;>
    simp [ShellNotification.surface?, equal]

end Surface

namespace Session

/-- What the shell is told as a session ends. -/
def parting (session : Session) : List ShellNotification :=
  .sessionStateChanged session.handle .stopped ::
    (session.surfaces.flatMap Surface.parting ++ [.sessionRemoved session.handle])

variable {session : Session} {key : SessionHandle} {handle : SurfaceHandle}

/-- Of several partings one about a surface is that of the surface of its handle. -/
private theorem filter_flatMap_parting {surfaces : List Surface}
    (distinct : (surfaces.map (·.handle)).Nodup) :
    (surfaces.flatMap Surface.parting).filter
        (fun notification => notification.surface? = some handle) =
      ((surfaces.find? fun surface => surface.handle = handle).map Surface.parting).getD [] := by
  induction surfaces with
  | nil => rfl
  | cons first rest ih =>
      rw [List.map_cons, List.nodup_cons] at distinct
      rw [List.flatMap_cons, List.filter_append, Surface.filter_parting, ih distinct.2]
      by_cases equal : first.handle = handle
      · simp [equal, find?_behind distinct.1 equal]
      · simp [equal]

theorem toldOfSurface_parting (distinct : session.surfaceHandles.Nodup) :
    session.parting.filter (fun notification => notification.surface? = some handle) =
      ((session.surface? handle).map Surface.parting).getD [] := by
  have middle : (session.surfaces.flatMap Surface.parting).filter
      (fun notification => notification.surface? = some handle) =
      ((session.surface? handle).map Surface.parting).getD [] :=
    filter_flatMap_parting distinct
  rw [parting, List.filter_cons_of_neg (by simp [ShellNotification.surface?]),
    List.filter_append, middle]
  simp [ShellNotification.surface?]

theorem toldOfSession_parting :
    session.parting.filter (fun notification => notification.session? = some key) =
      if session.handle = key then
        [.sessionStateChanged session.handle .stopped, .sessionRemoved session.handle]
      else [] := by
  have middle : (session.surfaces.flatMap Surface.parting).filter
      (fun notification => notification.session? = some key) = [] := by
    apply List.filter_eq_nil_iff.2
    intro notification member
    obtain ⟨surface, _, told⟩ := List.mem_flatMap.1 member
    simp [Surface.session?_of_mem_parting told]
  rw [parting, List.filter_cons, List.filter_append, middle]
  by_cases equal : session.handle = key <;> simp [ShellNotification.session?, equal]

/-- The parting of a surface is part of that of the session that holds it. -/
theorem parting_infix {surface : Surface} (member : surface ∈ session.surfaces) :
    surface.parting <:+: session.parting := by
  obtain ⟨before, after, split⟩ := List.append_of_mem member
  refine ⟨.sessionStateChanged session.handle .stopped :: before.flatMap Surface.parting,
    after.flatMap Surface.parting ++ [.sessionRemoved session.handle], ?_⟩
  simp [parting, split]

end Session

namespace Roster

variable {roster : Roster} {key other : SessionHandle} {session : Session}
  {handle : SurfaceHandle}

theorem notifications_farewell (sound : session.Sound key) :
    Effect.notifications (farewell key session) = session.parting := by
  have stopping : (session.apply .stop).effects =
      [.notify (.sessionStateChanged session.handle .stopped)] := by
    cases state : session.state with
    | stopped => exact absurd state sound.active
    | starting | running | suspending | suspended =>
        simp only [Session.apply, state, LifecycleOp.target?]
  have released : ∀ {surfaces : List Surface}, (∀ surface ∈ surfaces, surface.live = true) →
      Effect.notifications (surfaces.flatMap fun surface => surface.markReleased.effects) =
        surfaces.flatMap Surface.parting := by
    intro surfaces live
    induction surfaces with
    | nil => rfl
    | cons first rest ih =>
        rw [List.flatMap_cons, Effect.notifications_append, List.flatMap_cons,
          Surface.notifications_markReleased (live first (List.mem_cons_self ..)),
          ih fun surface member => live surface (List.mem_cons_of_mem _ member)]
  rw [farewell, Effect.notifications_append, Effect.notifications_append, stopping,
    released sound.live, Session.parting, sound.handle]
  rfl

theorem toldOfSurface_farewell (sound : session.Sound key) :
    Effect.toldOfSurface handle (farewell key session) =
      ((session.surface? handle).map Surface.parting).getD [] := by
  rw [Effect.toldOfSurface, notifications_farewell sound]
  exact Session.toldOfSurface_parting sound.distinct

theorem toldOfSession_farewell (sound : session.Sound key) :
    Effect.toldOfSession other (farewell key session) =
      if key = other then [.sessionStateChanged key .stopped, .sessionRemoved key] else [] := by
  rw [Effect.toldOfSession, notifications_farewell sound, Session.toldOfSession_parting,
    sound.handle]

/-! ## Sessions that end one after the other -/

/-- What becomes of something as effects are seen: it stays and nothing is told of it, or it goes
with its last words, as part of a parting told in one piece. -/
def Parts {α : Type} (lastWords parting : α → List ShellNotification) (before after : Option α)
    (told : List ShellNotification) (effects : List Effect) : Prop :=
  (after = before ∧ told = []) ∨
    ∃ item, before = some item ∧ after = none ∧ told = lastWords item ∧
      parting item <:+: Effect.notifications effects

theorem Parts.trans {α : Type} {lastWords parting : α → List ShellNotification}
    {first second third : Option α} {told toldNext : List ShellNotification}
    {effects effectsNext : List Effect}
    (left : Parts lastWords parting first second told effects)
    (right : Parts lastWords parting second third toldNext effectsNext) :
    Parts lastWords parting first third (told ++ toldNext) (effects ++ effectsNext) := by
  unfold Parts
  rw [Effect.notifications_append]
  rcases left with ⟨rfl, rfl⟩ | ⟨item, rfl, rfl, rfl, whole⟩
  · rcases right with ⟨rfl, rfl⟩ | ⟨item, rfl, rfl, rfl, whole⟩
    · exact .inl ⟨rfl, rfl⟩
    · exact .inr ⟨item, rfl, rfl, rfl, whole.trans (List.suffix_append ..).isInfix⟩
  · rcases right with ⟨rfl, rfl⟩ | ⟨again, impossible, _⟩
    · exact .inr ⟨item, rfl, rfl, List.append_nil _, whole.trans (List.prefix_append ..).isInfix⟩
    · contradiction

theorem Parts.gone {α : Type} {lastWords parting : α → List ShellNotification}
    {before after : Option α} {told : List ShellNotification} {effects : List Effect}
    (parts : Parts lastWords parting before after told effects) (gone : before = none) :
    after = none := by
  rcases parts with ⟨rfl, _⟩ | ⟨item, _, rfl, _⟩
  · exact gone
  · rfl

/-- What has gone was told of with its last words, if it was there. -/
theorem Parts.told_of_gone {α : Type} {lastWords parting : α → List ShellNotification}
    {before after : Option α} {told : List ShellNotification} {effects : List Effect}
    (parts : Parts lastWords parting before after told effects) (gone : after = none) :
    told = (before.map lastWords).getD [] := by
  rcases parts with ⟨rfl, rfl⟩ | ⟨item, rfl, _, rfl, _⟩
  · rw [gone]
    rfl
  · rfl

/-- What parts as effects are seen parts as more is seen that does not concern it. -/
theorem Parts.weaken {α : Type} {lastWords parting : α → List ShellNotification}
    {before after : Option α} {told : List ShellNotification} {effects : List Effect}
    (parts : Parts lastWords parting before after told effects) (more : List Effect) :
    Parts lastWords parting before after told (effects ++ more) := by
  have unmoved : Parts lastWords parting after after [] more := .inl ⟨rfl, rfl⟩
  have longer := parts.trans unmoved
  rwa [List.append_nil] at longer

/-- The last words about a session, its surfaces apart. -/
def lastWords (session : Session) : List ShellNotification :=
  [.sessionStateChanged session.handle .stopped, .sessionRemoved session.handle]

theorem surface_parts_farewell (consistent : roster.Consistent)
    (found : roster.session? key = some session) :
    Parts Surface.parting Surface.parting (roster.surface? handle)
      ((roster.discard key session).surface? handle)
      (Effect.toldOfSurface handle (farewell key session)) (farewell key session) := by
  have sound := consistent.sound key session found
  rw [surface?_discard consistent found, toldOfSurface_farewell sound]
  split
  · rename_i member
    obtain ⟨surface, held⟩ := Session.exists_surface?_of_mem member
    rw [consistent.surface?_of_mem found member, held]
    refine .inr ⟨surface, rfl, rfl, rfl, ?_⟩
    rw [notifications_farewell sound]
    exact Session.parting_infix (Session.mem_of_surface?_eq_some held).1
  · rename_i absent
    rw [Session.surface?_eq_none_iff.2 absent]
    exact .inl ⟨rfl, rfl⟩

theorem session_parts_farewell (consistent : roster.Consistent)
    (found : roster.session? key = some session) :
    Parts lastWords Session.parting (roster.session? other)
      ((roster.discard key session).session? other)
      (Effect.toldOfSession other (farewell key session)) (farewell key session) := by
  have sound := consistent.sound key session found
  rw [session?_discard, toldOfSession_farewell sound]
  by_cases equal : other = key
  · subst equal
    rw [if_pos rfl, if_pos rfl, found]
    have whole : Effect.notifications (farewell other session) = [] ++ session.parting ++ [] := by
      rw [notifications_farewell sound, List.nil_append, List.append_nil]
    exact .inr ⟨session, rfl, rfl, by rw [lastWords, sound.handle], [], [], whole.symm⟩
  · rw [if_neg equal, if_neg (Ne.symm equal)]
    exact .inl ⟨rfl, rfl⟩

/-- What parts as each session ends parts as they end one after the other. -/
private theorem parts_removeEach {α : Type} {look : Roster → Option α}
    {told : List Effect → List ShellNotification} {lastWords parting : α → List ShellNotification}
    (silent : told [] = [])
    (append : ∀ first second, told (first ++ second) = told first ++ told second)
    (ending : ∀ roster key session, roster.Consistent → roster.session? key = some session →
      Parts lastWords parting (look roster) (look (roster.discard key session))
        (told (farewell key session)) (farewell key session))
    (consistent : roster.Consistent) (keys : List SessionHandle) :
    Parts lastWords parting (look roster) (look (roster.removeEach keys).state)
      (told (roster.removeEach keys).effects) (roster.removeEach keys).effects := by
  induction keys generalizing roster with
  | nil => exact .inl ⟨rfl, silent⟩
  | cons key rest ih =>
      have first : Parts lastWords parting (look roster) (look (roster.removeSession key).state)
          (told (roster.removeSession key).effects) (roster.removeSession key).effects := by
        cases found : roster.session? key with
        | none =>
            rw [removeSession_of_absent found]
            exact .inl ⟨rfl, silent⟩
        | some session =>
            rw [state_removeSession found, effects_removeSession found]
            exact ending roster key session consistent found
      have all := first.trans (ih (consistent.removeSession key))
      rw [← append] at all
      exact all

theorem surface_parts_removeAll (consistent : roster.Consistent) :
    Parts Surface.parting Surface.parting (roster.surface? handle)
      (roster.removeAll.state.surface? handle)
      (Effect.toldOfSurface handle roster.removeAll.effects) roster.removeAll.effects := by
  rw [state_removeAll, effects_removeAll]
  exact parts_removeEach rfl Effect.toldOfSurface_append
    (fun _ _ _ consistent found => surface_parts_farewell consistent found) consistent _

theorem session_parts_removeAll (consistent : roster.Consistent) :
    Parts lastWords Session.parting (roster.session? other)
      (roster.removeAll.state.session? other)
      (Effect.toldOfSession other roster.removeAll.effects) roster.removeAll.effects := by
  rw [state_removeAll, effects_removeAll]
  exact parts_removeEach rfl Effect.toldOfSession_append
    (fun _ _ _ consistent found => session_parts_farewell consistent found) consistent _

end Roster

end AppLifecycle
