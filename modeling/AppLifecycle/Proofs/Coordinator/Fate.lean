import AppLifecycle.Proofs.Coordinator.Ownership
import AppLifecycle.Proofs.Roster.Parting

/-!
# What becomes of one session and of one surface

A move changes many things at once. Seen from one session or one surface it is one of a few turns
of fate, and each comes with what is told of it. Later modules that follow one session or one
surface through a run go by these.
-/

namespace AppLifecycle

namespace Roster

variable {α : Type} {roster : Roster} {handle other : SurfaceHandle} {key : SessionHandle}
  {act : Surface → Step Surface α}

theorem toldOfSurface_onSurface (discreet : Surface.Discreet act)
    (consistent : roster.Consistent) :
    Effect.toldOfSurface other (roster.onSurface handle act).effects =
      if other = handle then
        ((roster.surface? handle).map fun surface =>
          Effect.notifications (act surface).effects).getD []
      else [] := by
  rw [effects_onSurface consistent]
  cases found : roster.surface? handle with
  | none => simp
  | some surface =>
      simp only [Option.map_some, Option.getD_some]
      rw [discreet.toldOfSurface, consistent.handle_of_surface? found]

theorem toldOfSession_onSurface (discreet : Surface.Discreet act)
    (consistent : roster.Consistent) :
    Effect.toldOfSession key (roster.onSurface handle act).effects = [] := by
  rw [effects_onSurface consistent]
  cases roster.surface? handle with
  | none => rfl
  | some surface => exact discreet.toldOfSession surface key

/-- The state of a session. -/
def state? (roster : Roster) (key : SessionHandle) : Option SessionState :=
  (roster.session? key).map (·.state)

theorem state?_of_session? {session : Session} (found : roster.session? key = some session) :
    roster.state? key = some session.state := by
  rw [state?, found, Option.map_some]

theorem state?_eq_none_iff : roster.state? key = none ↔ roster.session? key = none :=
  Option.map_eq_none_iff

theorem state?_onSurface : (roster.onSurface handle act).state.state? key = roster.state? key := by
  apply map_session?_onSurface
  intro session
  unfold Session.onSurface
  split <;> rfl

theorem state?_put {session : Session} {other : SessionHandle} :
    (roster.put key session).state? other =
      if other = key then some session.state else roster.state? other := by
  rw [state?, session?_put]
  split <;> rfl

theorem state?_enroll {pid : UInt32} {appId : String} {other : SessionHandle} :
    (roster.enroll key pid appId).state? other =
      if other = key then some .starting else roster.state? other := by
  rw [state?, session?_enroll]
  split <;> rfl

theorem state?_discard {session : Session} {other : SessionHandle} :
    (roster.discard key session).state? other =
      if other = key then none else roster.state? other := by
  rw [state?, session?_discard]
  split <;> rfl

theorem state?_removeAll : roster.removeAll.state.state? key = none :=
  state?_eq_none_iff.2 session?_removeAll

theorem state?_deliver {receiver : Session} {surface : Surface} {other : SessionHandle}
    (found : roster.session? key = some receiver) :
    (roster.deliver key receiver surface).state? other = roster.state? other := by
  rw [state?, session?_deliver]
  split
  · rename_i equal
    rw [equal, state?, found, Session.adopt]
    split <;> rfl
  · rfl

theorem state?_collect {giver : Session} {other : SessionHandle}
    (found : roster.session? key = some giver) :
    (roster.collect key giver handle).state? other = roster.state? other := by
  rw [state?, session?_collect]
  split
  · rename_i equal
    rw [equal, state?, found]
    rfl
  · rfl

theorem state?_handOver {giver receiver : Session} {target other : SessionHandle}
    {surface : Surface} (found : roster.session? key = some giver)
    (foundTarget : roster.session? target = some receiver) (different : key ≠ target) :
    ((roster.collect key giver handle).deliver target receiver surface).state? other =
      roster.state? other :=
  (state?_deliver (session?_collect_target foundTarget different)).trans (state?_collect found)

end Roster

namespace Setup

variable {π : Type} {setup : Setup π} {lock : WakeLock} {key : SessionHandle}

theorem wake_ofLock : ∀ effect ∈ (setup.wake key lock).effects, effect.OfLock := by
  unfold wake
  split
  · exact WakeLock.acquire_ofLock
  · simp [Step.quiet]

theorem rest_ofLock : ∀ effect ∈ (setup.rest key lock).effects, effect.OfLock :=
  WakeLock.release_ofLock

theorem lockAt_ofLock {session : Session} {target : SessionState} :
    ∀ effect ∈ (setup.lockAt session key target lock).effects, effect.OfLock := by
  cases target with
  | running =>
      simp only [lockAt]
      split
      · simp [Step.quiet]
      · exact wake_ofLock
  | suspended => exact rest_ofLock
  | starting | suspending | stopped => simp [lockAt, Step.quiet]

theorem lockJoined_ofLock {session : Session} :
    ∀ effect ∈ (setup.lockJoined session key lock).effects, effect.OfLock := by
  unfold lockJoined
  split
  · exact wake_ofLock
  · simp [Step.quiet]

end Setup

/-- The touches that an input asks for. The focus may be taken from any surface as another one is
given it. -/
inductive Input.Touches : Input → Touch → SurfaceHandle → Prop where
  | asked {input : Input} {touch : Touch} {handle : SurfaceHandle}
      (asked : input.touch? = some (touch, handle)) : Touches input touch handle
  | focus (next handle : SurfaceHandle) (focused : Bool) :
      Touches (.command (.focusSurface next)) (.focus focused) handle

/-- What a move with some effects can do to a surface, and what is told of it. -/
inductive SurfaceFate (input : Input) (handle : SurfaceHandle) (effects : List Effect) :
    Option Surface → Option Surface → List ShellNotification → Prop where
  | same (found : Option Surface) : SurfaceFate input handle effects found found []
  | arrive {key : SessionHandle} {title : String} {chrome : ChromeLevel}
      {requested : Option SurfaceId} (id : SurfaceId)
      (asked : input = .event (.surfaceCreated handle key title chrome requested)) :
      SurfaceFate input handle effects none (some (.create handle key id title chrome))
        [.surfaceAdded handle key]
  | touch {touch : Touch} (surface : Surface) (asked : input.Touches touch handle) :
      SurfaceFate input handle effects (some surface) (some (touch.act surface).state)
        (Effect.notifications (touch.act surface).effects)
  | handOver (surface : Surface) (owner : SessionHandle) :
      SurfaceFate input handle effects (some surface) (some { surface with owner := owner }) []
  | part (surface : Surface) (whole : surface.parting <:+: Effect.notifications effects) :
      SurfaceFate input handle effects (some surface) none surface.parting

/-- What a move with some effects can do to a session as far as its state goes, and what is told
of it. -/
inductive SessionFate (key : SessionHandle) (effects : List Effect) :
    Option Session → Option Session → List ShellNotification → Prop where
  | same {before after : Option Session} (unmoved : after.map (·.state) = before.map (·.state)) :
      SessionFate key effects before after []
  | enroll {session : Session} (appId : String) (starting : session.state = .starting) :
      SessionFate key effects none (some session) [.sessionAdded key appId]
  | advance {op : LifecycleOp} {session : Session} {target : SessionState}
      (edge : op.target? session.state = some target) :
      SessionFate key effects (some session) (some { session with state := target })
        [.sessionStateChanged key target]
  /-- The session takes a surface in that comes up. -/
  | adopt {session later : Session} (handle : SurfaceHandle) (active : session.state ≠ .stopped)
      (unmoved : later.state = session.state) :
      SessionFate key effects (some session) (some later) [.surfaceAdded handle key]
  | part {session : Session} (active : session.state ≠ .stopped)
      (whole : session.parting <:+: Effect.notifications effects) :
      SessionFate key effects (some session) none
        [.sessionStateChanged key .stopped, .sessionRemoved key]

theorem SurfaceFate.of_parts {input : Input} {handle : SurfaceHandle}
    {before after : Option Surface} {told : List ShellNotification} {effects : List Effect}
    (parts : Roster.Parts Surface.parting Surface.parting before after told effects) :
    SurfaceFate input handle effects before after told := by
  rcases parts with ⟨rfl, rfl⟩ | ⟨surface, rfl, rfl, rfl, whole⟩
  · exact .same _
  · exact .part surface whole

theorem SessionFate.of_parts {roster : Roster} {key : SessionHandle} {after : Option Session}
    {told : List ShellNotification} {effects : List Effect} (consistent : roster.Consistent)
    (parts : Roster.Parts Roster.lastWords Session.parting (roster.session? key) after told
      effects) :
    SessionFate key effects (roster.session? key) after told := by
  rcases parts with ⟨rfl, rfl⟩ | ⟨session, found, rfl, rfl, whole⟩
  · exact .same rfl
  · have sound := consistent.sound key session found
    rw [found, Roster.lastWords, sound.handle]
    exact .part sound.active whole

/-- A touch in its course. -/
theorem SurfaceFate.onSurface {input : Input} {roster : Roster} {touch : Touch}
    {handle other : SurfaceHandle} {effects : List Effect} (consistent : roster.Consistent)
    (asked : other = handle → input.Touches touch handle) :
    SurfaceFate input other effects (roster.surface? other)
      ((roster.onSurface handle touch.act).state.surface? other)
      (Effect.toldOfSurface other (roster.onSurface handle touch.act).effects) := by
  rw [Roster.surface?_onSurface touch.act_gentle consistent,
    Roster.toldOfSurface_onSurface touch.act_discreet consistent]
  by_cases equal : other = handle
  · have asked := asked equal
    subst equal
    simp only [if_true]
    cases roster.surface? other with
    | none => exact .same none
    | some surface => exact .touch surface asked
  · simp only [equal, if_false]
    exact .same _

namespace Coordinator

variable {π : Type} {setup : Setup π} {state : Coordinator π} {input : Input}
  {key : SessionHandle} {handle : SurfaceHandle}

@[simp]
theorem toldOfSurface_obituaries (handles : List SurfaceHandle) :
    Effect.toldOfSurface handle (obituaries handles) = [] := by
  apply Effect.toldOfSurface_eq_nil
  simp [obituaries]

@[simp]
theorem toldOfSession_obituaries (handles : List SurfaceHandle) :
    Effect.toldOfSession key (obituaries handles) = [] := by
  apply Effect.toldOfSession_eq_nil
  simp [obituaries]

/-! ## Sessions -/

theorem toldOfSession_unfocus (consistent : state.roster.Consistent) (next : SurfaceHandle) :
    Effect.toldOfSession key (state.unfocus next).effects = [] := by
  unfold unfocus
  split
  · exact Roster.toldOfSession_onSurface (Touch.act_discreet _) consistent
  · rfl

theorem state?_unfocus (state : Coordinator π) (next : SurfaceHandle) :
    (state.unfocus next).state.state? key = state.roster.state? key := by
  unfold unfocus
  split
  · exact Roster.state?_onSurface
  · rfl

theorem Move.sessionFate {move : Step (Coordinator π) Consultations}
    (moved : Move setup state input move) (consistent : state.roster.Consistent)
    (other : SessionHandle) :
    SessionFate other move.effects (state.roster.session? other)
      (move.state.roster.session? other) (Effect.toldOfSession other move.effects) := by
  cases moved with
  | still => exact .same rfl
  | refuse refused => exact .same rfl
  | @enroll key pid reported appId absent =>
      simp only [Roster.session?_enroll, Effect.toldOfSession_notify, ShellNotification.session?,
        Option.some.injEq]
      by_cases equal : other = key
      · subst equal
        simp only [if_true, absent]
        exact .enroll appId rfl
      · simp only [equal, Ne.symm equal, if_false]
        exact .same rfl
  | @advance input op key session target asked found edge active willing =>
      simp only [Roster.session?_put, Effect.toldOfSession_notify,
        Effect.toldOfSession_ofLock Setup.lockAt_ofLock, ShellNotification.session?,
        Option.some.injEq]
      by_cases equal : other = key
      · subst equal
        simp only [if_true, found]
        exact .advance edge
      · simp only [equal, Ne.symm equal, if_false]
        exact .same rfl
  | finish asked found =>
      simp only [Effect.toldOfSession_append, toldOfSession_obituaries,
        Effect.toldOfSession_ofLock Setup.rest_ofLock, List.append_nil]
      exact .of_parts consistent
        (((Roster.session_parts_farewell consistent found).weaken _).weaken _)
  | @arrive handle key title chrome requested session absent found =>
      have fresh : (Surface.create handle key (state.surfaceIds.name requested handle).2 title
          chrome).handle ∉ session.surfaceHandles := consistent.not_mem_of_absent absent found
      simp only [Roster.session?_deliver, Effect.toldOfSession_notify,
        Effect.toldOfSession_ofLock Setup.lockJoined_ofLock, ShellNotification.session?,
        Option.some.injEq]
      by_cases equal : other = key
      · subst equal
        simp only [if_true, found, Session.adopt_of_not_mem fresh]
        exact .adopt handle (consistent.sound other session found).active rfl
      · simp only [equal, Ne.symm equal, if_false]
        exact .same rfl
  | @depart handle key session surface found held =>
      simp only [Roster.session?_collect, Effect.toldOfSession_append,
        toldOfSession_obituaries, Surface.markReleased_discreet.toldOfSession, List.append_nil]
      by_cases equal : other = key
      · subst equal
        simp only [if_true, found]
        exact .same rfl
      · simp only [equal, if_false]
        exact .same rfl
  | @handOver handle key target session receiver surface found held foundTarget different =>
      have fresh := consistent.not_mem_of_held found held foundTarget different
      simp only [Roster.session?_deliver, Roster.session?_collect,
        Effect.toldOfSession_ofLock Setup.lockJoined_ofLock]
      by_cases receives : other = target
      · simp only [receives, if_true, foundTarget, Session.adopt_of_not_mem fresh]
        exact .same rfl
      · by_cases gives : other = key
        · subst gives
          simp only [receives, if_false, if_true, found]
          exact .same rfl
        · simp only [receives, gives, if_false]
          exact .same rfl
  | @focus handle surface found =>
      simp only [Effect.toldOfSession_append, toldOfSession_unfocus consistent, List.nil_append,
        Roster.toldOfSession_onSurface (Touch.act_discreet _) (unfocus_consistent consistent _)]
      exact .same (Roster.state?_onSurface.trans (state?_unfocus state handle))
  | touch asked =>
      simp only [Roster.toldOfSession_onSurface (Touch.act_discreet _) consistent]
      exact .same Roster.state?_onSurface
  | shutdown =>
      simp only [Effect.toldOfSession_append, toldOfSession_obituaries,
        Effect.toldOfSession_ofLock WakeLock.releaseAll_ofLock, List.append_nil]
      exact .of_parts consistent
        (((Roster.session_parts_removeAll consistent).weaken _).weaken _)

/-! ## Surfaces -/

theorem unfocus_next (consistent : state.roster.Consistent) (next : SurfaceHandle) :
    (state.unfocus next).state.surface? next = state.roster.surface? next ∧
      Effect.toldOfSurface next (state.unfocus next).effects = [] := by
  unfold unfocus
  cases former : state.focused.filter (· ≠ next) with
  | none => exact ⟨rfl, rfl⟩
  | some holder =>
      obtain ⟨_, different⟩ := Option.filter_eq_some_iff.1 former
      have different : next ≠ holder := Ne.symm (of_decide_eq_true different)
      simp only [Step.answering, Roster.surface?_onSurface (Touch.act_gentle _) consistent,
        Roster.toldOfSurface_onSurface (Touch.act_discreet _) consistent, different, if_false]
      exact ⟨trivial, trivial⟩

theorem surfaceFate_unfocus (consistent : state.roster.Consistent)
    (next other : SurfaceHandle) {effects : List Effect} :
    SurfaceFate (.command (.focusSurface next)) other effects (state.roster.surface? other)
      ((state.unfocus next).state.surface? other)
      (Effect.toldOfSurface other (state.unfocus next).effects) := by
  unfold unfocus
  split
  · exact .onSurface consistent fun _ => .focus next _ false
  · exact .same _

theorem Move.surfaceFate {move : Step (Coordinator π) Consultations}
    (moved : Move setup state input move) (consistent : state.roster.Consistent)
    (other : SurfaceHandle) :
    SurfaceFate input other move.effects (state.roster.surface? other)
      (move.state.roster.surface? other) (Effect.toldOfSurface other move.effects) := by
  cases moved with
  | still => exact .same _
  | refuse refused => exact .same _
  | @enroll key pid reported appId absent =>
      simp only [Roster.surface?_enroll consistent absent, Effect.toldOfSurface_notify,
        ShellNotification.surface?, reduceCtorEq, if_false]
      exact .same _
  | advance asked found edge active willing =>
      simp only [Roster.surface?_move consistent found active, Effect.toldOfSurface_notify,
        Effect.toldOfSurface_ofLock Setup.lockAt_ofLock, ShellNotification.surface?, reduceCtorEq,
        if_false]
      exact .same _
  | finish asked found =>
      simp only [Effect.toldOfSurface_append, toldOfSurface_obituaries,
        Effect.toldOfSurface_ofLock Setup.rest_ofLock, List.append_nil]
      exact .of_parts (((Roster.surface_parts_farewell consistent found).weaken _).weaken _)
  | @arrive handle key title chrome requested session absent found =>
      simp only [Effect.toldOfSurface_notify, Effect.toldOfSurface_ofLock Setup.lockJoined_ofLock,
        ShellNotification.surface?, Option.some.injEq]
      have delivered : (state.roster.deliver key session (.create handle key
            (state.surfaceIds.name requested handle).2 title chrome)).surface? other =
          if other = handle then
            some (.create handle key (state.surfaceIds.name requested handle).2 title chrome)
          else state.roster.surface? other := Roster.surface?_deliver consistent found absent rfl
      rw [delivered]
      by_cases equal : other = handle
      · subst equal
        rw [if_pos rfl, if_pos rfl, consistent.surface?_eq_none_iff.2 absent]
        exact .arrive _ rfl
      · rw [if_neg equal, if_neg (Ne.symm equal)]
        exact .same _
  | @depart handle key session surface found held =>
      have member := Session.mem_surfaceHandles_of_surface? held
      have surfaceHeld := Session.mem_of_surface?_eq_some held
      have live := (consistent.sound key session found).live surface surfaceHeld.1
      simp only [Roster.surface?_collect consistent found member, Effect.toldOfSurface_append,
        toldOfSurface_obituaries, Surface.markReleased_discreet.toldOfSurface, surfaceHeld.2,
        Surface.notifications_markReleased live, List.append_nil]
      by_cases equal : other = handle
      · rw [if_pos equal, if_pos equal, equal, consistent.surface?_of_mem found member, held]
        refine .part surface ?_
        rw [Effect.notifications_append, Surface.notifications_markReleased live]
        exact (List.prefix_append ..).isInfix
      · rw [if_neg equal, if_neg equal]
        exact .same _
  | @handOver handle key target session receiver surface found held foundTarget different =>
      simp only [Roster.surface?_handOver consistent found held foundTarget different,
        Effect.toldOfSurface_ofLock Setup.lockJoined_ofLock]
      by_cases equal : other = handle
      · have member := Session.mem_surfaceHandles_of_surface? held
        rw [if_pos equal, equal, consistent.surface?_of_mem found member, held]
        exact .handOver surface target
      · rw [if_neg equal]
        exact .same _
  | @focus handle surface found =>
      have unfocused := unfocus_consistent consistent handle
      simp only [Effect.toldOfSurface_append]
      by_cases equal : other = handle
      · subst equal
        obtain ⟨unmoved, silent⟩ := unfocus_next consistent other
        rw [silent, ← unmoved]
        exact .onSurface unfocused fun _ => .focus other _ true
      · -- Only the former holder can be another surface that is touched.
        rw [Roster.surface?_onSurface (Touch.act_gentle _) unfocused,
          Roster.toldOfSurface_onSurface (Touch.act_discreet _) unfocused, if_neg equal,
          if_neg equal, List.append_nil]
        exact surfaceFate_unfocus consistent handle other
  | touch asked => exact .onSurface consistent fun _ => .asked asked
  | shutdown =>
      simp only [Effect.toldOfSurface_append, toldOfSurface_obituaries,
        Effect.toldOfSurface_ofLock WakeLock.releaseAll_ofLock, List.append_nil]
      exact .of_parts (((Roster.surface_parts_removeAll consistent).weaken _).weaken _)

/-! ## Consultations -/

theorem obeyDropper_discreet (requests : List DropperRequest) :
    Surface.Discreet (obeyDropper requests) := by
  induction requests with
  | nil =>
      intro surface effect member
      exact absurd member List.not_mem_nil
  | cons request rest ih =>
      have first := Touch.act_discreet (.ofRequest request)
      have both := first.andThen (Touch.act_gentle _) ih
      intro surface
      rw [obeyDropper_cons]
      exact both surface

variable {step : Step (Coordinator π) Unit}

/-- A consultation leaves the states of the sessions alone, and tells nothing of them. -/
theorem Consulted.sessions_unmoved (consulted : Consulted setup state key handle step)
    (consistent : state.roster.Consistent) (other : SessionHandle) :
    step.state.roster.state? other = state.roster.state? other ∧
      Effect.toldOfSession other step.effects = [] := by
  rcases consulted.silent_or_heed with rfl | ⟨occasion, decision, rfl⟩
  · exact ⟨rfl, rfl⟩
  · exact ⟨Roster.state?_onSurface,
      Roster.toldOfSession_onSurface (obeyDropper_discreet _) consistent⟩

/-- All that a consultation does to a surface is to start or stop its dropper. -/
theorem Consulted.surface_obeys (consulted : Consulted setup state key handle step)
    (consistent : state.roster.Consistent) (other : SurfaceHandle) :
    ∃ requests,
      step.state.roster.surface? other =
        (state.roster.surface? other).map (fun surface => (obeyDropper requests surface).state) ∧
      Effect.toldOfSurface other step.effects =
        ((state.roster.surface? other).map fun surface =>
          Effect.notifications (obeyDropper requests surface).effects).getD [] := by
  have alone : ∃ requests, state.roster.surface? other =
        (state.roster.surface? other).map (fun surface => (obeyDropper requests surface).state) ∧
      [] = ((state.roster.surface? other).map fun surface =>
        Effect.notifications (obeyDropper requests surface).effects).getD [] := by
    refine ⟨[], ?_⟩
    cases state.roster.surface? other with
    | none => exact ⟨rfl, rfl⟩
    | some surface => exact ⟨rfl, rfl⟩
  rcases consulted.silent_or_heed with rfl | ⟨occasion, decision, rfl⟩
  · exact alone
  · have told : Effect.toldOfSurface other (state.heed handle occasion decision).effects =
        Effect.toldOfSurface other
          (state.roster.onSurface handle (obeyDropper decision.2)).effects := rfl
    rw [told, Roster.toldOfSurface_onSurface (obeyDropper_discreet _) consistent,
      show (state.heed handle occasion decision).state.roster =
        (state.roster.onSurface handle (obeyDropper decision.2)).state from rfl,
      Roster.surface?_onSurface (obeyDropper_gentle _) consistent]
    by_cases equal : other = handle
    · subst equal
      rw [if_pos rfl, if_pos rfl]
      exact ⟨decision.2, rfl, rfl⟩
    · rw [if_neg equal, if_neg equal]
      exact alone

/-- Consultations leave the states of the sessions and the index alone. -/
theorem consult_unmoved (setup : Setup π) (consistent : state.roster.Consistent)
    (pending : Consultations) :
    (∀ key, (consult setup pending state).state.roster.state? key = state.roster.state? key) ∧
      (consult setup pending state).state.roster.owners = state.roster.owners := by
  refine (consult_induction
    (fun _ later => (∀ key, later.roster.state? key = state.roster.state? key) ∧
      later.roster.owners = state.roster.owners)
    ?_ pending [] consistent ⟨fun _ => rfl, rfl⟩).2
  rintro past later key handle step consistent ⟨states, owners⟩ consulted
  constructor
  · intro other
    exact (consulted.sessions_unmoved consistent other).1.trans (states other)
  · exact consulted.owners.trans owners

/-- Consultations remove nothing. -/
theorem consult_keeps (setup : Setup π) (consistent : state.roster.Consistent)
    (pending : Consultations) :
    (∀ key, (consult setup pending state).state.roster.session? key = none →
      state.roster.session? key = none) ∧
    ∀ handle, (consult setup pending state).state.roster.surface? handle = none →
      state.roster.surface? handle = none := by
  obtain ⟨states, owners⟩ := consult_unmoved setup consistent pending
  have later : (consult setup pending state).state.roster.Consistent :=
    (consult_induction (fun _ _ => True) (fun _ _ _ _ _ _ _ _ => trivial) pending [] consistent
      trivial).1
  constructor
  · intro key gone
    have unmoved := states key
    rw [Roster.state?, gone] at unmoved
    exact Roster.state?_eq_none_iff.1 unmoved.symm
  · intro handle gone
    rw [later.surface?_eq_none_iff, owners] at gone
    exact consistent.surface?_eq_none_iff.2 gone

end Coordinator

end AppLifecycle
