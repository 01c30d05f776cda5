import AppLifecycle.Proofs.Coordinator.DueCalls

/-!
# The calls of an input

The policy is called where surfaces are gone and where it is consulted, and nowhere else. Of the
calls of an input those about a surface are the ones that are due (`handleInput_calls`), and a
session that comes into a state has the policy called about its surfaces in the order held
(`handleInput_entered`).
-/

namespace AppLifecycle

/-! ## What calls the policy -/

namespace Effect

theorem hooks_eq_nil {effects : List Effect} (others : ∀ call, .hook call ∉ effects) :
    hooks effects = [] := by
  apply List.filterMap_eq_nil_iff.2
  intro effect member
  cases effect with
  | hook call => exact absurd member (others call)
  | notify | power => rfl

theorem hooks_ofLock {effects : List Effect} (ofLock : ∀ effect ∈ effects, OfLock effect) :
    hooks effects = [] := by
  apply hooks_eq_nil
  intro call member
  cases ofLock _ member

theorem hooks_notify (notification : ShellNotification) (rest : List Effect) :
    hooks (.notify notification :: rest) = hooks rest :=
  rfl

end Effect

theorem Surface.Discreet.hooks {α : Type} {act : Surface → Step Surface α} (discreet : Discreet act)
    (surface : Surface) : Effect.hooks (act surface).effects = [] := by
  apply Effect.hooks_eq_nil
  intro call member
  obtain ⟨_, same, _⟩ := discreet surface _ member
  cases same

namespace Roster

variable {α : Type} {roster : Roster} {key : SessionHandle} {session : Session}

theorem hooks_onSurface {act : Surface → Step Surface α} (discreet : Surface.Discreet act)
    (consistent : roster.Consistent) (handle : SurfaceHandle) :
    Effect.hooks (roster.onSurface handle act).effects = [] := by
  rw [effects_onSurface consistent]
  cases roster.surface? handle with
  | none => rfl
  | some surface => exact discreet.hooks surface

/-- The policy is not called before all that belongs to a session is released. -/
theorem hooks_farewell : Effect.hooks (farewell key session) = [] := by
  apply Effect.hooks_eq_nil
  intro call member
  rcases List.mem_append.1 member with early | late
  · rcases List.mem_append.1 early with stopped | released
    · unfold Session.apply at stopped
      split at stopped <;> simp [Step.quiet] at stopped
    · obtain ⟨surface, _, member⟩ := List.mem_flatMap.1 released
      obtain ⟨_, same, _⟩ := Surface.markReleased_discreet surface _ member
      cases same
  · simp at late

theorem hooks_removeEach (keys : List SessionHandle) :
    Effect.hooks (roster.removeEach keys).effects = [] := by
  induction keys generalizing roster with
  | nil => rfl
  | cons key rest ih =>
      have first : Effect.hooks (roster.removeSession key).effects = [] := by
        cases found : roster.session? key with
        | none =>
            rw [removeSession_of_absent found]
            rfl
        | some session =>
            rw [effects_removeSession found]
            exact hooks_farewell
      have later : Effect.hooks ((roster.removeSession key).state.removeEach rest).effects = [] :=
        ih
      rw [removeEach, Step.forEach, Step.andThen, Effect.hooks_append]
      exact List.append_eq_nil_iff.2 ⟨first, later⟩

theorem hooks_removeAll : Effect.hooks roster.removeAll.effects = [] := by
  rw [effects_removeAll]
  exact hooks_removeEach _

end Roster

/-! ## Calls of consultations -/

/-- What the policy is asked if it is consulted about a surface of a session. -/
def Roster.asked? (roster : Roster) (pair : SessionHandle × SurfaceHandle) : Option PolicyHook :=
  (roster.session? pair.1).bind fun session =>
    (session.surface? pair.2).bind fun surface =>
      PolicyHook.ofHolder? session.view surface.view

theorem Roster.asked?_of_held {roster : Roster} {key : SessionHandle} {handle : SurfaceHandle}
    {session : Session} {surface : Surface} (found : roster.session? key = some session)
    (held : session.surface? handle = some surface) :
    roster.asked? (key, handle) = PolicyHook.ofHolder? session.view surface.view := by
  rw [asked?, found, Option.bind_some, held, Option.bind_some]

/-- What is done to a surface does not change what is asked about others. -/
theorem Roster.asked?_onSurface {α : Type} {roster : Roster} {handle other : SurfaceHandle}
    {act : Surface → Step Surface α} (gentle : Surface.Gentle act) (different : other ≠ handle)
    (key : SessionHandle) :
    (roster.onSurface handle act).state.asked? (key, other) = roster.asked? (key, other) := by
  have unmoved : ((roster.onSurface handle act).state.session? key).map
        (fun session => (session.view, session.surface? other)) =
      (roster.session? key).map fun session => (session.view, session.surface? other) := by
    apply map_session?_onSurface
    intro session
    have viewed : (session.onSurface handle act).state.view = session.view := by
      unfold Session.onSurface
      split <;> rfl
    rw [viewed, Session.surface?_onSurface gentle, if_neg different]
  have decided : ∀ roster : Roster, roster.asked? (key, other) =
      ((roster.session? key).map fun session => (session.view, session.surface? other)).bind
        fun shown => shown.2.bind fun surface => PolicyHook.ofHolder? shown.1 surface.view := by
    intro roster
    rw [asked?, Option.bind_map]
    rfl
  rw [decided, decided, unmoved]

/-- What the policy is asked as a session comes into a state, surface by surface. -/
theorem Roster.filterMap_asked?_consultationsAt {roster : Roster} {key : SessionHandle}
    {session : Session} (sound : session.Sound key) (target : SessionState) :
    (consultationsAt session key target).filterMap
        (roster.put key { session with state := target }).asked? =
      session.surfaces.filterMap fun surface =>
        PolicyHook.ofHolder? ⟨key, target⟩ surface.view := by
  have each : (session.surfaceHandles.map (key, ·)).filterMap
      (roster.put key { session with state := target }).asked? =
      session.surfaces.filterMap fun surface =>
        PolicyHook.ofHolder? ⟨key, target⟩ surface.view := by
    rw [List.filterMap_map, ← Session.filterMap_surfaceHandles sound.distinct]
    apply List.filterMap_congr
    intro handle _
    rw [Function.comp, asked?, session?_put, if_pos rfl, Option.bind_some, ← sound.handle]
    rfl
  cases target with
  | suspended | running => exact each
  | starting | suspending | stopped => exact List.filterMap_eq_nil_iff.2 (fun _ _ => rfl) |>.symm

/-- What the policy is asked about a surface that a session has taken in. -/
theorem Roster.asked?_deliver {roster : Roster} {key : SessionHandle} {receiver : Session}
    {surface : Surface} (sound : receiver.Sound key)
    (fresh : surface.handle ∉ receiver.surfaceHandles) :
    (roster.deliver key receiver surface).asked? (key, surface.handle) =
      PolicyHook.ofHolder? ⟨key, receiver.state⟩ surface.view := by
  have found : (roster.deliver key receiver surface).session? key =
      some (receiver.adopt surface) := by
    rw [session?_deliver, if_pos rfl]
  have held : (receiver.adopt surface).surface? surface.handle =
      some { surface with owner := receiver.handle } := by
    rw [Session.surface?_adopt fresh, if_pos rfl]
  rw [asked?_of_held found held, Session.adopt_of_not_mem fresh, ← sound.handle]
  rfl

namespace Coordinator

variable {π : Type} {setup : Setup π} {state : Coordinator π} {input : Input}
  {key : SessionHandle} {handle : SurfaceHandle} {session : Session}

/-- What a consultation asks is decided by who holds the surface. -/
theorem Consulted.hooks {step : Step (Coordinator π) Unit}
    (consulted : Consulted setup state key handle step) (consistent : state.roster.Consistent) :
    Effect.hooks step.effects = (state.roster.asked? (key, handle)).toList := by
  have heeded : ∀ occasion decision,
      Effect.hooks (state.heed handle occasion decision).effects = [occasion] := by
    intro occasion decision
    have obeyed := Roster.hooks_onSurface (obeyDropper_discreet decision.2) consistent handle
    exact congrArg (occasion :: ·) obeyed
  cases consulted with
  | silent idle =>
      cases found : state.roster.session? key with
      | none =>
          rw [Roster.asked?, found]
          rfl
      | some session =>
          cases held : session.surface? handle with
          | none =>
              rw [Roster.asked?, found, Option.bind_some, held]
              rfl
          | some surface =>
              obtain ⟨awake, running⟩ :=
                idle session found (Session.mem_surfaceHandles_of_surface? held)
              rw [Roster.asked?_of_held found held, PolicyHook.ofHolder?]
              cases posture : session.state with
              | suspended => exact absurd posture awake
              | running => exact absurd posture running
              | starting | suspending | stopped =>
                  simp only [Session.view, posture]
                  rfl
  | suspended found held posture =>
      rw [heeded, Roster.asked?_of_held found held, PolicyHook.ofHolder?]
      simp [Session.view, posture]
  | resumed found held posture =>
      rw [heeded, Roster.asked?_of_held found held, PolicyHook.ofHolder?]
      simp [Session.view, posture]

/-- A consultation does not change what is asked about other surfaces. -/
theorem Consulted.asked? {step : Step (Coordinator π) Unit}
    (consulted : Consulted setup state key handle step) {holder : SessionHandle}
    {other : SurfaceHandle} (different : other ≠ handle) :
    step.state.roster.asked? (holder, other) = state.roster.asked? (holder, other) := by
  rcases consulted.silent_or_heed with rfl | ⟨occasion, decision, rfl⟩
  · rfl
  · exact Roster.asked?_onSurface (obeyDropper_gentle _) different holder

/-- Consultations about different surfaces ask what is due as they begin. -/
theorem hooks_consult (setup : Setup π) {pending : Consultations}
    (consistent : state.roster.Consistent) (distinct : (pending.map (·.2)).Nodup) :
    Effect.hooks (consult setup pending state).effects =
      pending.filterMap state.roster.asked? := by
  induction pending generalizing state with
  | nil => rfl
  | cons pair rest ih =>
      rcases pair with ⟨key, handle⟩
      rw [List.map_cons, List.nodup_cons] at distinct
      have asked := consultPolicy_consulted consistent setup key handle
      -- The other surfaces are as they were, so the same is asked about them.
      have others : rest.filterMap (consultPolicy setup key handle state).state.roster.asked? =
          rest.filterMap state.roster.asked? := by
        apply List.filterMap_congr
        rintro ⟨_, other⟩ member
        apply asked.asked?
        rintro rfl
        exact distinct.1 (List.mem_map.2 ⟨_, member, rfl⟩)
      have later := ih (asked.consistent consistent) distinct.2
      rw [others] at later
      have first : Effect.hooks (consultPolicy setup key handle state).effects ++
          Effect.hooks (consult setup rest (consultPolicy setup key handle state).state).effects =
          (state.roster.asked? (key, handle)).toList ++ rest.filterMap state.roster.asked? := by
        rw [asked.hooks consistent, later]
      rw [consult, Step.forEach, Step.andThen, Effect.hooks_append]
      apply first.trans
      rw [List.filterMap_cons]
      cases state.roster.asked? (key, handle) <;> rfl

/-! ## Calls of moves -/

theorem hooks_obituaries (handles : List SurfaceHandle) :
    Effect.hooks (obituaries handles) = handles.map .removed := by
  rw [obituaries, Effect.hooks, List.filterMap_map, ← List.filterMap_eq_map]
  rfl

/-- The calls of a move and of the consultations that follow it. -/
def callsOf (move : Step (Coordinator π) Consultations) : List PolicyHook :=
  Effect.hooks move.effects ++ move.answer.filterMap move.state.roster.asked?

theorem owners_unfocus (state : Coordinator π) (next : SurfaceHandle) :
    (state.unfocus next).state.owners = state.roster.owners := by
  unfold unfocus
  split
  · exact Roster.owners_onSurface
  · rfl

theorem holder?_unfocus (consistent : state.roster.Consistent) (next : SurfaceHandle) :
    (state.unfocus next).state.holder? handle = state.roster.holder? handle := by
  unfold unfocus
  split
  · exact Roster.holder?_onSurface (Touch.act_gentle _) consistent
  · rfl

theorem hooks_unfocus (consistent : state.roster.Consistent) (next : SurfaceHandle) :
    Effect.hooks (state.unfocus next).effects = [] := by
  unfold unfocus
  split
  · exact Roster.hooks_onSurface (Touch.act_discreet _) consistent _
  · rfl

/-- Where nobody is consulted, the calls of a move are those that it makes itself. -/
theorem callsOf_unasked (next : Coordinator π) (effects : List Effect) :
    callsOf ⟨next, [], effects⟩ = Effect.hooks effects := by
  rw [callsOf, List.filterMap_nil, List.append_nil]

/-- A move at which sessions end calls the policy about all that they held. -/
theorem callsOf_gone {next : Coordinator π} {handles : List SurfaceHandle}
    {farewell lock : List Effect} (silent : Effect.hooks farewell = [])
    (ofLock : ∀ effect ∈ lock, effect.OfLock) :
    callsOf ⟨next, [], farewell ++ obituaries handles ++ lock⟩ = handles.map .removed := by
  rw [callsOf_unasked, Effect.hooks_append, Effect.hooks_append, silent, hooks_obituaries,
    Effect.hooks_ofLock ofLock, List.append_nil, List.nil_append]

theorem hooks_advance (setup : Setup π) (session : Session) (key : SessionHandle)
    (target : SessionState) (lock : WakeLock) :
    Effect.hooks (.notify (.sessionStateChanged key target) ::
      (setup.lockAt session key target lock).effects) = [] := by
  rw [Effect.hooks_notify, Effect.hooks_ofLock Setup.lockAt_ofLock]

/-- Where no surface is gone, the calls of a move are those of the consultations. -/
theorem callsOf_asked {next : Coordinator π} {pending : Consultations} {effects : List Effect}
    (silent : Effect.hooks effects = []) :
    callsOf ⟨next, pending, effects⟩ = pending.filterMap next.roster.asked? := by
  rw [callsOf, silent, List.nil_append]

/-- A move at which a surface changes hands calls what the policy is asked about it. -/
theorem callsOf_joined {next : Coordinator π} {effects : List Effect} {holder : SessionView}
    {surface : SurfaceView} (silent : Effect.hooks effects = [])
    (asked : next.roster.asked? (key, handle) = PolicyHook.ofHolder? holder surface) :
    callsOf ⟨next, [(key, handle)], effects⟩ = (PolicyHook.ofHolder? holder surface).toList := by
  rw [callsOf_asked silent, List.filterMap_cons, asked]
  cases PolicyHook.ofHolder? holder surface <;> rfl

/-- A surface that comes up has the policy called about it as it comes up. -/
theorem callsOf_arrive {title : String} {chrome : ChromeLevel} {id : SurfaceId}
    {next : Coordinator π} (consistent : state.roster.Consistent)
    (absent : state.roster.owners.find? handle = none)
    (found : state.roster.session? key = some session)
    (joined : next.roster =
      state.roster.deliver key session (.create handle key id title chrome)) :
    callsOf ⟨next, [(key, handle)], .notify (.surfaceAdded handle key) ::
        (setup.lockJoined session key state.wakeLock).effects⟩ =
      (PolicyHook.ofHolder? ⟨key, session.state⟩ (state.roster.view handle)).toList := by
  have fresh : (Surface.create handle key id title chrome).handle ∉ session.surfaceHandles :=
    consistent.not_mem_of_absent absent found
  apply callsOf_joined
  · rw [Effect.hooks_notify, Effect.hooks_ofLock Setup.lockJoined_ofLock]
  · rw [joined, Roster.view_of_absent (consistent.surface?_eq_none_iff.2 absent)]
    exact Roster.asked?_deliver (consistent.sound key session found) fresh

/-- A surface that is handed over has the policy called about it as it is. -/
theorem callsOf_handOver {target : SessionHandle} {receiver : Session} {surface : Surface}
    {next : Coordinator π} (consistent : state.roster.Consistent)
    (found : state.roster.session? key = some session)
    (held : session.surface? handle = some surface)
    (foundTarget : state.roster.session? target = some receiver) (different : key ≠ target)
    (joined : next.roster =
      (state.roster.collect key session handle).deliver target receiver surface) :
    callsOf ⟨next, [(target, handle)],
        (setup.lockJoined receiver target state.wakeLock).effects⟩ =
      (PolicyHook.ofHolder? ⟨target, receiver.state⟩ (state.roster.view handle)).toList := by
  have member := Session.mem_surfaceHandles_of_surface? held
  have named := (Session.mem_of_surface?_eq_some held).2
  have fresh := consistent.not_mem_of_held found held foundTarget different
  apply callsOf_joined
  · exact Effect.hooks_ofLock Setup.lockJoined_ofLock
  · rw [joined, Roster.view_of_surface? ((consistent.surface?_of_mem found member).trans held),
      ← named]
    exact Roster.asked?_deliver (consistent.sound target receiver foundTarget) fresh

/-- Of the calls of a move those about a surface are due. -/
theorem Move.calls {move : Step (Coordinator π) Consultations}
    (moved : Move setup state input move) (consistent : state.roster.Consistent)
    (other : SurfaceHandle) :
    (callsOf move).filter (·.surface = other) =
      Roster.callsDue state.roster move.state.roster other := by
  have later := moved.consistent consistent
  cases moved with
  | still | refuse => exact (Roster.callsDue_of_same rfl).symm
  | enroll appId absent =>
      rw [Roster.callsDue_of_same (Roster.holder?_enroll consistent absent)]
      rfl
  | advance asked found edge active willing =>
      rw [callsOf_asked (hooks_advance ..),
        Roster.filterMap_asked?_consultationsAt (consistent.sound _ _ found)]
      exact Roster.entered_due consistent found (LifecycleOp.target?_ne edge) active other
  | finish asked found =>
      rw [callsOf_gone Roster.hooks_farewell Setup.rest_ofLock]
      exact Roster.discard_due consistent found other
  | @arrive handle key title chrome requested session absent found =>
      rw [callsOf_arrive consistent absent found rfl]
      apply Roster.joined_due (consistent.handle_view handle)
      · rw [Roster.holder?_of_absent absent]
        exact (Option.some_ne_none _).symm
      · exact fun _ => Roster.holder?_deliver consistent found absent rfl
  | @depart handle key session surface found held =>
      have member := Session.mem_surfaceHandles_of_surface? held
      rw [callsOf_unasked, Effect.hooks_append, Surface.markReleased_discreet.hooks,
        hooks_obituaries, List.nil_append]
      exact Roster.collect_due consistent found member other
  | @handOver handle key target session receiver surface found held foundTarget different =>
      have member := Session.mem_surfaceHandles_of_surface? held
      rw [callsOf_handOver consistent found held foundTarget different rfl]
      apply Roster.joined_due (consistent.handle_view handle)
      · rw [consistent.holder?_of_held found member]
        simp [different]
      · exact fun _ => Roster.holder?_handOver consistent found held foundTarget different
  | @focus handle surface found =>
      have unfocused := unfocus_consistent consistent handle
      have same : ((state.unfocus handle).state.onSurface handle
          (Touch.act (.focus true))).state.holder? other = state.roster.holder? other := by
        rw [Roster.holder?_onSurface (Touch.act_gentle _) unfocused]
        exact holder?_unfocus consistent handle
      rw [Roster.callsDue_of_same same, callsOf_unasked, Effect.hooks_append,
        hooks_unfocus consistent, Roster.hooks_onSurface (Touch.act_discreet _) unfocused]
      rfl
  | @touch input touch handle asked =>
      rw [Roster.callsDue_of_same (Roster.holder?_onSurface touch.act_gentle consistent),
        callsOf_unasked, Roster.hooks_onSurface touch.act_discreet consistent]
      rfl
  | shutdown =>
      rw [callsOf_gone Roster.hooks_removeAll WakeLock.releaseAll_ofLock]
      exact Roster.removeAll_due consistent other

/-- A session that comes into another state has the policy called about its surfaces, in the order
held. -/
theorem Move.entered {move : Step (Coordinator π) Consultations}
    (moved : Move setup state input move) (consistent : state.roster.Consistent)
    {other : SessionHandle} {former : Session} {target : SessionState}
    (found : state.roster.session? other = some former)
    (entered : move.state.roster.state? other = some target) (new : target ≠ former.state) :
    callsOf move = former.surfaces.filterMap fun surface =>
      PolicyHook.ofHolder? ⟨other, target⟩ surface.view := by
  have changed : move.state.roster.state? other ≠ state.roster.state? other := by
    rw [entered, Roster.state?_of_session? found]
    exact fun same => new (Option.some.inj same)
  cases moved with
  | still | refuse => exact absurd rfl changed
  | @enroll key pid reported appId absent =>
      have different : other ≠ key := by
        rintro rfl
        rw [absent] at found
        contradiction
      exact absurd (Roster.state?_enroll.trans (if_neg different)) changed
  | @advance input op key session after asked filed edge active willing =>
      by_cases equal : other = key
      · subst equal
        cases found.symm.trans filed
        rw [Roster.state?_put, if_pos rfl] at entered
        cases entered
        rw [callsOf_asked (hooks_advance ..),
          Roster.filterMap_asked?_consultationsAt (consistent.sound other _ found)]
      · exact absurd (Roster.state?_put.trans (if_neg equal)) changed
  | finish asked filed =>
      rw [Roster.state?_discard] at entered
      split at entered
      · contradiction
      · rename_i different
        exact absurd (Roster.state?_discard.trans (if_neg different)) changed
  | arrive absent filed => exact absurd (Roster.state?_deliver filed) changed
  | depart filed held => exact absurd (Roster.state?_collect filed) changed
  | handOver filed held foundTarget different =>
      exact absurd (Roster.state?_handOver filed foundTarget different) changed
  | focus held => exact absurd (Roster.state?_onSurface.trans (state?_unfocus state _)) changed
  | touch asked => exact absurd Roster.state?_onSurface changed
  | shutdown =>
      rw [Roster.state?_removeAll] at entered
      contradiction

/-- A surface that comes to be held by another session has the policy called about it, and about
no others. -/
theorem Move.joined {move : Step (Coordinator π) Consultations}
    (moved : Move setup state input move) (consistent : state.roster.Consistent)
    {other : SurfaceHandle} {holder : SessionView}
    (held : move.state.roster.holder? other = some holder)
    (new : (state.roster.holder? other).map (·.handle) ≠ some holder.handle) :
    callsOf move = (PolicyHook.ofHolder? holder (state.roster.view other)).toList := by
  have owned : move.state.roster.owners.find? other = some holder.handle := by
    rw [← (moved.consistent consistent).handle_holder?, held]
    rfl
  rw [consistent.handle_holder?] at new
  cases moved with
  | still | refuse | enroll | advance => exact absurd owned new
  | finish asked found =>
      rw [Roster.owners_discard] at owned
      split at owned
      · contradiction
      · exact absurd owned new
  | @arrive handle key title chrome requested session absent found =>
      have joins : (state.roster.deliver key session (.create handle key
          (state.surfaceIds.name requested handle).2 title chrome)).holder? other =
          if other = handle then some ⟨key, session.state⟩ else state.roster.holder? other :=
        Roster.holder?_deliver consistent found absent rfl
      rw [joins] at held
      split at held
      · rename_i equal
        rw [callsOf_arrive consistent absent found rfl, equal, Option.some.inj held]
      · rw [← consistent.handle_holder?, held] at new
        exact absurd rfl new
  | depart found held =>
      rw [Roster.owners_collect] at owned
      split at owned
      · contradiction
      · exact absurd owned new
  | handOver found gives foundTarget different =>
      rw [Roster.holder?_handOver consistent found gives foundTarget different] at held
      split at held
      · rename_i equal
        rw [callsOf_handOver consistent found gives foundTarget different rfl, equal,
          Option.some.inj held]
      · rw [← consistent.handle_holder?, held] at new
        exact absurd rfl new
  | focus found =>
      rw [Roster.owners_onSurface, owners_unfocus] at owned
      exact absurd owned new
  | touch asked =>
      rw [Roster.owners_onSurface] at owned
      exact absurd owned new
  | shutdown =>
      rw [Roster.holder?_removeAll] at held
      contradiction

/-! ## Calls of inputs -/

/-- Nobody is consulted about a surface twice. -/
theorem Move.distinct {move : Step (Coordinator π) Consultations}
    (moved : Move setup state input move) (consistent : state.roster.Consistent) :
    (move.answer.map (·.2)).Nodup := by
  cases moved with
  | @advance input op key session target asked found edge active willing =>
      have distinct : ((session.surfaceHandles.map (key, ·)).map (·.2)).Nodup := by
        rw [List.map_map]
        exact (List.map_id session.surfaceHandles).symm ▸
          (consistent.sound key session found).distinct
      cases target with
      | suspended | running => exact distinct
      | starting | suspending | stopped => exact List.nodup_nil
  | arrive | handOver => exact List.nodup_singleton _
  | still | enroll | finish | refuse | depart | focus | touch | shutdown => exact List.nodup_nil

/-- The calls of an input are those of a move, which leaves the index and the states of the
sessions as they are in the end. -/
theorem handleInput_callsOf (consistent : state.roster.Consistent) (setup : Setup π)
    (input : Input) :
    ∃ move, Move setup state input move ∧
      Effect.hooks (handleInput setup input state).effects = callsOf move ∧
      (∀ key, (handleInput setup input state).state.roster.state? key =
        move.state.roster.state? key) ∧
      ∀ handle, (handleInput setup input state).state.roster.holder? handle =
        move.state.roster.holder? handle := by
  obtain ⟨move, moved, equal⟩ := handleInput_follows consistent setup input
  have later := moved.consistent consistent
  obtain ⟨states, owners⟩ := consult_unmoved setup later move.answer
  have last : (handleInput setup input state).state.roster.Consistent :=
    handleInput_consistent consistent setup input
  rw [equal] at last ⊢
  refine ⟨move, moved, ?_, states, fun handle => ?_⟩
  · rw [Step.andThen, Effect.hooks_append, hooks_consult setup later (moved.distinct consistent)]
    rfl
  · exact later.holder?_congr last (congrArg (·.find? handle) owners) fun key _ => states key

/-- Of the calls of an input those about a surface are the ones that are due. -/
theorem handleInput_calls (consistent : state.roster.Consistent) (setup : Setup π)
    (input : Input) (handle : SurfaceHandle) :
    (Effect.hooks (handleInput setup input state).effects).filter (·.surface = handle) =
      Roster.callsDue state.roster (handleInput setup input state).state.roster handle := by
  obtain ⟨move, moved, calls, _, holders⟩ := handleInput_callsOf consistent setup input
  rw [calls, moved.calls consistent, Roster.callsDue, Roster.callsDue, holders]

/-- A session that comes into another state has the policy called about its surfaces, in the order
held, and about no others. -/
theorem handleInput_entered (consistent : state.roster.Consistent) (setup : Setup π)
    (input : Input) {target : SessionState} (found : state.roster.session? key = some session)
    (entered : (handleInput setup input state).state.roster.state? key = some target)
    (new : target ≠ session.state) :
    Effect.hooks (handleInput setup input state).effects =
      session.surfaces.filterMap fun surface =>
        PolicyHook.ofHolder? ⟨key, target⟩ surface.view := by
  obtain ⟨move, moved, calls, states, _⟩ := handleInput_callsOf consistent setup input
  rw [states] at entered
  rw [calls, moved.entered consistent found entered new]

/-- A surface that comes to be held by another session has the policy called about it, and about
no others. -/
theorem handleInput_joined (consistent : state.roster.Consistent) (setup : Setup π)
    (input : Input) {holder : SessionView}
    (held : (handleInput setup input state).state.roster.holder? handle = some holder)
    (new : (state.roster.holder? handle).map (·.handle) ≠ some holder.handle) :
    Effect.hooks (handleInput setup input state).effects =
      (PolicyHook.ofHolder? holder (state.roster.view handle)).toList := by
  obtain ⟨move, moved, calls, _, holders⟩ := handleInput_callsOf consistent setup input
  rw [holders] at held
  rw [calls, moved.joined consistent held new]

end Coordinator

end AppLifecycle
