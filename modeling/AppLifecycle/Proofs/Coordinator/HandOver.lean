import AppLifecycle.Proofs.Coordinator.Belongings
import AppLifecycle.Proofs.Coordinator.SuspendedDroppers

/-!
# A surface that changes hands

Handing a surface over takes it out of the list of its former session and puts it at the end of
that of the new one. The new session keeps the device awake from then on if it is running, and a
policy that throttles suspended sessions adjusts the dropper of the surface to its state. Nothing
else changes (`surfaceReparented_handsOver`).
-/

namespace AppLifecycle

namespace Surface

/-- The surface with its dropper running or not. As the dropper starts, the frames that wait are
dropped. -/
def withDropper (surface : Surface) (running : Bool) : Surface :=
  { surface with
    dropperRunning := running
    frames :=
      if running && !surface.dropperRunning then
        { surface.frames with
          pending := 0
          dropped := surface.frames.dropped + surface.frames.pending }
      else surface.frames }

/-- What is told as the dropper comes to run or not. -/
def toldOfDropper (surface : Surface) (running : Bool) : List ShellNotification :=
  if running = surface.dropperRunning then []
  else [.surfaceFrameDropperChanged surface.handle running]

variable {surface : Surface}

@[simp]
theorem withDropper_self (surface : Surface) :
    surface.withDropper surface.dropperRunning = surface := by
  rcases surface with ⟨_, _, _, _, _, _, _ | _, _, _, _, _⟩ <;> rfl

@[simp]
theorem toldOfDropper_self (surface : Surface) :
    surface.toldOfDropper surface.dropperRunning = [] :=
  if_pos rfl

/-- What a request to the dropper of a live surface comes to. -/
theorem act_ofRequest (live : surface.live = true) (request : DropperRequest) :
    let running := decide (request = .start)
    ((Touch.ofRequest request).act surface).state = surface.withDropper running ∧
      Effect.notifications ((Touch.ofRequest request).act surface).effects =
        surface.toldOfDropper running := by
  rcases surface with ⟨_, _, _, _, _, _, _ | _, _, _, _, _⟩ <;> cases live <;> cases request <;>
    exact ⟨rfl, rfl⟩

end Surface

namespace SurfacePolicy.BuiltIn

variable {policy : SurfacePolicy (KeySet SurfaceHandle)} (builtIn : policy.BuiltIn)
  (memory : KeySet SurfaceHandle) (session : SessionView) (surface : SurfaceView)
include builtIn

/-- A built-in policy asks for one thing at most. -/
theorem asks_once :
    (∃ request? : Option DropperRequest,
      (policy.suspended memory session surface).2 = request?.toList) ∧
    ∃ request? : Option DropperRequest,
      (policy.resumed memory session surface).2 = request?.toList := by
  rcases builtIn with rfl | rfl
  · exact ⟨⟨none, rfl⟩, none, rfl⟩
  · simp only [throttleSuspended]
    constructor
    · split
      · exact ⟨some .stop, rfl⟩
      · exact ⟨none, rfl⟩
    · split
      · exact ⟨some .start, rfl⟩
      · exact ⟨none, rfl⟩

end SurfacePolicy.BuiltIn

/-- Acting on the surface that a session has taken in last. -/
theorem Session.onSurface_last {α : Type} {session : Session} {handle : SurfaceHandle}
    {last : Surface} (called : last.handle = handle) (fresh : handle ∉ session.surfaceHandles)
    (act : Surface → Step Surface α) :
    (Session.onSurface handle act
        { session with surfaces := session.surfaces ++ [last] }).state =
      { session with surfaces := session.surfaces ++ [(act last).state] } := by
  have absent : session.surfaces.find? (·.handle = handle) = none := surface?_eq_none_iff.2 fresh
  have found : Session.surface? { session with surfaces := session.surfaces ++ [last] } handle =
      some last := by
    simp [surface?, List.find?_append, absent, called]
  have other (held : Surface) (member : held ∈ session.surfaces) :
      (if held.handle = handle then (act last).state else held) = id held :=
    if_neg fun same => fresh (List.mem_map.2 ⟨held, member, same⟩)
  rw [onSurface_of_found found]
  simp only [List.map_append, List.map_singleton, called, if_true, List.map_congr_left other,
    List.map_id]

namespace Roster

/-- A surface has left the list of one session and is the last in that of another. -/
structure HandedOver (handle : SurfaceHandle) (key target : SessionHandle)
    (giver receiver : Session) (moved : Surface) (before after : Roster) : Prop where
  giver : after.session? key =
    some { giver with surfaces := giver.surfaces.filter (·.handle ≠ handle) }
  receiver : after.session? target =
    some { receiver with surfaces := receiver.surfaces ++ [moved] }
  sessions : ∀ other, other ≠ key → other ≠ target → after.session? other = before.session? other
  owners : ∀ other, after.owners.find? other =
    if other = handle then some target else before.owners.find? other
  registry : after.registry = before.registry
  surfaces : ∀ other, after.surface? other =
    if other = handle then some moved else before.surface? other

variable {roster after : Roster} {handle : SurfaceHandle} {key target : SessionHandle}
  {session receiver : Session} {surface moved : Surface}

theorem Consistent.handedOver (consistent : roster.Consistent)
    (found : roster.session? key = some session)
    (held : session.surface? handle = some surface)
    (foundTarget : roster.session? target = some receiver) (different : key ≠ target) :
    HandedOver handle key target session receiver { surface with owner := target } roster
      ((roster.collect key session handle).deliver target receiver surface) := by
  have called := (Session.mem_of_surface?_eq_some held).2
  have fresh := consistent.not_mem_of_held found held foundTarget different
  constructor
  · rw [session?_deliver, if_neg different, session?_collect, if_pos rfl]
    rfl
  · rw [session?_deliver, if_pos rfl, Session.adopt_of_not_mem fresh,
      (consistent.sound target receiver foundTarget).handle]
  · intro other notGiver notReceiver
    rw [session?_deliver, if_neg notReceiver, session?_collect, if_neg notGiver]
  · intro other
    rw [owners_deliver, owners_collect, called]
    split <;> rfl
  · rfl
  · intro other
    exact surface?_handOver consistent found held foundTarget different

/-- Acting on the surface afterwards. -/
theorem HandedOver.onSurface {act : Surface → Step Surface Unit}
    (handedOver : HandedOver handle key target session receiver moved roster after)
    (consistent : after.Consistent) (gentle : Surface.Gentle act) (different : key ≠ target)
    (called : moved.handle = handle) (fresh : handle ∉ receiver.surfaceHandles) :
    HandedOver handle key target session receiver (act moved).state roster
      (after.onSurface handle act).state := by
  have indexed : after.owners.find? handle = some target := by
    rw [handedOver.owners, if_pos rfl]
  have acted : (after.onSurface handle act).state =
      after.put target
        { receiver with surfaces := receiver.surfaces ++ [(act moved).state] } := by
    rw [onSurface_of_found indexed handedOver.receiver, ← Session.onSurface_last called fresh act]
    simp only [Step.answering, onSession_of_found handedOver.receiver]
  constructor
  · rw [acted, session?_put, if_neg different, handedOver.giver]
  · rw [acted, session?_put, if_pos rfl]
  · intro other notGiver notReceiver
    rw [acted, session?_put, if_neg notReceiver, handedOver.sessions other notGiver notReceiver]
  · intro other
    rw [owners_onSurface, handedOver.owners]
  · rw [acted]
    exact handedOver.registry
  · intro other
    rw [surface?_onSurface gentle consistent, handedOver.surfaces handle, if_pos rfl,
      handedOver.surfaces other]
    split <;> rfl

/-- The condition of the surface afterwards. -/
theorem HandedOver.condition?
    (handedOver : HandedOver handle key target session receiver moved roster after)
    (owned : moved.owner = target) (throttled : KeySet SurfaceHandle) :
    after.condition? throttled handle =
      some ⟨receiver.state, moved.dropperRunning, throttled.contains handle⟩ := by
  have found : after.surface? handle = some moved := by rw [handedOver.surfaces, if_pos rfl]
  have joined := state?_of_session? handedOver.receiver
  rw [← owned] at joined
  exact condition?_of_found throttled found joined

end Roster

namespace Coordinator

/-- All that handing a surface over does. -/
structure HandsOver (setup : Setup (KeySet SurfaceHandle)) (handle : SurfaceHandle)
    (key target : SessionHandle) (giver receiver : Session) (surface : Surface)
    (before : Coordinator (KeySet SurfaceHandle))
    (step : Step (Coordinator (KeySet SurfaceHandle)) Unit) (running : Bool) : Prop where
  /-- The surface is the same but for its owner and its dropper. -/
  roster : Roster.HandedOver handle key target giver receiver
    ({ surface with owner := target }.withDropper running) before.roster step.state.roster
  surfaceIds : step.state.surfaceIds = before.surfaceIds
  focused : step.state.focused = before.focused
  awake : ∀ owner, step.state.wakeLock.isHeldBy owner =
    if owner = .session target then
      before.wakeLock.isHeldBy owner ||
        (setup.config.wakelock && decide (receiver.state = .running))
    else before.wakeLock.isHeldBy owner
  settled : step.state.wakeLock.Settled
  /-- A policy that throttles settles the condition in which the surface joins its new owner. -/
  throttled : setup.policy = .throttleSuspended →
    (⟨receiver.state, running, step.state.memory.contains handle⟩ : Condition) =
      Condition.settled
        ⟨receiver.state, surface.dropperRunning, before.memory.contains handle⟩
  /-- Any other leaves it as it is. -/
  kept : setup.policy = .keepCompositing →
    running = surface.dropperRunning ∧ step.state.memory = before.memory
  remembered : ∀ other, other ≠ handle →
    step.state.memory.contains other = before.memory.contains other
  told : Effect.notifications step.effects =
    (if before.wakeLock.enabled = step.state.wakeLock.enabled then []
      else [.wakeLockEnabledChanged step.state.wakeLock.enabled]) ++
    surface.toldOfDropper running

section Consult

variable {setup : Setup (KeySet SurfaceHandle)} {state : Coordinator (KeySet SurfaceHandle)}
  {key : SessionHandle} {handle : SurfaceHandle}

/-- Consulted, a built-in policy asks for one thing at most. -/
theorem Consulted.heeds_once {step : Step (Coordinator (KeySet SurfaceHandle)) Unit}
    (consulted : Consulted setup state key handle step) (builtIn : setup.policy.BuiltIn) :
    step = .quiet state () ∨
      ∃ occasion memory, ∃ request? : Option DropperRequest,
        step = state.heed handle occasion (memory, request?.toList) ∧
          (setup.policy = .keepCompositing → memory = state.memory ∧ request? = none) := by
  cases consulted with
  | silent => exact .inl rfl
  | @suspended session surface found held posture =>
      obtain ⟨request?, asked⟩ := (builtIn.asks_once state.memory session.view surface.view).1
      refine .inr ⟨_, _, request?, by rw [← asked], fun keeping => ?_⟩
      rw [keeping] at asked ⊢
      exact ⟨rfl, Option.toList_eq_nil_iff.1 asked.symm⟩
  | @resumed session surface found held posture =>
      obtain ⟨request?, asked⟩ := (builtIn.asks_once state.memory session.view surface.view).2
      refine .inr ⟨_, _, request?, by rw [← asked], fun keeping => ?_⟩
      rw [keeping] at asked ⊢
      exact ⟨rfl, Option.toList_eq_nil_iff.1 asked.symm⟩

theorem obeyDropper_eq {surface : Surface} (live : surface.live = true)
    (request? : Option DropperRequest) :
    ∃ running, (request? = none → running = surface.dropperRunning) ∧
      (obeyDropper request?.toList surface).state = surface.withDropper running ∧
      Effect.notifications (obeyDropper request?.toList surface).effects =
        surface.toldOfDropper running := by
  cases request? with
  | none =>
      refine ⟨surface.dropperRunning, fun _ => rfl, ?_, ?_⟩
      · rw [Surface.withDropper_self]
        rfl
      · rw [Surface.toldOfDropper_self]
        rfl
  | some request =>
      obtain ⟨state, told⟩ := Surface.act_ofRequest live request
      refine ⟨decide (request = .start), nofun, ?_⟩
      rw [Option.toList_some, obeyDropper_cons]
      simp only [Step.andThen, obeyDropper, Step.forEach, Step.quiet, List.append_nil]
      exact ⟨state, told⟩

/-- Consulted about a surface that has just changed hands, a built-in policy turns its dropper at
most. -/
theorem Consulted.handedOver {step : Step (Coordinator (KeySet SurfaceHandle)) Unit}
    {target : SessionHandle} {giver receiver : Session} {moved : Surface} {roster : Roster}
    (consulted : Consulted setup state target handle step) (builtIn : setup.policy.BuiltIn)
    (handedOver : Roster.HandedOver handle key target giver receiver moved roster state.roster)
    (consistent : state.roster.Consistent) (different : key ≠ target)
    (fresh : handle ∉ receiver.surfaceHandles) :
    ∃ running,
      Roster.HandedOver handle key target giver receiver (moved.withDropper running) roster
          step.state.roster ∧
        Effect.notifications step.effects = moved.toldOfDropper running ∧
        (∃ memory, step.state = { state with roster := step.state.roster, memory := memory }) ∧
        (setup.policy = .keepCompositing →
          running = moved.dropperRunning ∧ step.state.memory = state.memory) := by
  have found : state.roster.surface? handle = some moved := by
    rw [handedOver.surfaces, if_pos rfl]
  have live := consistent.live_of_surface? found
  have called := consistent.handle_of_surface? found
  rcases consulted.heeds_once builtIn with rfl | ⟨occasion, memory, request?, rfl, keeping⟩
  · refine ⟨moved.dropperRunning, ?_, ?_, ⟨state.memory, rfl⟩, fun _ => ⟨rfl, rfl⟩⟩
    · rw [Surface.withDropper_self]
      exact handedOver
    · rw [Surface.toldOfDropper_self]
      rfl
  · obtain ⟨running, unasked, obeyed, told⟩ := obeyDropper_eq live request?
    refine ⟨running, ?_, ?_, ⟨memory, rfl⟩, fun kept => ?_⟩
    · rw [← obeyed]
      exact handedOver.onSurface consistent (obeyDropper_gentle _) different called fresh
    · have acted : (state.roster.onSurface handle (obeyDropper request?.toList)).effects =
          (obeyDropper request?.toList moved).effects := by
        rw [Roster.effects_onSurface consistent, found]
        rfl
      rw [← told, ← acted]
      rfl
    · exact ⟨unasked (keeping kept).2, (keeping kept).1⟩

theorem consult_singleton (setup : Setup (KeySet SurfaceHandle)) (key : SessionHandle)
    (handle : SurfaceHandle) (state : Coordinator (KeySet SurfaceHandle)) :
    consult setup [(key, handle)] state = consultPolicy setup key handle state := by
  simp [consult, Step.forEach, Step.andThen, Step.quiet]

end Consult

/-- The report that a surface has another owner hands it over, and does nothing else: the former
owner has lost it, the new one holds it last, and for the rest both are as they were, as are all
other sessions and surfaces, the focus, the ids and the holds on the wake lock, that of a running
new owner apart. -/
theorem surfaceReparented_handsOver (setup : Setup (KeySet SurfaceHandle))
    (builtIn : setup.policy.BuiltIn) (moments : List Moment) (surroundings : Surroundings)
    {handle : SurfaceHandle} {key target : SessionHandle} {giver receiver : Session}
    {surface : Surface}
    (found : (after setup moments).roster.session? key = some giver)
    (held : giver.surface? handle = some surface)
    (foundTarget : (after setup moments).roster.session? target = some receiver)
    (different : key ≠ target) :
    ∃ running,
      HandsOver setup handle key target giver receiver surface (after setup moments)
        (handleInput (setup.amid surroundings) (.event (.surfaceReparented handle target))
          (after setup moments)) running := by
  generalize stateIs : after setup moments = state at *
  have consistent : state.roster.Consistent := stateIs ▸ after_consistent setup moments
  have lock : state.wakeLock.Settled := stateIs ▸ (mirrored_after setup moments).settled
  have announced := (setup.amid surroundings).lockJoined_announces target lock receiver
  have called := (Session.mem_of_surface?_eq_some held).2
  have fresh : handle ∉ receiver.surfaceHandles :=
    called ▸ consistent.not_mem_of_held found held foundTarget different
  have passed := consistent.handedOver found held foundTarget different
  let middle : Coordinator (KeySet SurfaceHandle) :=
    { state with
      roster := (state.roster.collect key giver handle).deliver target receiver surface
      wakeLock := ((setup.amid surroundings).lockJoined receiver target state.wakeLock).state }
  have middleConsistent : middle.roster.Consistent :=
    consistent.handOver found held foundTarget different
  let last := consultPolicy (setup.amid surroundings) target handle middle
  have consulted : Consulted (setup.amid surroundings) middle target handle last :=
    consultPolicy_consulted middleConsistent _ target handle
  have step : handleInput (setup.amid surroundings) (.event (.surfaceReparented handle target))
      state = ⟨last.state, (),
        ((setup.amid surroundings).lockJoined receiver target state.wakeLock).effects ++
          last.effects⟩ := by
    rw [handleInput, handleEvent, reparentSurface_of_accepted consistent found held foundTarget
      different, Step.andThen, consult_singleton]
  obtain ⟨running, handedOver, told, ⟨memory, others⟩, keeping⟩ :=
    consulted.handedOver builtIn passed middleConsistent different fresh
  have settles (throttling : (setup.amid surroundings).policy = .throttleSuspended) :
      middle.Settles [handle] last :=
    consulted.settles throttling middleConsistent (by rw [passed.owners, if_pos rfl])
  rw [step]
  refine ⟨running, handedOver, ?_, ?_, ?_, ?_, ?_, keeping, ?_, ?_⟩
  · rw [others]
  · rw [others]
  · intro owner
    rw [others]
    exact Setup.isHeldBy_lockJoined
  · rw [others]
    exact announced.settled
  · intro throttling
    have settled := (settles throttling).conditions handle
    rw [if_pos (List.mem_singleton.2 rfl), Coordinator.condition?, Coordinator.condition?,
      handedOver.condition? rfl, passed.condition? rfl] at settled
    exact Option.some.inj settled
  · intro other elsewhere
    rcases builtIn with policy | policy
    · rw [(keeping policy).2]
    · exact (settles policy).memory other (by simpa using elsewhere)
  · rw [Effect.notifications_append, announced.told, told, others]
    rfl

/-- A window of a suspended session beside a session that runs. -/
def suspendedWindowBeside : List Moment :=
  suspendedWindow ++
    [⟨.event (.sessionCreated ⟨2⟩ 8 "other"), throttlingSetup.surroundings⟩,
      ⟨.command (.markRunning ⟨2⟩), throttlingSetup.surroundings⟩]

/-- The window is handed to the session that runs. -/
theorem handsOver_suspendedWindow :
    throttlingSetup.policy.BuiltIn ∧
      ∃ giver receiver surface running,
        (after throttlingSetup suspendedWindowBeside).roster.session? ⟨1⟩ = some giver ∧
        giver.surface? ⟨10⟩ = some surface ∧
        (after throttlingSetup suspendedWindowBeside).roster.session? ⟨2⟩ = some receiver ∧
        HandsOver throttlingSetup ⟨10⟩ ⟨1⟩ ⟨2⟩ giver receiver surface
          (after throttlingSetup suspendedWindowBeside)
          (handleInput (throttlingSetup.amid throttlingSetup.surroundings)
            (.event (.surfaceReparented ⟨10⟩ ⟨2⟩))
            (after throttlingSetup suspendedWindowBeside)) running := by
  have builtIn : throttlingSetup.policy.BuiltIn := .inr rfl
  have holds : (((after throttlingSetup suspendedWindowBeside).roster.session? ⟨1⟩).bind
      (·.surface? ⟨10⟩)).isSome = true := by decide
  have other : ((after throttlingSetup suspendedWindowBeside).roster.session? ⟨2⟩).isSome =
      true := by decide
  obtain ⟨surface, bound⟩ := Option.isSome_iff_exists.1 holds
  obtain ⟨giver, found, held⟩ := Option.bind_eq_some_iff.1 bound
  obtain ⟨receiver, foundTarget⟩ := Option.isSome_iff_exists.1 other
  obtain ⟨running, handsOver⟩ := surfaceReparented_handsOver throttlingSetup builtIn
    suspendedWindowBeside throttlingSetup.surroundings found held foundTarget (by decide)
  exact ⟨builtIn, giver, receiver, surface, running, found, held, foundTarget, handsOver⟩

end Coordinator

end AppLifecycle
