import AppLifecycle.Proofs.Coordinator.Condition

/-!
# Consulting the policy that throttles

Consulted about surfaces by the sessions that hold them, the policy settles the conditions of
these surfaces, tells what turns of their droppers that takes, and leaves all other surfaces
alone (`consult_settles`).
-/

namespace AppLifecycle

namespace Coordinator

variable {setup : Setup (KeySet SurfaceHandle)} {state : Coordinator (KeySet SurfaceHandle)}
  {input : Input} {key : SessionHandle} {handle other : SurfaceHandle}

/-- The condition of a surface, if somebody holds it. -/
def condition? (state : Coordinator (KeySet SurfaceHandle)) (handle : SurfaceHandle) :
    Option Condition :=
  state.roster.condition? state.memory handle

/-! ## Consultations -/

/-- A policy that asks for one thing at most. -/
theorem obeyDropper_toList {surface : Surface} (live : surface.live = true)
    (request? : Option DropperRequest) (hand : Hand) :
    let running := (request?.map fun request => decide (request = .start)).getD
      surface.dropperRunning
    (obeyDropper request?.toList surface).state.dropperRunning = running ∧
      (Effect.notifications (obeyDropper request?.toList surface).effects).filterMap
          (DropperEvent.ofNotification? hand) =
        hand.turns surface.dropperRunning running := by
  cases request? with
  | none => exact ⟨rfl, by rw [Option.map_none, Option.getD_none, Hand.turns_self]; rfl⟩
  | some request =>
      have alone : obeyDropper (some request).toList surface =
          (Touch.ofRequest request).act surface := by
        rw [Option.toList_some, obeyDropper_cons]
        simp [Step.andThen, obeyDropper, Step.forEach, Step.quiet]
      have asked : (Touch.ofRequest request).dropper surface.dropperRunning =
          decide (request = .start) := by
        cases request <;> rfl
      rw [alone, Touch.dropperRunning_act live, Touch.dropperEvents live, asked]
      exact ⟨rfl, rfl⟩

section Heed

variable (consistent : state.roster.Consistent) (occasion : PolicyHook)
  (memory : KeySet SurfaceHandle) (request? : Option DropperRequest)
include consistent

theorem condition?_heed :
    (state.heed handle occasion (memory, request?.toList)).state.condition? other =
      (state.condition? other).map fun condition =>
        { condition with
          running :=
            if other = handle then
              (request?.map fun request => decide (request = .start)).getD condition.running
            else condition.running
          throttled := memory.contains other } := by
  unfold condition?
  rw [show (state.heed handle occasion (memory, request?.toList)).state.roster =
      (state.roster.onSurface handle (obeyDropper request?.toList)).state from rfl,
    show (state.heed handle occasion (memory, request?.toList)).state.memory = memory from rfl,
    Roster.condition?_onSurface _ (obeyDropper_gentle _) consistent
      fun surface live => (obeyDropper_toList live request? .policy).1,
    Roster.condition?_remembering state.memory memory, Option.map_map]
  congr 1
  funext condition
  by_cases equal : other = handle <;> simp [equal]

theorem dropperEvents_heed (hand : Hand) :
    Effect.dropperEvents hand other
        (state.heed handle occasion (memory, request?.toList)).effects =
      if other = handle then
        ((state.condition? handle).map fun condition =>
          hand.turns condition.running
            ((request?.map fun request => decide (request = .start)).getD
              condition.running)).getD []
      else [] := by
  have told : Effect.toldOfSurface other
        (state.heed handle occasion (memory, request?.toList)).effects =
      Effect.toldOfSurface other
        (state.roster.onSurface handle (obeyDropper request?.toList)).effects := rfl
  rw [Effect.dropperEvents, told,
    Roster.toldOfSurface_onSurface (obeyDropper_discreet _) consistent]
  by_cases equal : other = handle
  · rw [if_pos equal, if_pos equal]
    cases found : state.roster.surface? handle with
    | none =>
        rw [condition?, (Roster.condition?_eq_none_iff consistent).2 found]
        rfl
    | some surface =>
        obtain ⟨session, owned, _⟩ := consistent.exists_owner found
        rw [condition?, Roster.condition?_of_found _ found (Roster.state?_of_session? owned)]
        exact (obeyDropper_toList (consistent.live_of_surface? found) request? hand).2
  · rw [if_neg equal, if_neg equal]
    rfl

end Heed

theorem condition?_of_held {session : Session} {surface : Surface}
    (consistent : state.roster.Consistent) (found : state.roster.session? key = some session)
    (held : session.surface? handle = some surface) :
    state.condition? handle =
      some ⟨session.state, surface.dropperRunning, state.memory.contains handle⟩ := by
  have inside := Session.mem_of_surface?_eq_some held
  have member := Session.mem_surfaceHandles_of_surface? held
  have owned := (consistent.sound key session found).owned surface inside.1
  exact Roster.condition?_of_found _ ((consistent.surface?_of_mem found member).trans held)
    (owned ▸ Roster.state?_of_session? found)

theorem condition?_eq_none_iff (consistent : state.roster.Consistent) :
    state.condition? handle = none ↔ state.roster.surface? handle = none :=
  Roster.condition?_eq_none_iff consistent

theorem throttled_of_condition? {condition : Condition}
    (current : state.condition? handle = some condition) :
    condition.throttled = state.memory.contains handle := by
  obtain ⟨surface, _, mapped⟩ := Option.bind_eq_some_iff.1 current
  obtain ⟨owner, _, rfl⟩ := Option.map_eq_some_iff.1 mapped
  rfl

/-- What is done settles the conditions of some surfaces, tells so, and leaves the others alone. -/
structure Settles (state : Coordinator (KeySet SurfaceHandle)) (handles : List SurfaceHandle)
    (step : Step (Coordinator (KeySet SurfaceHandle)) Unit) : Prop where
  conditions : ∀ other, step.state.condition? other =
    if other ∈ handles then (state.condition? other).map Condition.settled
    else state.condition? other
  events : ∀ other, Effect.dropperEvents .policy other step.effects =
    if other ∈ handles then ((state.condition? other).map Condition.settling).getD [] else []
  memory : ∀ other, other ∉ handles →
    step.state.memory.contains other = state.memory.contains other

/-- A decision that settles the condition, and remembers the same of other surfaces. -/
theorem settles_heed {condition : Condition} {memory : KeySet SurfaceHandle}
    {request? : Option DropperRequest} (consistent : state.roster.Consistent)
    (current : state.condition? handle = some condition) (occasion : PolicyHook)
    (here : condition.settled =
      ⟨condition.owner,
        (request?.map fun request => decide (request = .start)).getD condition.running,
        memory.contains handle⟩)
    (elsewhere : ∀ other, other ≠ handle →
      memory.contains other = state.memory.contains other) :
    state.Settles [handle] (state.heed handle occasion (memory, request?.toList)) where
  conditions other := by
    rw [condition?_heed consistent]
    by_cases equal : other = handle
    · subst equal
      simp only [if_true, List.mem_singleton, current, Option.map_some, here]
    · simp only [equal, if_false, List.mem_singleton, elsewhere other equal]
      cases found : state.condition? other with
      | none => rfl
      | some remembered => rw [← throttled_of_condition? found, Option.map_some]
  events other := by
    rw [dropperEvents_heed consistent]
    by_cases equal : other = handle
    · subst equal
      simp only [if_true, List.mem_singleton, current, Option.map_some, Option.getD_some,
        Condition.settling, here]
    · simp only [equal, if_false, List.mem_singleton]
  memory other passed := elsewhere other (by simpa using passed)

/-- What is settled already is not settled again. -/
theorem Settles.andThen {first second : List SurfaceHandle}
    {step : Step (Coordinator (KeySet SurfaceHandle)) Unit}
    {next : Coordinator (KeySet SurfaceHandle) → Step (Coordinator (KeySet SurfaceHandle)) Unit}
    (settles : state.Settles first step)
    (settlesNext : step.state.Settles second (next step.state)) :
    state.Settles (first ++ second) (step.andThen fun _ later => next later) where
  conditions other := by
    have both := settlesNext.conditions other
    rw [settles.conditions other] at both
    simp only [Step.andThen, both, List.mem_append]
    by_cases early : other ∈ first <;> by_cases late : other ∈ second <;>
      simp [early, late, Function.comp_def]
  events other := by
    have later := settlesNext.events other
    rw [settles.conditions other] at later
    simp only [Step.andThen, Effect.dropperEvents_append, settles.events other, later,
      List.mem_append]
    by_cases early : other ∈ first <;> by_cases late : other ∈ second <;>
      cases state.condition? other <;> simp [early, late, Condition.settling]
  memory other passed := by
    rw [List.mem_append, not_or] at passed
    exact (settlesNext.memory other passed.2).trans (settles.memory other passed.1)

/-- Being consulted about a surface, the policy settles its condition. -/
theorem Consulted.settles {step : Step (Coordinator (KeySet SurfaceHandle)) Unit}
    (throttling : setup.policy = .throttleSuspended)
    (consulted : Consulted setup state key handle step) (consistent : state.roster.Consistent)
    (holds : state.roster.owners.find? handle = some key) : state.Settles [handle] step := by
  obtain ⟨session, found, member⟩ := (consistent.indexed handle key).1 holds
  obtain ⟨surface, held⟩ := Session.exists_surface?_of_mem member
  have current := condition?_of_held consistent found held
  obtain ⟨inside, rfl⟩ := Session.mem_of_surface?_eq_some held
  have live := (consistent.sound key session found).live surface inside
  have remembering (other : SurfaceHandle) (different : other ≠ surface.handle) :
      (KeySet.add state.memory surface.handle).contains other = state.memory.contains other ∧
        (state.memory.erase surface.handle).contains other = state.memory.contains other := by
    simp [KeySet.add, KeyMap.contains_insert, KeyMap.contains_erase, different]
  cases consulted with
  | silent idle =>
      have unmoved : Condition.settled
          ⟨session.state, surface.dropperRunning, state.memory.contains surface.handle⟩ =
          ⟨session.state, surface.dropperRunning, state.memory.contains surface.handle⟩ :=
        Condition.settled_of_idle (idle session found member)
      constructor
      · intro other
        by_cases equal : other = surface.handle
        · subst equal
          simp only [Step.quiet, List.mem_singleton, if_true, current, Option.map_some, unmoved]
        · simp only [Step.quiet, List.mem_singleton, equal, if_false]
      · intro other
        by_cases equal : other = surface.handle
        · subst equal
          simp only [Step.quiet, List.mem_singleton, if_true, current, Option.map_some,
            Option.getD_some, Condition.settling, unmoved, Hand.turns_self]
          rfl
        · simp only [Step.quiet, List.mem_singleton, equal, if_false]
          rfl
      · exact fun _ _ => rfl
  | suspended again heldAgain posture =>
      cases found.symm.trans again
      cases held.symm.trans heldAgain
      cases running : surface.dropperRunning with
      | true =>
          have decision : setup.policy.suspended state.memory session.view surface.view =
              (KeySet.add state.memory surface.handle, (some DropperRequest.stop).toList) := by
            simp [throttling, SurfacePolicy.throttleSuspended, Session.view, Surface.view, posture,
              live, running]
          rw [decision]
          apply settles_heed consistent current
          · simp [Condition.settled, posture, running, KeySet.add, KeyMap.contains_insert]
          · exact fun other different => (remembering other different).1
      | false =>
          have decision : setup.policy.suspended state.memory session.view surface.view =
              (state.memory, (none : Option DropperRequest).toList) := by
            simp [throttling, SurfacePolicy.throttleSuspended, Surface.view, running]
          rw [decision]
          apply settles_heed consistent current
          · simp [Condition.settled, posture, running]
          · exact fun _ _ => rfl
  | resumed again heldAgain posture =>
      cases found.symm.trans again
      cases held.symm.trans heldAgain
      cases throttled : state.memory.contains surface.handle with
      | true =>
          have decision : setup.policy.resumed state.memory session.view surface.view =
              (state.memory.erase surface.handle, (some DropperRequest.start).toList) := by
            simp [throttling, SurfacePolicy.throttleSuspended, Session.view, Surface.view, posture,
              throttled]
          rw [decision]
          apply settles_heed consistent current
          · simp [Condition.settled, posture, throttled, KeyMap.contains_erase]
          · exact fun other different => (remembering other different).2
      | false =>
          have decision : setup.policy.resumed state.memory session.view surface.view =
              (state.memory, (none : Option DropperRequest).toList) := by
            simp [throttling, SurfacePolicy.throttleSuspended, Surface.view, throttled]
          rw [decision]
          apply settles_heed consistent current
          · simp [Condition.settled, posture, throttled]
          · exact fun _ _ => rfl

/-- Being consulted about surfaces by those who hold them, the policy settles their conditions. -/
theorem consult_settles (throttling : setup.policy = .throttleSuspended)
    (consistent : state.roster.Consistent) (pending : Consultations)
    (holds : ∀ pair ∈ pending, state.roster.owners.find? pair.2 = some pair.1) :
    state.Settles (pending.map (·.2)) (consult setup pending state) := by
  induction pending generalizing state with
  | nil =>
      constructor
      · intro other
        rfl
      · intro other
        rfl
      · exact fun _ _ => rfl
  | cons pair rest ih =>
      have consulted := consultPolicy_consulted consistent setup pair.1 pair.2
      have first := consulted.settles throttling consistent (holds pair (List.mem_cons_self ..))
      apply first.andThen
      apply ih (consulted.consistent consistent)
      intro other member
      rw [consulted.owners]
      exact holds other (List.mem_cons_of_mem _ member)

end Coordinator

end AppLifecycle
