import AppLifecycle.Proofs.Coordinator.Settling

/-!
# How suspended sessions are throttled

Under the policy that throttles suspended sessions each input makes each surface take a turn
(`DropperTurn`): nothing happens to it, the shell commands its dropper, the state of its session
is another one, which settles its condition, or it comes up or goes. What is told of its dropper
belongs to the turn.
-/

namespace AppLifecycle

/-- What an input can do to the condition of a surface, and what is told of its dropper. -/
inductive DropperTurn (input : Input) (handle : SurfaceHandle) :
    Option Condition → Option Condition → List DropperEvent → Prop where
  | same (found : Option Condition) : DropperTurn input handle found found []
  | command {running : Bool} (condition : Condition)
      (asked : input.dropperCommand? = some (handle, running)) :
      DropperTurn input handle (some condition) (some { condition with running := running })
        (Hand.shell.turns condition.running running)
  | join (condition : Condition) (owner : SessionState) :
      DropperTurn input handle (some condition) (some { condition with owner := owner }.settled)
        { condition with owner := owner }.settling
  | appear (owner : SessionState) :
      DropperTurn input handle none (some (Condition.fresh owner).settled)
        (.appeared :: (Condition.fresh owner).settling)
  | vanish (condition : Condition) : DropperTurn input handle (some condition) none []

/-- The turns of a dropper between two times. -/
def DropperEvent.between (hand : Hand) : Option Bool → Option Bool → List DropperEvent
  | none, some _ => [.appeared]
  | some before, some after => hand.turns before after
  | _, none => []

/-- What a fate tells of the dropper. -/
theorem SurfaceFate.dropperEvents {input : Input} {handle : SurfaceHandle}
    {effects : List Effect} {before after : Option Surface} {told : List ShellNotification}
    (fate : SurfaceFate input handle effects before after told)
    (live : ∀ surface, before = some surface → surface.live = true) (hand : Hand) :
    told.filterMap (DropperEvent.ofNotification? hand) =
      DropperEvent.between hand (before.map (·.dropperRunning)) (after.map (·.dropperRunning)) := by
  cases fate with
  | same =>
      cases before with
      | none => rfl
      | some surface => exact (hand.turns_self _).symm
  | arrive => rfl
  | @touch touch surface asked =>
      have live := live surface rfl
      rw [Touch.dropperEvents live, Option.map_some, Option.map_some,
        Touch.dropperRunning_act live]
      rfl
  | handOver => exact (hand.turns_self _).symm
  | part surface whole =>
      unfold Surface.parting
      cases surface.focused <;> rfl

namespace Coordinator

variable {setup : Setup (KeySet SurfaceHandle)} {state : Coordinator (KeySet SurfaceHandle)}
  {input : Input} {key : SessionHandle} {handle : SurfaceHandle}

/-- The policy remembers no surface that nobody holds. -/
def Tidy (state : Coordinator (KeySet SurfaceHandle)) : Prop :=
  ∀ handle, state.roster.surface? handle = none → state.memory.contains handle = false

/-! ## Moves -/

/-- What a move can do to the condition of a surface, if some surfaces are to be asked about. -/
inductive Onset (input : Input) (asked : List SurfaceHandle) (handle : SurfaceHandle) :
    Option Condition → Option Condition → Prop where
  | same (found : Option Condition) (passed : handle ∉ asked) : Onset input asked handle found found
  | command {running : Bool} (condition : Condition)
      (commanded : input.dropperCommand? = some (handle, running)) (passed : handle ∉ asked) :
      Onset input asked handle (some condition) (some { condition with running := running })
  | join (condition : Condition) (owner : SessionState)
      (awaited : handle ∉ asked → owner ≠ .suspended ∧ owner ≠ .running) :
      Onset input asked handle (some condition) (some { condition with owner := owner })
  | appear (owner : SessionState) (awaited : handle ∈ asked) :
      Onset input asked handle none (some (Condition.fresh owner))
  | vanish (condition : Condition) (passed : handle ∉ asked) :
      Onset input asked handle (some condition) none

theorem contains_forgetting (throttling : setup.policy = .throttleSuspended)
    (handles : List SurfaceHandle) :
    (state.forgetting setup handles).memory.contains handle =
      (!decide (handle ∈ handles) && state.memory.contains handle) := by
  simp only [forgetting, throttling]
  exact KeyMap.contains_foldl_erase ..

theorem Onset.of_kept {asked : List SurfaceHandle} {later : Coordinator (KeySet SurfaceHandle)}
    (kept : later.condition? handle = state.condition? handle) (passed : handle ∉ asked) :
    Onset input asked handle (state.condition? handle) (later.condition? handle) := by
  rw [kept]
  exact .same _ passed

/-- Surfaces that go are forgotten, and the conditions of the others are as before. -/
theorem onset_forgetting {handles : List SurfaceHandle} {later : Coordinator (KeySet SurfaceHandle)}
    (throttling : setup.policy = .throttleSuspended) (consistent : later.roster.Consistent)
    (memory : later.memory = (state.forgetting setup handles).memory)
    (surfaces : later.roster.surface? handle =
      if handle ∈ handles then none else state.roster.surface? handle)
    (states : ∀ surface, handle ∉ handles → state.roster.surface? handle = some surface →
      later.roster.state? surface.owner = state.roster.state? surface.owner) :
    Onset input [] handle (state.condition? handle) (later.condition? handle) := by
  by_cases member : handle ∈ handles
  · rw [if_pos member] at surfaces
    rw [(condition?_eq_none_iff consistent).2 surfaces]
    cases state.condition? handle with
    | none => exact .same none List.not_mem_nil
    | some condition => exact .vanish condition List.not_mem_nil
  · rw [if_neg member] at surfaces
    apply Onset.of_kept _ List.not_mem_nil
    apply Roster.condition?_congr surfaces fun surface => states surface member
    rw [memory, contains_forgetting throttling]
    simp [member]

/-- A touch that leaves the droppers alone. -/
theorem condition?_of_aside {roster : Roster} {touched : SurfaceHandle} {touch : Touch}
    (consistent : roster.Consistent) (aside : ∀ running, touch.dropper running = running)
    (throttled : KeySet SurfaceHandle) :
    (roster.onSurface touched touch.act).state.condition? throttled handle =
      roster.condition? throttled handle := by
  rw [Roster.condition?_onSurface id (Touch.act_gentle _) consistent fun surface live =>
    (Touch.dropperRunning_act live touch).trans (aside _)]
  simp

/-- Droppers are left alone as the focus passes from one surface to another. -/
theorem condition?_focus (consistent : state.roster.Consistent) (next : SurfaceHandle) :
    ((state.unfocus next).state.onSurface next (Touch.act (.focus true))).state.condition?
      state.memory handle = state.condition? handle := by
  rw [condition?_of_aside (unfocus_consistent consistent _) fun _ => rfl]
  unfold unfocus
  split
  · exact condition?_of_aside consistent (fun _ => rfl) _
  · rfl

/-- The shell commands a dropper. -/
theorem onset_command {touch : Touch} {commanded : SurfaceHandle} {running : Bool}
    (consistent : state.roster.Consistent) (turns : ∀ before, touch.dropper before = running)
    (asked : input.dropperCommand? = some (commanded, running)) :
    Onset input [] handle (state.condition? handle)
      ((state.roster.onSurface commanded touch.act).state.condition? state.memory handle) := by
  rw [Roster.condition?_onSurface (fun _ => running) (Touch.act_gentle _) consistent
    fun surface live => (Touch.dropperRunning_act live touch).trans (turns _)]
  rw [← condition?]
  cases state.condition? handle with
  | none => exact .same none List.not_mem_nil
  | some condition =>
      by_cases equal : handle = commanded
      · rw [Option.map_some, if_pos equal]
        exact .command condition (equal ▸ asked) List.not_mem_nil
      · rw [Option.map_some, if_neg equal]
        exact .same _ List.not_mem_nil

/-- A touch that an input asks for is a command to a dropper, or leaves droppers alone. -/
theorem dropperCommand?_of_touch? {touch : Touch} (asked : input.touch? = some (touch, handle)) :
    (∃ running, input.dropperCommand? = some (handle, running) ∧
      ∀ before, touch.dropper before = running) ∨
    ∀ running, touch.dropper running = running := by
  cases input with
  | event event => cases event <;> cases asked <;> exact .inr fun _ => rfl
  | command command =>
      cases command with
      | startFrameDropper =>
          cases asked
          exact .inl ⟨true, rfl, fun _ => rfl⟩
      | stopFrameDropper =>
          cases asked
          exact .inl ⟨false, rfl, fun _ => rfl⟩
      | _ => cases asked <;> exact .inr fun _ => rfl
  | shutdown => cases asked

theorem onset_enroll {pid : UInt32} {appId : String} (consistent : state.roster.Consistent)
    (absent : state.roster.session? key = none) :
    Onset input [] handle (state.condition? handle)
      ((state.roster.enroll key pid appId).condition? state.memory handle) := by
  rw [Roster.condition?_congr (Roster.surface?_enroll consistent absent) _ rfl]
  · exact .same _ List.not_mem_nil
  · intro surface found
    obtain ⟨session, owned, _⟩ := consistent.exists_owner found
    have different : surface.owner ≠ key := by
      rintro rfl
      rw [owned] at absent
      contradiction
    simp only [Roster.state?, Roster.session?_enroll, different, if_false]

theorem mem_consultationsAt_iff {session : Session} {target : SessionState}
    {pair : SessionHandle × SurfaceHandle} :
    pair ∈ consultationsAt session key target ↔
      (target = .suspended ∨ target = .running) ∧ pair.1 = key ∧
        pair.2 ∈ session.surfaceHandles := by
  rcases pair with ⟨asking, asked⟩
  cases target <;> simp [consultationsAt, eq_comm, and_comm]

theorem onset_advance {session : Session} {target : SessionState}
    (consistent : state.roster.Consistent) (found : state.roster.session? key = some session)
    (active : target ≠ .stopped) :
    Onset input ((consultationsAt session key target).map (·.2)) handle (state.condition? handle)
      ((state.roster.put key { session with state := target }).condition? state.memory
        handle) := by
  have moved : (state.roster.put key { session with state := target }).surface? handle =
      state.roster.surface? handle := Roster.surface?_move consistent found active
  by_cases member : handle ∈ session.surfaceHandles
  · obtain ⟨surface, held⟩ := Session.exists_surface?_of_mem member
    have foundSurface := (consistent.surface?_of_mem found member).trans held
    have owned := (consistent.owner_eq_iff foundSurface found).2 member
    rw [condition?_of_held consistent found held,
      Roster.condition?_of_found state.memory (moved.trans foundSurface)
        (by rw [owned, Roster.state?_put, if_pos rfl])]
    refine .join ⟨session.state, _, _⟩ target fun passed => ?_
    -- All that the session holds is asked about, in a state in which anything is.
    rw [← not_or]
    intro asking
    have listed : (key, handle) ∈ consultationsAt session key target :=
      mem_consultationsAt_iff.2 ⟨asking, rfl, member⟩
    exact passed (List.mem_map.2 ⟨(key, handle), listed, rfl⟩)
  · rw [Roster.condition?_congr moved _ rfl]
    · refine .same _ fun asked => member ?_
      obtain ⟨pair, listed, rfl⟩ := List.mem_map.1 asked
      exact (mem_consultationsAt_iff.1 listed).2.2
    · intro surface foundSurface
      have different : surface.owner ≠ key := fun same =>
        member ((consistent.owner_eq_iff foundSurface found).1 same)
      rw [Roster.state?_put, if_neg different]

theorem onset_arrive {arrived : SurfaceHandle} {session : Session} {surface : Surface}
    (consistent : state.roster.Consistent) (tidy : state.Tidy)
    (absent : state.roster.owners.find? arrived = none)
    (found : state.roster.session? key = some session) (called : surface.handle = arrived)
    (live : surface.live = true) (running : surface.dropperRunning = true) :
    Onset input [arrived] handle (state.condition? handle)
      ((state.roster.deliver key session surface).condition? state.memory handle) := by
  subst called
  have delivered : (state.roster.deliver key session surface).surface? handle =
      if handle = surface.handle then some { surface with owner := key }
      else state.roster.surface? handle := Roster.surface?_deliver consistent found absent live
  by_cases equal : handle = surface.handle
  · have unmanaged : state.roster.surface? handle = none := by
      rw [equal]
      exact consistent.surface?_eq_none_iff.2 absent
    have owned : (state.roster.deliver key session surface).state? key = some session.state :=
      (Roster.state?_deliver found).trans (Roster.state?_of_session? found)
    rw [(condition?_eq_none_iff consistent).2 unmanaged,
      Roster.condition?_of_found state.memory (delivered.trans (if_pos equal)) owned,
      running, tidy handle unmanaged]
    exact .appear session.state (List.mem_singleton.2 equal)
  · rw [Roster.condition?_congr (delivered.trans (if_neg equal))
      (fun _ _ => Roster.state?_deliver found) rfl]
    exact .same _ (List.mem_singleton.not.2 equal)

theorem onset_handOver {moved : SurfaceHandle} {target : SessionHandle}
    {session receiver : Session} {surface : Surface} (consistent : state.roster.Consistent)
    (found : state.roster.session? key = some session)
    (held : session.surface? moved = some surface)
    (foundTarget : state.roster.session? target = some receiver) (different : key ≠ target) :
    Onset input [moved] handle (state.condition? handle)
      (((state.roster.collect key session moved).deliver target receiver surface).condition?
        state.memory handle) := by
  have surfaces : ((state.roster.collect key session moved).deliver target receiver
        surface).surface? handle =
      if handle = moved then some { surface with owner := target }
      else state.roster.surface? handle :=
    Roster.surface?_handOver consistent found held foundTarget different
  have states (candidate : SessionHandle) :
      ((state.roster.collect key session moved).deliver target receiver surface).state?
        candidate = state.roster.state? candidate :=
    Roster.state?_handOver found foundTarget different
  by_cases equal : handle = moved
  · have owned := (states target).trans (Roster.state?_of_session? foundTarget)
    rw [Roster.condition?_of_found state.memory (surfaces.trans (if_pos equal)) owned]
    subst equal
    rw [condition?_of_held consistent found held]
    exact .join ⟨session.state, _, _⟩ receiver.state fun passed =>
      absurd (List.mem_singleton.2 rfl) passed
  · rw [Roster.condition?_congr (surfaces.trans (if_neg equal)) (fun _ _ => states _) rfl]
    exact .same _ (List.mem_singleton.not.2 equal)

theorem Move.onset {move : Step (Coordinator (KeySet SurfaceHandle)) Consultations}
    (throttling : setup.policy = .throttleSuspended) (moved : Move setup state input move)
    (consistent : state.roster.Consistent) (tidy : state.Tidy) (handle : SurfaceHandle) :
    Onset input (move.answer.map (·.2)) handle (state.condition? handle)
      (move.state.condition? handle) := by
  have after := moved.consistent consistent
  cases moved with
  | still => exact .same _ List.not_mem_nil
  | refuse => exact .same _ List.not_mem_nil
  | enroll appId absent => exact onset_enroll consistent absent
  | advance asked found edge active willing => exact onset_advance consistent found active
  | @finish input key session asked found =>
      apply onset_forgetting throttling after rfl (Roster.surface?_discard consistent found)
      intro surface elsewhere foundSurface
      have different : surface.owner ≠ key := fun same =>
        elsewhere ((consistent.owner_eq_iff foundSurface found).1 same)
      simp only [Roster.state?, Roster.session?_discard, different, if_false]
  | arrive absent found =>
      exact onset_arrive consistent tidy absent found rfl rfl rfl
  | depart found held =>
      apply onset_forgetting throttling after rfl
      · rw [Roster.surface?_collect consistent found (Session.mem_surfaceHandles_of_surface? held)]
        simp only [List.mem_singleton]
      · exact fun _ _ _ => Roster.state?_collect found
  | handOver found held foundTarget different =>
      exact onset_handOver consistent found held foundTarget different
  | @focus other surface found =>
      exact .of_kept (condition?_focus consistent other) List.not_mem_nil
  | @touch input touch other asked =>
      rcases dropperCommand?_of_touch? asked with ⟨running, commanded, turns⟩ | aside
      · exact onset_command consistent turns commanded
      · exact .of_kept (condition?_of_aside consistent aside _) List.not_mem_nil
  | shutdown =>
      apply onset_forgetting throttling after rfl (Roster.surface?_removeAll consistent)
      intro surface elsewhere foundSurface
      exact absurd (consistent.mem_surfaceHandles_iff.2 ⟨surface, foundSurface⟩) elsewhere

/-- What is remembered is not more, and of what went nothing is remembered. -/
theorem tidy_forgetting {handles : List SurfaceHandle} {later : Coordinator (KeySet SurfaceHandle)}
    (throttling : setup.policy = .throttleSuspended) (tidy : state.Tidy)
    (memory : later.memory = (state.forgetting setup handles).memory)
    (surfaces : ∀ handle, later.roster.surface? handle =
      if handle ∈ handles then none else state.roster.surface? handle) : later.Tidy := by
  intro handle absent
  rw [memory, contains_forgetting throttling]
  by_cases member : handle ∈ handles
  · simp [member]
  · rw [surfaces, if_neg member] at absent
    simp [tidy handle absent]

/-- A move that removes no surface and leaves the memory of the policy alone. -/
theorem tidy_of_kept {later : Coordinator (KeySet SurfaceHandle)} (tidy : state.Tidy)
    (memory : later.memory = state.memory)
    (kept : ∀ handle, later.roster.surface? handle = none →
      state.roster.surface? handle = none) : later.Tidy := by
  intro handle absent
  rw [memory]
  exact tidy handle (kept handle absent)

theorem Move.tidy {move : Step (Coordinator (KeySet SurfaceHandle)) Consultations}
    (throttling : setup.policy = .throttleSuspended) (moved : Move setup state input move)
    (consistent : state.roster.Consistent) (tidy : state.Tidy) : move.state.Tidy := by
  cases moved with
  | still => exact tidy
  | refuse => exact tidy
  | enroll appId absent =>
      refine tidy_of_kept tidy rfl fun handle => ?_
      rw [Roster.surface?_enroll consistent absent]
      exact id
  | advance asked found edge active willing =>
      refine tidy_of_kept tidy rfl fun handle => ?_
      rw [Roster.surface?_move consistent found active]
      exact id
  | finish asked found =>
      exact tidy_forgetting throttling tidy rfl fun _ => Roster.surface?_discard consistent found
  | arrive absent found =>
      refine tidy_of_kept tidy rfl fun handle => ?_
      rw [Roster.surface?_deliver consistent found absent rfl]
      split
      · simp
      · exact id
  | depart found held =>
      refine tidy_forgetting throttling tidy rfl fun handle => ?_
      rw [Roster.surface?_collect consistent found (Session.mem_surfaceHandles_of_surface? held)]
      simp only [List.mem_singleton]
  | handOver found held foundTarget different =>
      refine tidy_of_kept tidy rfl fun handle => ?_
      rw [Roster.surface?_handOver consistent found held foundTarget different]
      split
      · simp
      · exact id
  | @focus other surface found =>
      refine tidy_of_kept tidy rfl fun handle absent => ?_
      have unfocused := unfocus_consistent consistent other
      have none : (state.roster).condition? state.memory handle = none := by
        rw [← condition?, ← condition?_focus consistent other]
        exact (Roster.condition?_eq_none_iff (unfocused.onSurface (Touch.act_gentle _))).2 absent
      exact (Roster.condition?_eq_none_iff consistent).1 none
  | touch asked =>
      refine tidy_of_kept tidy rfl fun handle => ?_
      rw [Roster.surface?_onSurface (Touch.act_gentle _) consistent]
      split
      · rename_i equal
        rw [equal]
        exact Option.map_eq_none_iff.1
      · exact id
  | shutdown =>
      exact tidy_forgetting throttling tidy rfl fun _ => Roster.surface?_removeAll consistent

/-- Those to be asked about are held by those who ask, and no command to a dropper asks. -/
theorem Move.awaits {move : Step (Coordinator (KeySet SurfaceHandle)) Consultations}
    (moved : Move setup state input move) (consistent : state.roster.Consistent)
    (pair : SessionHandle × SurfaceHandle) (member : pair ∈ move.answer) :
    move.state.roster.owners.find? pair.2 = some pair.1 ∧ input.hand = .policy := by
  have after := moved.consistent consistent
  cases moved with
  | @advance input op key session target asked found edge active willing =>
      obtain ⟨_, asking, held⟩ := mem_consultationsAt_iff.1 member
      have filed : (state.roster.put key { session with state := target }).session? key =
          some { session with state := target } := by
        rw [Roster.session?_put, if_pos rfl]
      rw [asking]
      refine ⟨after.owners_of_mem filed held, ?_⟩
      cases input with
      | event => rfl
      | command command => cases command <;> first | rfl | cases asked
      | shutdown => rfl
  | arrive absent found =>
      cases List.mem_singleton.1 member
      exact ⟨by rw [Roster.owners_deliver]; exact if_pos rfl, rfl⟩
  | @handOver handle key target session receiver surface found held foundTarget different =>
      cases List.mem_singleton.1 member
      refine ⟨?_, rfl⟩
      rw [Roster.owners_deliver, if_pos (Session.mem_of_surface?_eq_some held).2.symm]
  | _ => simp [Step.quiet] at member

/-! ## Inputs -/

/-- What a move begins, the consultations complete. -/
theorem Onset.completed {asked : List SurfaceHandle} {before middle : Option Condition}
    (onset : Onset input asked handle before middle) :
    DropperTurn input handle before
      (if handle ∈ asked then middle.map Condition.settled else middle)
      (DropperEvent.between input.hand (before.map (·.running)) (middle.map (·.running)) ++
        if handle ∈ asked then (middle.map Condition.settling).getD [] else []) := by
  cases onset with
  | same found passed =>
      rw [if_neg passed, if_neg passed, List.append_nil]
      cases before with
      | none => exact .same none
      | some condition =>
          simp only [Option.map_some, DropperEvent.between, Hand.turns_self]
          exact .same _
  | command condition commanded passed =>
      have hand : input.hand = .shell := by simp [Input.hand, commanded]
      rw [if_neg passed, if_neg passed, List.append_nil, hand]
      exact .command condition commanded
  | join condition owner awaited =>
      have turn : DropperTurn input handle (some condition) _ _ := .join condition owner
      simp only [Option.map_some, DropperEvent.between, Hand.turns_self, List.nil_append]
      by_cases member : handle ∈ asked
      · rw [if_pos member, if_pos member]
        exact turn
      · rw [if_neg member, if_neg member]
        rwa [Condition.settling, Condition.settled_of_idle (awaited member),
          Hand.turns_self] at turn
  | appear owner awaited =>
      rw [if_pos awaited, if_pos awaited]
      exact .appear owner
  | vanish condition passed =>
      rw [if_neg passed, if_neg passed]
      exact .vanish condition

/-- Each input makes each surface take a turn, and the policy still remembers no surface that
nobody holds. -/
theorem handleInput_turns (throttling : setup.policy = .throttleSuspended)
    (consistent : state.roster.Consistent) (tidy : state.Tidy) (input : Input) :
    let step := handleInput setup input state
    step.state.Tidy ∧ ∀ handle,
      DropperTurn input handle (state.condition? handle) (step.state.condition? handle)
        (Effect.dropperEvents input.hand handle step.effects) := by
  obtain ⟨move, moved, equal⟩ := handleInput_follows consistent setup input
  rw [equal]
  have middle := moved.consistent consistent
  have awaits := moved.awaits consistent
  have settles := consult_settles throttling middle move.answer fun pair member =>
    (awaits pair member).1
  constructor
  · intro handle absent
    -- Who is asked about is held, so nothing new is remembered of those whom nobody holds.
    have absentBefore := (consult_keeps setup middle move.answer).2 handle absent
    have passed : handle ∉ move.answer.map (·.2) := by
      intro member
      obtain ⟨pair, asked, rfl⟩ := List.mem_map.1 member
      rw [middle.surface?_eq_none_iff, (awaits pair asked).1] at absentBefore
      contradiction
    exact (settles.memory handle passed).trans
      (moved.tidy throttling consistent tidy _ absentBefore)
  · intro handle
    have told : Effect.dropperEvents input.hand handle move.effects =
        DropperEvent.between input.hand ((state.condition? handle).map (·.running))
          ((move.state.condition? handle).map (·.running)) := by
      have fate := moved.surfaceFate consistent handle
      rw [condition?, condition?, Roster.running_condition? consistent,
        Roster.running_condition? middle]
      exact fate.dropperEvents (fun surface found => consistent.live_of_surface? found) _
    -- No command to a dropper asks about anything, so what is told now is the policy's doing.
    have answered : Effect.dropperEvents input.hand handle
          (consult setup move.answer move.state).effects =
        if handle ∈ move.answer.map (·.2) then
          ((move.state.condition? handle).map Condition.settling).getD []
        else [] := by
      cases pending : move.answer with
      | nil => rfl
      | cons pair rest =>
          have policy := (awaits pair (by simp [pending])).2
          rw [policy, ← pending]
          exact settles.events handle
    simp only [Step.andThen, Effect.dropperEvents_append, told, answered,
      settles.conditions handle]
    exact (moved.onset throttling consistent tidy handle).completed

/-! ## Runs -/

theorem after_tidy (throttling : setup.policy = .throttleSuspended) (moments : List Moment) :
    (after setup moments).Tidy := by
  have both : (after setup moments).roster.Consistent ∧ (after setup moments).Tidy := by
    refine run_induction setup (fun _ state => state.roster.Consistent ∧ state.Tidy)
      ⟨Roster.empty_consistent, ?_⟩ ?_ moments
    · intro handle _
      simp only [start, throttling]
      rfl
    · rintro past state moment ⟨consistent, tidy⟩
      have throttlingThere : (setup.amid moment.surroundings).policy = .throttleSuspended :=
        throttling
      exact ⟨handleInput_consistent consistent _ _,
        (handleInput_turns throttlingThere consistent tidy moment.input).1⟩
  exact both.2

/-- One more input makes each surface take a turn. -/
theorem after_turns (throttling : setup.policy = .throttleSuspended) (moments : List Moment)
    (last : Moment) (handle : SurfaceHandle) :
    DropperTurn last.input handle ((after setup moments).condition? handle)
      ((after setup (moments ++ [last])).condition? handle)
      (Effect.dropperEvents last.input.hand handle
        (handleInput (setup.amid last.surroundings) last.input (after setup moments)).effects) := by
  have throttlingThere : (setup.amid last.surroundings).policy = .throttleSuspended := throttling
  rw [after_concat]
  exact (handleInput_turns throttlingThere
    (after_consistent setup moments) (after_tidy throttling moments) last.input).2 handle

/-- What the policy remembers of a surface. -/
theorem contains_memory (throttling : setup.policy = .throttleSuspended) (moments : List Moment)
    (handle : SurfaceHandle) :
    (after setup moments).memory.contains handle =
      (((after setup moments).condition? handle).map (·.throttled)).getD false := by
  cases found : (after setup moments).condition? handle with
  | none =>
      exact after_tidy throttling moments handle
        ((condition?_eq_none_iff (after_consistent setup moments)).1 found)
  | some condition => exact (throttled_of_condition? found).symm

end Coordinator

end AppLifecycle
