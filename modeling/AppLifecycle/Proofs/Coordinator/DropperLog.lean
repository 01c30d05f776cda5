import AppLifecycle.Proofs.Coordinator.SuspendedDroppers

/-!
# Whose dropper the policy starts

The policy that throttles suspended sessions starts again what it stopped. It is not told of what
the shell does meanwhile: between the stop and the start the shell may have started and stopped
the dropper itself, any number of times (`restarts_after`). So the stop that the policy undoes need
not be its own.
-/

namespace AppLifecycle

/-- The policy stopped the dropper, and since then the shell has started and stopped it in turn. -/
def Warranted (log : List DropperEvent) : Prop :=
  ∃ earlier rounds, log = earlier ++ .turned .policy false ::
    (List.replicate rounds [.turned .shell true, .turned .shell false]).flatten

/-- Whenever the policy starts the dropper, it had stopped it. -/
def RestartsWarranted (log : List DropperEvent) : Prop :=
  ∀ before rest, log = before ++ .turned .policy true :: rest → Warranted before

section Log

variable {log : List DropperEvent}

theorem Warranted.of_stop (log : List DropperEvent) : Warranted (log ++ [.turned .policy false]) :=
  ⟨log, 0, rfl⟩

theorem Warranted.round (warranted : Warranted log) :
    Warranted (log ++ [.turned .shell true] ++ [.turned .shell false]) := by
  obtain ⟨earlier, rounds, rfl⟩ := warranted
  refine ⟨earlier, rounds + 1, ?_⟩
  simp [List.replicate_succ']

theorem RestartsWarranted.nil : RestartsWarranted [] := by
  intro before rest split
  simp at split

theorem RestartsWarranted.concat (restarts : RestartsWarranted log) {event : DropperEvent}
    (warranted : event = .turned .policy true → Warranted log) :
    RestartsWarranted (log ++ [event]) := by
  intro before rest split
  rcases List.eq_nil_or_concat rest with rfl | ⟨former, last, rfl⟩
  · obtain ⟨rfl, same⟩ := List.append_inj' split rfl
    exact warranted (List.cons.inj same).1
  · rw [List.concat_eq_append, ← List.cons_append, ← List.append_assoc] at split
    exact restarts before former (List.append_inj' split rfl).1

theorem RestartsWarranted.turns (restarts : RestartsWarranted log) {hand : Hand}
    {before after : Bool}
    (warranted : hand = .policy → before = false → after = true → Warranted log) :
    RestartsWarranted (log ++ hand.turns before after) := by
  unfold Hand.turns
  split
  · rwa [List.append_nil]
  · rename_i different
    apply restarts.concat
    intro same
    cases same
    exact warranted rfl (by simpa using Ne.symm different) rfl

end Log

/-- What the log of a dropper tells of the condition of its surface. -/
structure Accounts (log : List DropperEvent) (condition : Condition) : Prop where
  /-- The policy remembers no surface of a running session. -/
  idle : condition.throttled = true → condition.owner ≠ .running
  /-- It stopped what it remembers, and where it runs again, the shell started it. -/
  stopped : condition.throttled = true → condition.running = false → Warranted log
  started : condition.throttled = true → condition.running = true →
    ∃ former, Warranted former ∧ log = former ++ [.turned .shell true]

theorem Accounts.of_forgotten {log : List DropperEvent} {condition : Condition}
    (forgotten : condition.throttled = false) : Accounts log condition := by
  constructor <;> intro throttled <;> rw [forgotten] at throttled <;> contradiction

/-- A condition is settled. -/
theorem Accounts.settled {log : List DropperEvent} {condition : Condition}
    (stopped : condition.throttled = true → condition.running = false → Warranted log)
    (started : condition.throttled = true → condition.running = true →
      ∃ former, Warranted former ∧ log = former ++ [.turned .shell true]) :
    Accounts (log ++ condition.settling) condition.settled := by
  unfold Condition.settling Condition.settled
  split
  · rename_i suspended
    refine ⟨fun _ => ?_, fun _ _ => ?_, fun _ => ?_⟩
    · simp [suspended.1]
    · rw [Hand.turns, if_neg (by simp [suspended.2])]
      exact .of_stop log
    · simp
  · split
    · exact .of_forgotten rfl
    · rename_i awake
      rw [Hand.turns_self, List.append_nil]
      refine ⟨fun throttled running => awake ⟨running, throttled⟩, stopped, started⟩

/-! ## One turn -/

section Turn

variable {input : Input} {handle : SurfaceHandle} {before after : Option Condition}
  {events log : List DropperEvent} (turn : DropperTurn input handle before after events)
include turn

theorem DropperTurn.restartsWarranted (restarts : RestartsWarranted log)
    (accounts : ∀ condition, before = some condition → Accounts log condition) :
    RestartsWarranted (log ++ events) := by
  cases turn with
  | same => rwa [List.append_nil]
  | command condition asked =>
      apply restarts.turns
      intro policy
      contradiction
  | join condition owner =>
      apply restarts.turns
      intro _ stood runs
      have throttled : condition.throttled = true := by
        rcases condition with ⟨former, running, throttled⟩
        cases (stood : running = false)
        cases throttled <;> simp_all [Condition.settled]
      exact (accounts condition rfl).stopped throttled stood
  | appear owner =>
      rw [← List.singleton_append, ← List.append_assoc]
      apply (restarts.concat (by simp)).turns
      intro _ stood
      contradiction
  | vanish => rwa [List.append_nil]

theorem DropperTurn.accounts
    (accounts : ∀ condition, before = some condition → Accounts log condition)
    (condition : Condition) (found : after = some condition) :
    Accounts (log ++ events) condition := by
  cases turn with
  | same =>
      rw [List.append_nil]
      exact accounts condition found
  | @command running former asked =>
      cases found
      have known := accounts former rfl
      by_cases same : running = former.running
      · subst same
        rw [Hand.turns_self, List.append_nil]
        exact known
      · -- A command that changes something begins a round of the shell or completes one.
        rw [Hand.turns, if_neg same]
        refine ⟨known.idle, fun throttled stands => ?_, fun throttled runs => ?_⟩
        · have ran : former.running = true := by simpa [show running = false from stands] using same
          obtain ⟨earlier, warranted, rfl⟩ := known.started throttled ran
          rw [show running = false from stands]
          exact warranted.round
        · have stood : former.running = false := by simpa [show running = true from runs] using same
          rw [show running = true from runs]
          exact ⟨log, known.stopped throttled stood, rfl⟩
  | join former owner =>
      cases found
      have known := accounts former rfl
      exact .settled known.stopped known.started
  | appear owner =>
      cases found
      rw [← List.singleton_append, ← List.append_assoc]
      apply Accounts.settled <;> intro throttled <;> contradiction
  | vanish => contradiction

/-- The policy comes to remember what it stops, and forgets what runs. -/
theorem DropperTurn.remembered
    (idle : ∀ condition, before = some condition → condition.throttled = true →
      condition.owner ≠ .running) :
    (after.map (·.throttled)).getD false = true ↔
      (∃ owner, after.map (·.owner) = some owner ∧ owner ≠ .running) ∧
        ((before.map (·.throttled)).getD false = true ∨ .turned .policy false ∈ events) := by
  cases turn with
  | same =>
      cases before with
      | none => simp
      | some condition =>
          have idle := idle condition rfl
          simp only [Option.map_some, Option.getD_some, Option.some.injEq, exists_eq_left',
            List.not_mem_nil, or_false]
          exact ⟨fun throttled => ⟨idle throttled, throttled⟩, And.right⟩
  | @command running former asked =>
      have idle := idle former rfl
      have silent : .turned .policy false ∉ Hand.shell.turns former.running running := by
        unfold Hand.turns
        split <;> simp
      simp only [Option.map_some, Option.getD_some, Option.some.injEq, exists_eq_left', silent,
        or_false]
      exact ⟨fun throttled => ⟨idle throttled, throttled⟩, And.right⟩
  | join former owner =>
      rcases former with ⟨posture, running, throttled⟩
      cases owner <;> cases running <;> cases throttled <;>
        simp [Condition.settled, Condition.settling, Hand.turns]
  | appear owner =>
      cases owner <;> simp [Condition.fresh, Condition.settled, Condition.settling, Hand.turns]
  | vanish => simp

/-- A dropper that stands still and is not started by the shell is started exactly if the policy
remembers it and the session that holds the surface is running. -/
theorem DropperTurn.restarted {condition later : Condition}
    (idle : condition.throttled = true → condition.owner ≠ .running)
    (found : before = some condition) (foundLater : after = some later)
    (stood : condition.running = false)
    (unstarted : input.dropperCommand? ≠ some (handle, true)) :
    later.running = true ↔ condition.throttled = true ∧ later.owner = .running := by
  cases turn with
  | same =>
      cases found.symm.trans foundLater
      rw [stood]
      constructor
      · intro runs
        contradiction
      · rintro ⟨throttled, runs⟩
        exact absurd runs (idle throttled)
  | @command running former asked =>
      cases found
      cases foundLater
      have stops : running = false := by
        cases running with
        | false => rfl
        | true => exact absurd asked unstarted
      constructor
      · intro runs
        rw [show running = true from runs] at stops
        contradiction
      · rintro ⟨throttled, runs⟩
        exact absurd runs (idle throttled)
  | join former owner =>
      cases found
      cases foundLater
      rcases condition with ⟨posture, running, throttled⟩
      cases (show running = false from stood)
      cases owner <;> cases throttled <;> simp [Condition.settled]
  | appear => contradiction
  | vanish => contradiction

/-- A dropper that stands still, and that the policy does not remember, stays so. -/
theorem DropperTurn.stays {condition later : Condition} (found : before = some condition)
    (foundLater : after = some later) (stood : condition.running = false)
    (forgotten : condition.throttled = false)
    (unstarted : input.dropperCommand? ≠ some (handle, true)) :
    later.running = false ∧ later.throttled = false := by
  cases turn with
  | same =>
      cases found.symm.trans foundLater
      exact ⟨stood, forgotten⟩
  | @command running former asked =>
      cases found
      cases foundLater
      cases running with
      | false => exact ⟨rfl, forgotten⟩
      | true => exact absurd asked unstarted
  | join former owner =>
      cases found
      cases foundLater
      simp [Condition.settled, stood, forgotten]
  | appear => contradiction
  | vanish => contradiction

end Turn

/-! ## Runs -/

namespace Coordinator

/-- What a run tells of the dropper of a surface. -/
def dropperLog {π : Type} (setup : Setup π) (handle : SurfaceHandle) (moments : List Moment) :
    List DropperEvent :=
  (chronicle setup moments).flatMap fun chapter =>
    Effect.dropperEvents chapter.input.hand handle chapter.effects

variable {setup : Setup (KeySet SurfaceHandle)} {handle : SurfaceHandle}

theorem dropperLog_concat {π : Type} (setup : Setup π) (handle : SurfaceHandle)
    (moments : List Moment) (last : Moment) :
    dropperLog setup handle (moments ++ [last]) =
      dropperLog setup handle moments ++
        Effect.dropperEvents last.input.hand handle
          (handleInput (setup.amid last.surroundings) last.input
            (after setup moments)).effects := by
  rw [dropperLog, chronicle_concat, List.flatMap_append, List.flatMap_singleton]
  rfl

theorem after_accounts (throttling : setup.policy = .throttleSuspended) (moments : List Moment)
    (handle : SurfaceHandle) :
    RestartsWarranted (dropperLog setup handle moments) ∧
      ∀ condition, (after setup moments).condition? handle = some condition →
        Accounts (dropperLog setup handle moments) condition := by
  induction moments using List.reverseRecOn with
  | nil => exact ⟨.nil, fun _ impossible => nomatch impossible⟩
  | append_singleton moments last ih =>
      have turn := after_turns throttling moments last handle
      rw [dropperLog_concat]
      exact ⟨turn.restartsWarranted ih.1 ih.2, turn.accounts ih.2⟩

/-- What stands still and is not remembered stays so while the surface is there and the shell does
not start its dropper. -/
theorem after_stays (throttling : setup.policy = .throttleSuspended) (moments more : List Moment)
    {condition : Condition} (found : (after setup moments).condition? handle = some condition)
    (stood : condition.running = false) (forgotten : condition.throttled = false)
    (unstarted : ∀ moment ∈ more, moment.input.dropperCommand? ≠ some (handle, true))
    (held : ∀ count ≤ more.length,
      (after setup (moments ++ more.take count)).condition? handle ≠ none) :
    ∃ later, (after setup (moments ++ more)).condition? handle = some later ∧
      later.running = false ∧ later.throttled = false := by
  induction more using List.reverseRecOn with
  | nil =>
      rw [List.append_nil]
      exact ⟨condition, found, stood, forgotten⟩
  | append_singleton more last ih =>
      have whole := held (more.length + 1) (by simp)
      rw [List.take_of_length_le (by simp)] at whole
      obtain ⟨former, foundFormer, formerStood, formerForgotten⟩ := ih
        (fun moment member => unstarted moment (by simp [member]))
        fun count within => by
          have earlier := held count (by simp; omega)
          rwa [List.take_append_of_le_length within] at earlier
      obtain ⟨later, foundLater⟩ := Option.ne_none_iff_exists'.1 whole
      rw [← List.append_assoc] at foundLater ⊢
      have turn := after_turns throttling (moments ++ more) last handle
      exact ⟨later, foundLater, turn.stays foundFormer foundLater formerStood formerForgotten
        (unstarted last (by simp))⟩

/-- The droppers that the policy starts, where suspended sessions are throttled, for every run with
commands of the shell to frame droppers at any time. Whenever the policy starts a dropper, the
shell has commanded nothing to it since the policy stopped it but to start and to stop in turn.
With each further input the policy remembers, of surfaces whose sessions do not run, those that it
remembered and those whose droppers it now stops; and of the droppers that stand still and are not
started by the shell it starts those that it remembered whose sessions run. A dropper that stands
still and is not remembered stays as it is, until its surface goes or the shell starts it. -/
theorem restarts_after (setup : Setup (KeySet SurfaceHandle))
    (throttling : setup.policy = .throttleSuspended) (moments : List Moment)
    (handle : SurfaceHandle) :
    let state := after setup moments
    RestartsWarranted (dropperLog setup handle moments) ∧
    (∀ last : Moment,
      let next := after setup (moments ++ [last])
      (next.memory.contains handle = true ↔
        (∃ owner, next.ownerState? handle = some owner ∧ owner ≠ .running) ∧
          (state.memory.contains handle = true ∨
            .turned .policy false ∈ Effect.dropperEvents last.input.hand handle
              (handleInput (setup.amid last.surroundings) last.input state).effects)) ∧
      ∀ surface later, state.roster.surface? handle = some surface →
        next.roster.surface? handle = some later → surface.dropperRunning = false →
        last.input.dropperCommand? ≠ some (handle, true) →
        (later.dropperRunning = true ↔
          state.memory.contains handle = true ∧ next.ownerState? handle = some .running)) ∧
    ∀ surface more, state.roster.surface? handle = some surface →
      surface.dropperRunning = false → state.memory.contains handle = false →
      (∀ moment ∈ more, moment.input.dropperCommand? ≠ some (handle, true)) →
      (∀ count ≤ more.length,
        (after setup (moments ++ more.take count)).roster.surface? handle ≠ none) →
      ∃ later, (after setup (moments ++ more)).roster.surface? handle = some later ∧
        later.dropperRunning = false := by
  intro state
  have consistent : state.roster.Consistent := after_consistent setup moments
  have accounts := (after_accounts throttling moments handle).2
  refine ⟨(after_accounts throttling moments handle).1, fun last => ⟨?_, ?_⟩, ?_⟩
  · have law := (after_turns throttling moments last handle).remembered fun condition found =>
      (accounts condition found).idle
    rw [← contains_memory throttling, ← contains_memory throttling,
      owner_condition? (after_consistent ..)] at law
    exact law
  · intro surface later found foundLater stood unstarted
    obtain ⟨owner, _, current⟩ := condition?_of_surface? consistent found
    obtain ⟨ownerLater, owned, currentLater⟩ :=
      condition?_of_surface? (after_consistent setup (moments ++ [last])) foundLater
    rw [owned, Option.some.injEq]
    exact (after_turns throttling moments last handle).restarted (accounts _ current).idle current
      currentLater stood unstarted
  · intro surface more found stood forgotten unstarted held
    obtain ⟨owner, _, current⟩ := condition?_of_surface? consistent found
    obtain ⟨condition, currentLater, stands, _⟩ := after_stays throttling moments more current stood
      forgotten unstarted fun count within =>
        (condition?_eq_none_iff (after_consistent ..)).not.2 (held count within)
    have running : ((after setup (moments ++ more)).condition? handle).map (·.running) = _ :=
      Roster.running_condition? (after_consistent ..)
    rw [currentLater, Option.map_some, stands] at running
    exact Option.map_eq_some_iff.1 running.symm

/-! ## A shell that meddles -/

/-- While its session is suspended, the shell starts and stops the dropper of a window; then the
session is resumed. -/
def meddling : List Moment :=
  suspendedWindow ++
    [⟨.command (.startFrameDropper ⟨10⟩), throttlingSetup.surroundings⟩,
      ⟨.command (.stopFrameDropper ⟨10⟩), throttlingSetup.surroundings⟩,
      ⟨.command (.resumeSession ⟨1⟩), throttlingSetup.surroundings⟩]

/-- The policy had stopped the dropper that it starts at last. -/
theorem restart_of_meddling :
    throttlingSetup.policy = .throttleSuspended ∧
      Warranted [.appeared, .turned .policy false, .turned .shell true, .turned .shell false] := by
  have throttling : throttlingSetup.policy = .throttleSuspended := rfl
  have log : dropperLog throttlingSetup ⟨10⟩ meddling =
      [.appeared, .turned .policy false, .turned .shell true, .turned .shell false] ++
        .turned .policy true :: [] := by decide
  exact ⟨throttling, (restarts_after throttlingSetup throttling meddling ⟨10⟩).1 _ _ log⟩

/-- The policy starts a dropper that the shell was the last to stop. -/
theorem restart_overrides_shell :
    ¬ ∀ before rest, dropperLog throttlingSetup ⟨10⟩ meddling =
        before ++ .turned .policy true :: rest →
      ∃ earlier, before = earlier ++ [.turned .policy false] := by
  intro always
  have log : dropperLog throttlingSetup ⟨10⟩ meddling =
      [.appeared, .turned .policy false, .turned .shell true, .turned .shell false] ++
        .turned .policy true :: [] := by decide
  obtain ⟨earlier, split⟩ := always _ _ log
  have last := congrArg List.getLast? split
  rw [List.getLast?_concat] at last
  contradiction

end Coordinator

end AppLifecycle
