import Mathlib.Data.Finset.Card
import AppLifecycle.Proofs.WakeLock

/-!
# The wake lock over its life

A wake lock keeps a set of owners, to which one adds and from which one takes. The power backend
is called exactly where the set becomes inhabited or empty, so its calls come in rounds of an
acquisition and a release, and the shell is told the same. What the backend makes of a call is
never asked (`lock_follows_owners`).
-/

namespace AppLifecycle

/-- A call to the wake lock. -/
inductive LockCall where
  | acquire (owner : OwnerToken)
  | release (owner : OwnerToken)
  /-- Everybody lets go; so a lock ends, too. -/
  | releaseAll
  deriving DecidableEq

namespace LockCall

/-- The owners after a call. -/
def owners (before : Finset OwnerToken) : LockCall → Finset OwnerToken
  | acquire owner => insert owner before
  | release owner => before.erase owner
  | releaseAll => ∅

/-- The answer to a call about one owner: whether it changes the owners. -/
def answer (before : Finset OwnerToken) (call : LockCall) : Option Bool :=
  match call with
  | acquire _ | release _ => some (decide (call.owners before ≠ before))
  | releaseAll => none

/-- The owners after calls, one after the other. -/
def ownersAfter (before : Finset OwnerToken) (calls : List LockCall) : Finset OwnerToken :=
  calls.foldl owners before

/-- The answers to calls, one after the other. -/
def answers (before : Finset OwnerToken) : List LockCall → List (Option Bool)
  | [] => []
  | call :: rest => call.answer before :: answers (call.owners before) rest

/-- Whether there are owners afterwards, if that is new. -/
def crossing (before after : Finset OwnerToken) : List Bool :=
  if before.Nonempty ↔ after.Nonempty then [] else [decide after.Nonempty]

/-- Where calls lead from no owners to some and back. -/
def crossings (before : Finset OwnerToken) : List LockCall → List Bool
  | [] => []
  | call :: rest => crossing before (call.owners before) ++ crossings (call.owners before) rest

/-- So many times to some owners and back to none. -/
def rounds (count : Nat) : List Bool :=
  (List.replicate count [true, false]).flatten

theorem crossings_append (before : Finset OwnerToken) (calls later : List LockCall) :
    crossings before (calls ++ later) =
      crossings before calls ++ crossings (ownersAfter before calls) later := by
  induction calls generalizing before with
  | nil => rfl
  | cons call rest ih =>
      rw [List.cons_append, crossings, crossings, ih, List.append_assoc]
      rfl

/-- If everybody lets go in the end, each way to some owners is followed by the way back. -/
theorem crossings_releaseAll (before : Finset OwnerToken) (calls : List LockCall) :
    ∃ count, crossings before (calls ++ [releaseAll]) =
      if before.Nonempty then false :: rounds count else rounds count := by
  induction calls generalizing before with
  | nil =>
      refine ⟨0, ?_⟩
      by_cases inhabited : before.Nonempty <;>
        simp [crossings, crossing, owners, rounds, inhabited]
  | cons call rest ih =>
      obtain ⟨count, later⟩ := ih (call.owners before)
      rw [List.cons_append, crossings, later]
      by_cases inhabited : before.Nonempty
      · refine ⟨count, ?_⟩
        by_cases kept : (call.owners before).Nonempty <;> simp [crossing, inhabited, kept]
      · by_cases taken : (call.owners before).Nonempty
        · refine ⟨count + 1, ?_⟩
          simp [crossing, inhabited, taken, rounds, List.replicate_succ]
        · refine ⟨count, ?_⟩
          simp [crossing, inhabited, taken]

end LockCall

/-- The call that tells the backend whether the lock is held. -/
def PowerCall.toward (held : Bool) : PowerCall :=
  if held then .acquire else .release

namespace WakeLock

open LockCall (answers crossing crossings ownersAfter rounds)

variable {lock : WakeLock} {backend : PowerBackend} {owner : OwnerToken}
  {owners : Finset OwnerToken}

/-- Carries out a call. -/
def obey (backend : PowerBackend) (lock : WakeLock) : LockCall → Step WakeLock (Option Bool)
  | .acquire owner =>
      let step := lock.acquire backend owner
      step.answering (some step.answer)
  | .release owner =>
      let step := lock.release backend owner
      step.answering (some step.answer)
  | .releaseAll => (lock.releaseAll backend).answering none

/-- Carries out calls, one after the other, and lists the answers. The backend may fare
differently during each of them. -/
def obeyAll (backends : Nat → PowerBackend) (lock : WakeLock) :
    List LockCall → Step WakeLock (List (Option Bool))
  | [] => .quiet lock []
  | call :: rest =>
      (lock.obey (backends 0) call).andThen fun answer next =>
        let later := next.obeyAll (fun number => backends (number + 1)) rest
        later.answering (answer :: later.answer)

/-- The lock is settled, and a set has its holders as members. -/
structure HeldBy (lock : WakeLock) (owners : Finset OwnerToken) : Prop where
  settled : lock.Settled
  held : ∀ owner, lock.isHeldBy owner = decide (owner ∈ owners)

/-- A step leaves the lock to a set of owners and has an answer; and it pushes to the backend and
tells the shell where the way there crossed between no owners and some. -/
structure Follows {α : Type} (step : Step WakeLock α) (owners : Finset OwnerToken) (answer : α)
    (crossed : List Bool) : Prop where
  held : step.state.HeldBy owners
  answered : step.answer = answer
  pushed : Effect.powerCalls step.effects = crossed.map PowerCall.toward
  told : Effect.notifications step.effects =
    crossed.map ShellNotification.wakeLockEnabledChanged

/-! ## Locks and sets -/

theorem free_heldBy : free.HeldBy ∅ where
  settled := free_settled
  held owner := isHeldBy_free owner

theorem HeldBy.isHeldBy_iff (held : lock.HeldBy owners) :
    lock.isHeldBy owner = true ↔ owner ∈ owners := by
  rw [held.held owner, decide_eq_true_iff]

theorem HeldBy.enabled (held : lock.HeldBy owners) : lock.enabled = decide owners.Nonempty := by
  rw [Bool.eq_iff_iff, enabled_iff, decide_eq_true_iff]
  exact exists_congr fun owner => held.isHeldBy_iff

theorem HeldBy.holders (held : lock.HeldBy owners) : lock.holders = owners.card := by
  have same : lock.owners.keys.toFinset = owners := by
    ext owner
    rw [List.mem_toFinset, ← KeyMap.contains_iff_mem_keys]
    exact held.isHeldBy_iff
  rw [← same, List.toFinset_card_of_nodup (KeyMap.nodup_keys _)]
  simp [WakeLock.holders, KeyMap.size, KeyMap.keys]

/-! ## One call -/

theorem obey_acquire_of_held (held : lock.isHeldBy owner = true) :
    lock.obey backend (.acquire owner) = .quiet lock (some false) := by
  rw [obey, acquire, if_pos held]
  rfl

theorem obey_acquire_of_not_held (free : ¬ lock.isHeldBy owner = true) :
    lock.obey backend (.acquire owner) =
      ({ lock with owners := KeySet.add lock.owners owner }.synchronize backend).answering
        (some true) := by
  rw [obey, acquire, if_neg free]
  rfl

theorem obey_release_of_held (held : lock.isHeldBy owner = true) :
    lock.obey backend (.release owner) =
      ({ lock with owners := lock.owners.erase owner }.synchronize backend).answering
        (some true) := by
  rw [obey, release, if_pos held]
  rfl

theorem obey_release_of_not_held (free : ¬ lock.isHeldBy owner = true) :
    lock.obey backend (.release owner) = .quiet lock (some false) := by
  rw [obey, release, if_neg free]
  rfl

theorem powerCalls_synchronize :
    Effect.powerCalls (lock.synchronize backend).effects =
      if lock.applied = lock.enabled then [] else [PowerCall.toward lock.enabled] := by
  unfold synchronize
  split <;> rfl

theorem HeldBy.keep {α : Type} (held : lock.HeldBy owners) (answer : α) :
    Follows (.quiet lock answer) owners answer [] where
  held := held
  answered := rfl
  pushed := rfl
  told := rfl

/-- Other owners take over, and the backend and the shell learn of a crossing. -/
theorem HeldBy.replace {α : Type} (held : lock.HeldBy owners) {owned : KeySet OwnerToken}
    {after : Finset OwnerToken} (answer : α)
    (replaced : ∀ owner, owned.contains owner = decide (owner ∈ after)) :
    Follows (({ lock with owners := owned }.synchronize backend).answering answer) after answer
      (crossing owners after) := by
  have settled : lock.applied = decide owners.Nonempty := held.settled.trans held.enabled
  have next : ({ lock with owners := owned }.synchronize backend).state.HeldBy after := by
    refine ⟨synchronize_settled, fun owner => ?_⟩
    rw [isHeldBy_synchronize]
    exact replaced owner
  have enabled : ({ lock with owners := owned } : WakeLock).enabled = decide after.Nonempty :=
    enabled_synchronize.symm.trans next.enabled
  constructor
  · exact next
  · rfl
  · apply powerCalls_synchronize.trans
    rw [enabled, settled]
    by_cases same : owners.Nonempty ↔ after.Nonempty <;> simp [crossing, same]
  · apply notifications_synchronize.trans
    rw [enabled, settled]
    by_cases same : owners.Nonempty ↔ after.Nonempty <;> simp [crossing, same]

theorem HeldBy.obey (held : lock.HeldBy owners) (backend : PowerBackend) (call : LockCall) :
    Follows (lock.obey backend call) (call.owners owners) (call.answer owners)
      (crossing owners (call.owners owners)) := by
  cases call with
  | acquire owner =>
      by_cases owned : owner ∈ owners
      · rw [obey_acquire_of_held (held.isHeldBy_iff.2 owned)]
        simpa [LockCall.owners, LockCall.answer, crossing, owned] using held.keep (some false)
      · have answered : (LockCall.acquire owner).answer owners = some true := by
          simp [LockCall.owners, LockCall.answer, owned]
        rw [obey_acquire_of_not_held (held.isHeldBy_iff.not.2 owned), answered]
        apply held.replace
        intro candidate
        rw [KeySet.add, KeyMap.contains_insert, ← isHeldBy, held.held candidate]
        simp [LockCall.owners]
  | release owner =>
      by_cases owned : owner ∈ owners
      · have answered : (LockCall.release owner).answer owners = some true := by
          simp [LockCall.owners, LockCall.answer, owned]
        rw [obey_release_of_held (held.isHeldBy_iff.2 owned), answered]
        apply held.replace
        intro candidate
        rw [KeyMap.contains_erase, ← isHeldBy, held.held candidate]
        simp [LockCall.owners]
      · rw [obey_release_of_not_held (held.isHeldBy_iff.not.2 owned)]
        simpa [LockCall.owners, LockCall.answer, crossing, owned] using held.keep (some false)
  | releaseAll =>
      apply held.replace
      intro candidate
      rw [KeyMap.contains_eq_false_iff.2 (KeyMap.find?_empty candidate)]
      simp [LockCall.owners]

/-! ## Calls one after the other -/

theorem HeldBy.obeyAll (held : lock.HeldBy owners) (backends : Nat → PowerBackend)
    (calls : List LockCall) :
    Follows (lock.obeyAll backends calls) (ownersAfter owners calls) (answers owners calls)
      (crossings owners calls) := by
  induction calls generalizing lock owners backends with
  | nil => exact held.keep []
  | cons call rest ih =>
      have first := held.obey (backends 0) call
      have later := ih first.held fun number => backends (number + 1)
      constructor
      · exact later.held
      · exact congr (congrArg List.cons first.answered) later.answered
      · apply (Effect.powerCalls_append ..).trans
        rw [crossings, List.map_append, first.pushed]
        exact congrArg _ later.pushed
      · apply (Effect.notifications_append ..).trans
        rw [crossings, List.map_append, first.told]
        exact congrArg _ later.told

/-- After any calls on a fresh lock its holders are the owners that were added and not taken away
since, and each call was answered by whether it changed them. The backend was called, and the
shell was told, where there came to be owners or none. Once the lock has ended these are rounds
of an acquisition and a release, whatever the backend made of its calls. -/
theorem lock_follows_owners (calls : List LockCall) (backends : Nat → PowerBackend) :
    let run := free.obeyAll backends calls
    let whole := free.obeyAll backends (calls ++ [.releaseAll])
    (∀ owner, run.state.isHeldBy owner = decide (owner ∈ ownersAfter ∅ calls)) ∧
    run.state.holders = (ownersAfter ∅ calls).card ∧
    run.answer = answers ∅ calls ∧
    Effect.powerCalls run.effects = (crossings ∅ calls).map PowerCall.toward ∧
    Effect.notifications run.effects =
      (crossings ∅ calls).map ShellNotification.wakeLockEnabledChanged ∧
    Effect.powerCalls run.effects <+: Effect.powerCalls whole.effects ∧
    (∃ count,
      Effect.powerCalls whole.effects =
        (List.replicate count [PowerCall.acquire, PowerCall.release]).flatten ∧
      Effect.notifications whole.effects =
        (List.replicate count [ShellNotification.wakeLockEnabledChanged true,
          ShellNotification.wakeLockEnabledChanged false]).flatten) ∧
    ∀ others : Nat → PowerBackend,
      let rerun := free.obeyAll others calls
      rerun.state = run.state ∧ rerun.answer = run.answer ∧
        Effect.powerCalls rerun.effects = Effect.powerCalls run.effects ∧
        Effect.notifications rerun.effects = Effect.notifications run.effects := by
  intro run whole
  have follows := free_heldBy.obeyAll backends calls
  have ended := free_heldBy.obeyAll backends (calls ++ [.releaseAll])
  refine ⟨follows.held.held, follows.held.holders, follows.answered, follows.pushed, follows.told,
    ?_, ?_, ?_⟩
  · rw [ended.pushed, follows.pushed, LockCall.crossings_append, List.map_append]
    exact List.prefix_append ..
  · obtain ⟨count, crossed⟩ := LockCall.crossings_releaseAll ∅ calls
    rw [if_neg Finset.not_nonempty_empty] at crossed
    refine ⟨count, ?_, ?_⟩
    · rw [ended.pushed, crossed, rounds, List.map_flatten, List.map_replicate]
      rfl
    · rw [ended.told, crossed, rounds, List.map_flatten, List.map_replicate]
      rfl
  · intro others rerun
    have again := free_heldBy.obeyAll others calls
    refine ⟨?_, again.answered.trans follows.answered.symm,
      again.pushed.trans follows.pushed.symm, again.told.trans follows.told.symm⟩
    apply again.held.settled.eq_of_isHeldBy follows.held.settled
    intro owner
    rw [again.held.held, follows.held.held]

end WakeLock

end AppLifecycle
