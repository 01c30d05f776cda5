import AppLifecycle.Proofs.KeyMap
import AppLifecycle.WakeLock

/-!
# Who holds the wake lock

Acquiring and releasing change one holder and no other. A lock is settled if the backend was told
last whether it is held; every operation leaves a settled lock settled and announces exactly the
crossings between held and free.
-/

namespace AppLifecycle.WakeLock

variable {lock : WakeLock} {backend : PowerBackend} {owner other : OwnerToken}

/-! ## Holders -/

theorem isHeldBy_free (owner : OwnerToken) : free.isHeldBy owner = false :=
  KeyMap.contains_eq_false_iff.2 (KeyMap.find?_empty owner)

@[simp]
theorem owners_synchronize : (lock.synchronize backend).state.owners = lock.owners := by
  unfold synchronize
  split <;> rfl

@[simp]
theorem isHeldBy_synchronize :
    (lock.synchronize backend).state.isHeldBy other = lock.isHeldBy other := by
  rw [isHeldBy, owners_synchronize, isHeldBy]

theorem isHeldBy_acquire :
    (lock.acquire backend owner).state.isHeldBy other =
      if other = owner then true else lock.isHeldBy other := by
  unfold acquire
  split
  · rename_i held
    split
    · rename_i equal
      rw [equal]
      exact held
    · rfl
  · change (synchronize backend _).state.isHeldBy other = _
    rw [isHeldBy_synchronize, isHeldBy, ← KeyMap.find?_isSome, KeySet.add, KeyMap.find?_insert]
    split
    · rfl
    · exact KeyMap.find?_isSome ..

theorem isHeldBy_release :
    (lock.release backend owner).state.isHeldBy other =
      if other = owner then false else lock.isHeldBy other := by
  unfold release
  split
  · change (synchronize backend _).state.isHeldBy other = _
    rw [isHeldBy_synchronize, isHeldBy, ← KeyMap.find?_isSome, KeyMap.find?_erase]
    split
    · rfl
    · exact KeyMap.find?_isSome ..
  · rename_i free
    split
    · rename_i equal
      rw [equal]
      exact Bool.eq_false_iff.2 free
    · rfl

theorem isHeldBy_releaseAll : (lock.releaseAll backend).state.isHeldBy other = false := by
  rw [releaseAll, isHeldBy_synchronize]
  exact KeyMap.contains_eq_false_iff.2 (KeyMap.find?_empty other)

theorem enabled_iff : lock.enabled = true ↔ ∃ owner, lock.isHeldBy owner = true := by
  simp only [enabled, isHeldBy, KeyMap.contains_iff_mem_keys, KeyMap.keys, KeyMap.isEmpty]
  cases lock.owners.entries with
  | nil => simp
  | cons first rest => simp

/-! ## Announcements -/

/-- What the backend was told last is so. -/
def Settled (lock : WakeLock) : Prop :=
  lock.applied = lock.enabled

theorem free_settled : free.Settled :=
  rfl

/-- Settled locks with the same holders are equal. -/
theorem Settled.eq_of_isHeldBy {first second : WakeLock} (left : first.Settled)
    (right : second.Settled) (same : ∀ owner, first.isHeldBy owner = second.isHeldBy owner) :
    first = second := by
  have owners : first.owners = second.owners := KeyMap.ext_contains same
  have applied : first.applied = second.applied := by
    rw [Settled, enabled] at left right
    rw [left, right, owners]
  cases first
  cases second
  cases owners
  cases applied
  rfl

/-- The lock is settled after the step, and a crossing between held and free is announced. -/
structure Announces (lock : WakeLock) (step : Step WakeLock Unit) : Prop where
  settled : step.state.Settled
  told : Effect.notifications step.effects =
    if lock.enabled = step.state.enabled then []
    else [.wakeLockEnabledChanged step.state.enabled]

theorem quiet_announces (settled : lock.Settled) : lock.Announces (.quiet lock ()) where
  settled := settled
  told := by simp [Step.quiet, Effect.notifications]

@[simp]
theorem enabled_synchronize : (lock.synchronize backend).state.enabled = lock.enabled := by
  rw [enabled, owners_synchronize, enabled]

theorem synchronize_settled : (lock.synchronize backend).state.Settled := by
  unfold synchronize
  split
  · rename_i same
    exact same
  · rfl

theorem notifications_synchronize :
    Effect.notifications (lock.synchronize backend).effects =
      if lock.applied = lock.enabled then [] else [.wakeLockEnabledChanged lock.enabled] := by
  unfold synchronize
  split <;> rfl

/-- Synchronizing after the holders have changed announces what that changed. -/
theorem synchronize_announces (settled : lock.Settled) (owners : KeySet OwnerToken) :
    lock.Announces ({ lock with owners := owners }.synchronize backend) where
  settled := synchronize_settled
  told := by
    have applied : lock.applied = lock.enabled := settled
    rw [notifications_synchronize, enabled_synchronize, applied]

theorem acquire_announces (settled : lock.Settled) :
    lock.Announces ((lock.acquire backend owner).answering ()) := by
  unfold acquire
  split
  · exact quiet_announces settled
  · exact synchronize_announces settled _

theorem release_announces (settled : lock.Settled) :
    lock.Announces ((lock.release backend owner).answering ()) := by
  unfold release
  split
  · exact synchronize_announces settled _
  · exact quiet_announces settled

/-- A settled lock that nobody holds stays as it is. -/
theorem releaseAll_of_free (free : lock.owners = ∅) (settled : lock.Settled) :
    lock.releaseAll backend = .quiet lock () := by
  rw [releaseAll, ← free]
  exact if_pos settled

theorem releaseAll_announces (settled : lock.Settled) (backend : PowerBackend) :
    lock.Announces (lock.releaseAll backend) :=
  synchronize_announces settled ∅

end AppLifecycle.WakeLock
