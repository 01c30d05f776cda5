import AppLifecycle.Effect

/-!
# The wake lock

The device stays awake while somebody holds the wake lock. Holders are a set, not a count: who
acquires twice still releases once. Only the crossings between no holder and some reach the
power backend and the shell. A backend call that fails changes nothing here.
-/

namespace AppLifecycle

/-- Who holds the wake lock. -/
inductive OwnerToken where
  | session (handle : SessionHandle)
  /-- A part of the shell, such as one that plays music. -/
  | client (number : Nat)
  deriving DecidableEq, Inhabited, Repr

namespace OwnerToken

/-- A number for each owner: even ones for sessions, odd ones for clients. -/
def rank : OwnerToken → Nat
  | session handle => 2 * handle.raw.toNat
  | client number => 2 * number + 1

theorem rank_injective {first second : OwnerToken} (h : first.rank = second.rank) :
    first = second := by
  cases first with
  | session left =>
      cases second with
      | session right =>
          simp only [rank] at h
          have equal : left.raw.toNat = right.raw.toNat := by omega
          cases left
          cases right
          simpa [UInt64.toNat_inj] using equal
      | client right =>
          simp only [rank] at h
          omega
  | client left =>
      cases second with
      | session right =>
          simp only [rank] at h
          omega
      | client right =>
          simp only [rank] at h
          have equal : left = right := by omega
          rw [equal]

instance : KeyOrder OwnerToken :=
  KeyOrder.ofInjective rank rank_injective

end OwnerToken

/-- Whether the backend carries out a call. -/
abbrev PowerBackend :=
  PowerCall → Bool

/-- The holders of the wake lock, and what the backend was told last. -/
structure WakeLock where
  owners : KeySet OwnerToken
  /-- Whether the last call to the backend was to acquire. -/
  applied : Bool
  deriving DecidableEq

namespace WakeLock

/-- The lock that nobody holds. -/
def free : WakeLock where
  owners := ∅
  applied := false

instance : Inhabited WakeLock := ⟨free⟩

/-- Whether somebody holds the lock. -/
def enabled (lock : WakeLock) : Bool :=
  !lock.owners.isEmpty

/-- Whether an owner holds the lock. -/
def isHeldBy (lock : WakeLock) (owner : OwnerToken) : Bool :=
  lock.owners.contains owner

/-- The number of holders. -/
def holders (lock : WakeLock) : Nat :=
  lock.owners.size

/-- Tells the backend and the shell if the lock has become held or free. -/
def synchronize (backend : PowerBackend) (lock : WakeLock) : Step WakeLock Unit :=
  if lock.applied = lock.enabled then
    .quiet lock ()
  else
    let call := if lock.enabled then PowerCall.acquire else PowerCall.release
    { state := { lock with applied := lock.enabled }
      answer := ()
      effects := [.power call (backend call), .notify (.wakeLockEnabledChanged lock.enabled)] }

/-- Adds an owner. Answers whether it did not hold the lock before. -/
def acquire (backend : PowerBackend) (owner : OwnerToken) (lock : WakeLock) :
    Step WakeLock Bool :=
  if lock.isHeldBy owner then .quiet lock false
  else ({ lock with owners := KeySet.add lock.owners owner }.synchronize backend).answering true

/-- Takes an owner away. Answers whether it held the lock. -/
def release (backend : PowerBackend) (owner : OwnerToken) (lock : WakeLock) :
    Step WakeLock Bool :=
  if lock.isHeldBy owner then
    ({ lock with owners := lock.owners.erase owner }.synchronize backend).answering true
  else
    .quiet lock false

/-- Takes all owners away at once; so ends a lock that is no longer needed. -/
def releaseAll (backend : PowerBackend) (lock : WakeLock) : Step WakeLock Unit :=
  { lock with owners := ∅ }.synchronize backend

/-- The lock in short, as logs show it. -/
def summary (lock : WakeLock) : String :=
  "WakeLock \x7b holders: " ++ toString lock.holders ++ " \x7d"

end WakeLock

end AppLifecycle
