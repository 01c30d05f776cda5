import AppLifecycle.Proofs.Session
import AppLifecycle.WakeLock

/-!
# What notifications are about

Among the effects of a run each session and each surface finds the notifications that are about
it. What is done to a surface is told of that surface alone (`Discreet`), and the wake lock tells
of no session and no surface (`OfLock`).
-/

namespace AppLifecycle

namespace ShellNotification

/-- The surface that a notification is about. -/
def surface? : ShellNotification → Option SurfaceHandle
  | surfaceAdded handle _ => some handle
  | surfaceFirstFrameDrawn handle => some handle
  | surfaceLiveChanged handle _ => some handle
  | surfaceFrameDropperChanged handle _ => some handle
  | surfaceFocusChanged handle _ => some handle
  | surfacePresentationChanged handle _ => some handle
  | surfaceTitleChanged handle _ => some handle
  | _ => none

/-- The session that a notification is about. A surface that comes up concerns the session that
takes it in. -/
def session? : ShellNotification → Option SessionHandle
  | sessionAdded key _ => some key
  | sessionRemoved key => some key
  | sessionStateChanged key _ => some key
  | surfaceAdded _ key => some key
  | _ => none

end ShellNotification

namespace Effect

variable {handle : SurfaceHandle} {key : SessionHandle}

/-- The notifications about a surface among some effects. -/
def toldOfSurface (handle : SurfaceHandle) (effects : List Effect) : List ShellNotification :=
  (notifications effects).filter fun notification => notification.surface? = some handle

/-- The notifications about a session among some effects. -/
def toldOfSession (key : SessionHandle) (effects : List Effect) : List ShellNotification :=
  (notifications effects).filter fun notification => notification.session? = some key

@[simp]
theorem toldOfSurface_nil : toldOfSurface handle [] = [] :=
  rfl

@[simp]
theorem toldOfSession_nil : toldOfSession key [] = [] :=
  rfl

@[simp]
theorem toldOfSurface_append (first second : List Effect) :
    toldOfSurface handle (first ++ second) =
      toldOfSurface handle first ++ toldOfSurface handle second := by
  rw [toldOfSurface, notifications_append, List.filter_append]
  rfl

@[simp]
theorem toldOfSession_append (first second : List Effect) :
    toldOfSession key (first ++ second) = toldOfSession key first ++ toldOfSession key second := by
  rw [toldOfSession, notifications_append, List.filter_append]
  rfl

theorem toldOfSurface_notify (notification : ShellNotification) (rest : List Effect) :
    toldOfSurface handle (.notify notification :: rest) =
      if notification.surface? = some handle then notification :: toldOfSurface handle rest
      else toldOfSurface handle rest := by
  simp only [toldOfSurface, notifications, List.filterMap_cons, List.filter_cons, decide_eq_true_eq]

theorem toldOfSession_notify (notification : ShellNotification) (rest : List Effect) :
    toldOfSession key (.notify notification :: rest) =
      if notification.session? = some key then notification :: toldOfSession key rest
      else toldOfSession key rest := by
  simp only [toldOfSession, notifications, List.filterMap_cons, List.filter_cons, decide_eq_true_eq]

theorem mem_notifications_iff {effects : List Effect} {notification : ShellNotification} :
    notification ∈ notifications effects ↔ .notify notification ∈ effects := by
  simp only [notifications, List.mem_filterMap]
  constructor
  · rintro ⟨effect, member, same⟩
    cases effect with
    | notify told =>
        cases same
        exact member
    | power | hook => simp at same
  · intro member
    exact ⟨_, member, rfl⟩

theorem toldOfSurface_eq_nil {effects : List Effect}
    (others : ∀ notification, .notify notification ∈ effects →
      notification.surface? ≠ some handle) : toldOfSurface handle effects = [] := by
  apply List.filter_eq_nil_iff.2
  intro notification member
  simpa using others notification (mem_notifications_iff.1 member)

theorem toldOfSession_eq_nil {effects : List Effect}
    (others : ∀ notification, .notify notification ∈ effects →
      notification.session? ≠ some key) : toldOfSession key effects = [] := by
  apply List.filter_eq_nil_iff.2
  intro notification member
  simpa using others notification (mem_notifications_iff.1 member)

/-! ## Effects of the wake lock -/

/-- An effect that the wake lock can have. -/
inductive OfLock : Effect → Prop where
  | power (call : PowerCall) (succeeded : Bool) : OfLock (.power call succeeded)
  | notify (enabled : Bool) : OfLock (.notify (.wakeLockEnabledChanged enabled))

theorem toldOfSurface_ofLock {effects : List Effect} (ofLock : ∀ effect ∈ effects, OfLock effect) :
    toldOfSurface handle effects = [] := by
  apply toldOfSurface_eq_nil
  intro notification member
  cases ofLock _ member
  simp [ShellNotification.surface?]

theorem toldOfSession_ofLock {effects : List Effect} (ofLock : ∀ effect ∈ effects, OfLock effect) :
    toldOfSession key effects = [] := by
  apply toldOfSession_eq_nil
  intro notification member
  cases ofLock _ member
  simp [ShellNotification.session?]

end Effect

namespace WakeLock

variable {lock : WakeLock} {backend : PowerBackend} {owner : OwnerToken}

theorem synchronize_ofLock :
    ∀ effect ∈ (lock.synchronize backend).effects, effect.OfLock := by
  unfold synchronize
  split
  · simp [Step.quiet]
  · simp only [List.mem_cons, List.not_mem_nil, or_false, forall_eq_or_imp, forall_eq]
    exact ⟨.power _ _, .notify _⟩

theorem acquire_ofLock : ∀ effect ∈ (lock.acquire backend owner).effects, effect.OfLock := by
  unfold acquire
  split
  · simp [Step.quiet]
  · exact synchronize_ofLock

theorem release_ofLock : ∀ effect ∈ (lock.release backend owner).effects, effect.OfLock := by
  unfold release
  split
  · exact synchronize_ofLock
  · simp [Step.quiet]

theorem releaseAll_ofLock : ∀ effect ∈ (lock.releaseAll backend).effects, effect.OfLock :=
  synchronize_ofLock

end WakeLock

/-! ## What is done to a surface -/

namespace Surface

variable {α β : Type} {act : Surface → Step Surface α}

/-- What a step of a surface lets the world see are notifications about that surface alone. -/
def Discreet (act : Surface → Step Surface α) : Prop :=
  ∀ surface, ∀ effect ∈ (act surface).effects,
    ∃ notification, effect = .notify notification ∧
      notification.surface? = some surface.handle ∧ notification.session? = none

theorem Discreet.andThen {first : Surface → Step Surface α} {second : Surface → Step Surface β}
    (gentle : Gentle first) (discreet : Discreet first) (discreetNext : Discreet second) :
    Discreet fun surface => (first surface).andThen fun _ next => second next := by
  intro surface effect member
  rcases List.mem_append.1 member with early | late
  · exact discreet surface effect early
  · rw [← (gentle surface).handle]
    exact discreetNext _ effect late

theorem markReleased_discreet : Discreet markReleased := by
  intro surface effect member
  unfold markReleased at member
  split at member
  · rcases List.mem_append.1 member with early | late
    · split at early
      · cases List.mem_singleton.1 early
        exact ⟨_, rfl, rfl, rfl⟩
      · simp at early
    · cases List.mem_singleton.1 late
      exact ⟨_, rfl, rfl, rfl⟩
  · simp [Step.quiet] at member

variable (discreet : Discreet act)
include discreet

theorem Discreet.toldOfSurface (surface : Surface) (handle : SurfaceHandle) :
    Effect.toldOfSurface handle (act surface).effects =
      if handle = surface.handle then Effect.notifications (act surface).effects else [] := by
  split
  · rename_i equal
    apply List.filter_eq_self.2
    intro notification member
    obtain ⟨told, same, about, _⟩ := discreet surface _ (Effect.mem_notifications_iff.1 member)
    cases same
    simp [about, equal]
  · rename_i different
    apply Effect.toldOfSurface_eq_nil
    intro notification member about
    obtain ⟨told, same, aboutOwn, _⟩ := discreet surface _ member
    cases same
    rw [about] at aboutOwn
    exact different (Option.some.inj aboutOwn)

theorem Discreet.toldOfSession (surface : Surface) (key : SessionHandle) :
    Effect.toldOfSession key (act surface).effects = [] := by
  apply Effect.toldOfSession_eq_nil
  intro notification member about
  obtain ⟨told, same, _, aboutNone⟩ := discreet surface _ member
  cases same
  rw [about] at aboutNone
  contradiction

end Surface

/-- A surface that tells of a change, if there is one, tells of nothing else. -/
theorem Surface.eq_of_mem_changed {condition : Prop} [Decidable condition]
    {surface later : Surface} {notification : ShellNotification} {effect : Effect}
    (member : effect ∈
      (if condition then changed later notification else .quiet surface false).effects) :
    effect = .notify notification := by
  split at member
  · exact List.mem_singleton.1 member
  · simp [Step.quiet] at member

/-- What a touch lets the world see is about the surface touched. -/
theorem Touch.act_discreet (touch : Touch) : Surface.Discreet touch.act := by
  intro surface effect member
  cases touch with
  | rename title => exact ⟨_, Surface.eq_of_mem_changed member, rfl, rfl⟩
  | present presentation => exact ⟨_, Surface.eq_of_mem_changed member, rfl, rfl⟩
  | focus focused => exact ⟨_, Surface.eq_of_mem_changed member, rfl, rfl⟩
  | startDropper => exact ⟨_, Surface.eq_of_mem_changed member, rfl, rfl⟩
  | stopDropper => exact ⟨_, Surface.eq_of_mem_changed member, rfl, rfl⟩
  | render =>
      simp only [act, Surface.render, Step.answering] at member
      split at member
      · split at member
        · simp [Step.quiet] at member
        · simp only at member
          split at member
          · simp at member
          · exact ⟨_, List.mem_singleton.1 member, rfl, rfl⟩
      · simp [Step.quiet] at member
  | frameReady => simp [act, Step.quiet] at member

end AppLifecycle
