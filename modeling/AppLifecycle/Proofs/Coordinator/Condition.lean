import AppLifecycle.Proofs.Coordinator.Fate

/-!
# Conditions of surfaces

Where suspended sessions are throttled, three things matter of a surface: the state of the session
that holds it, whether its frame dropper runs, and whether the policy remembers that it stopped
the dropper. Together they are the `Condition` of the surface. Being asked, the policy settles the
condition (`Condition.settled`), and what that changes is told.
-/

namespace AppLifecycle

/-- Who brought a change of a frame dropper about. -/
inductive Hand where
  | shell
  | policy
  deriving DecidableEq

/-- What is told in the life of a frame dropper. -/
inductive DropperEvent where
  /-- The surface comes up, and its dropper runs. -/
  | appeared
  | turned (hand : Hand) (running : Bool)
  deriving DecidableEq

/-- The event of a dropper that ran before or not and runs afterwards or not. -/
def Hand.turns (hand : Hand) (before after : Bool) : List DropperEvent :=
  if after = before then [] else [.turned hand after]

@[simp]
theorem Hand.turns_self (hand : Hand) (running : Bool) : hand.turns running running = [] :=
  if_pos rfl

/-- The command to a frame dropper that an input is, and whether the dropper is to run. -/
def Input.dropperCommand? : Input → Option (SurfaceHandle × Bool)
  | .command (.startFrameDropper handle) => some (handle, true)
  | .command (.stopFrameDropper handle) => some (handle, false)
  | _ => none

/-- Who changes droppers as an input is handled: the shell if it commands it, and otherwise the
policy. -/
def Input.hand (input : Input) : Hand :=
  if input.dropperCommand?.isSome then .shell else .policy

/-- How it stands with a surface where suspended sessions are throttled. -/
structure Condition where
  /-- The state of the session that holds the surface. -/
  owner : SessionState
  /-- Whether the frame dropper runs. -/
  running : Bool
  /-- Whether the policy remembers that it stopped the dropper. -/
  throttled : Bool
  deriving DecidableEq

namespace Condition

/-- A surface that has just come up. -/
def fresh (owner : SessionState) : Condition :=
  ⟨owner, true, false⟩

/-- The condition once the policy has been asked: it stops the dropper in a suspended session, and
starts it in a running one if it was the one to stop it. -/
def settled (condition : Condition) : Condition :=
  if condition.owner = .suspended ∧ condition.running then
    { condition with running := false, throttled := true }
  else if condition.owner = .running ∧ condition.throttled then
    { condition with running := true, throttled := false }
  else condition

/-- What is told as the policy is asked. -/
def settling (condition : Condition) : List DropperEvent :=
  Hand.policy.turns condition.running condition.settled.running

theorem settled_of_idle {condition : Condition}
    (idle : condition.owner ≠ .suspended ∧ condition.owner ≠ .running) :
    condition.settled = condition := by
  simp [settled, idle.1, idle.2]

@[simp]
theorem settled_settled (condition : Condition) :
    condition.settled.settled = condition.settled := by
  rcases condition with ⟨owner, running, throttled⟩
  cases owner <;> cases running <;> cases throttled <;> rfl

theorem owner_settled (condition : Condition) : condition.settled.owner = condition.owner := by
  unfold settled
  split
  · rfl
  · split <;> rfl

end Condition

/-! ## What is told of droppers -/

/-- The event that a notification tells of. -/
def DropperEvent.ofNotification? (hand : Hand) : ShellNotification → Option DropperEvent
  | .surfaceAdded _ _ => some .appeared
  | .surfaceFrameDropperChanged _ running => some (.turned hand running)
  | _ => none

/-- What some effects tell of the dropper of a surface. -/
def Effect.dropperEvents (hand : Hand) (handle : SurfaceHandle) (effects : List Effect) :
    List DropperEvent :=
  (Effect.toldOfSurface handle effects).filterMap (DropperEvent.ofNotification? hand)

@[simp]
theorem Effect.dropperEvents_append (hand : Hand) (handle : SurfaceHandle)
    (first second : List Effect) :
    Effect.dropperEvents hand handle (first ++ second) =
      Effect.dropperEvents hand handle first ++ Effect.dropperEvents hand handle second := by
  rw [dropperEvents, toldOfSurface_append, List.filterMap_append]
  rfl

/-- Whether a dropper runs after a touch, if it ran before or not. -/
def Touch.dropper : Touch → Bool → Bool
  | startDropper, _ => true
  | stopDropper, _ => false
  | _, running => running

section Live

variable {surface : Surface} (live : surface.live = true)
include live

theorem Touch.dropperRunning_act (touch : Touch) :
    (touch.act surface).state.dropperRunning = touch.dropper surface.dropperRunning := by
  rw [(touch.flags_act live).2]
  cases touch <;> rfl

/-- A touch that turns the dropper on or off is told as such, and no other touch is. -/
theorem Touch.dropperEvents (touch : Touch) (hand : Hand) :
    (Effect.notifications (touch.act surface).effects).filterMap
        (DropperEvent.ofNotification? hand) =
      hand.turns surface.dropperRunning (touch.dropper surface.dropperRunning) := by
  cases touch with
  | rename title =>
      simp only [act, Surface.setTitle, Step.answering, dropper, Hand.turns_self]
      split <;> rfl
  | present presentation =>
      simp only [act, Surface.requestPresentation, Step.answering, dropper, Hand.turns_self]
      split <;> rfl
  | focus focused =>
      simp only [act, Surface.setFocused, Step.answering, dropper, Hand.turns_self]
      split <;> rfl
  | startDropper =>
      simp only [act, Surface.startFrameDropper, Step.answering, live, Bool.true_and]
      cases surface.dropperRunning <;> rfl
  | stopDropper =>
      simp only [act, Surface.stopFrameDropper, Step.answering, live, Bool.true_and]
      cases surface.dropperRunning <;> rfl
  | render =>
      simp only [act, Surface.render, Step.answering, dropper, Hand.turns_self, live, if_true]
      split
      · rfl
      · cases surface.firstFrameDrawn <;> rfl
  | frameReady =>
      simp only [act, Step.quiet, dropper, Hand.turns_self]
      rfl

end Live

namespace Roster

variable {roster : Roster} {throttled : KeySet SurfaceHandle} {handle other : SurfaceHandle}
  {surface : Surface}

/-- The condition of a surface, if somebody holds it. -/
def condition? (roster : Roster) (throttled : KeySet SurfaceHandle) (handle : SurfaceHandle) :
    Option Condition :=
  (roster.surface? handle).bind fun surface =>
    (roster.state? surface.owner).map fun owner =>
      ⟨owner, surface.dropperRunning, throttled.contains handle⟩

theorem condition?_of_found {owner : SessionState} (throttled : KeySet SurfaceHandle)
    (found : roster.surface? handle = some surface)
    (owned : roster.state? surface.owner = some owner) :
    roster.condition? throttled handle =
      some ⟨owner, surface.dropperRunning, throttled.contains handle⟩ := by
  simp [condition?, found, owned]

theorem condition?_eq_none_iff (consistent : roster.Consistent) :
    roster.condition? throttled handle = none ↔ roster.surface? handle = none := by
  cases found : roster.surface? handle with
  | none => simp [condition?, found]
  | some surface =>
      obtain ⟨session, owned, _⟩ := consistent.exists_owner found
      simp [condition?_of_found throttled found (state?_of_session? owned)]

theorem running_condition? (consistent : roster.Consistent) :
    (roster.condition? throttled handle).map (·.running) =
      (roster.surface? handle).map (·.dropperRunning) := by
  cases found : roster.surface? handle with
  | none => rw [(condition?_eq_none_iff consistent).2 found, Option.map_none, Option.map_none]
  | some surface =>
      obtain ⟨session, owned, _⟩ := consistent.exists_owner found
      rw [condition?_of_found throttled found (state?_of_session? owned), Option.map_some,
        Option.map_some]

/-- The condition of a surface rests on the surface, the state of its session and what the policy
remembers of it. -/
theorem condition?_congr {later : Roster} {throttledLater : KeySet SurfaceHandle}
    (surfaces : later.surface? handle = roster.surface? handle)
    (states : ∀ surface, roster.surface? handle = some surface →
      later.state? surface.owner = roster.state? surface.owner)
    (memory : throttledLater.contains handle = throttled.contains handle) :
    later.condition? throttledLater handle = roster.condition? throttled handle := by
  unfold condition?
  rw [surfaces, memory]
  cases found : roster.surface? handle with
  | none => rfl
  | some surface =>
      rw [Option.bind_some, Option.bind_some, states surface found]

/-- The policy remembers other surfaces. -/
theorem condition?_remembering (throttled remembered : KeySet SurfaceHandle) :
    roster.condition? remembered handle =
      (roster.condition? throttled handle).map fun condition =>
        { condition with throttled := remembered.contains handle } := by
  unfold condition?
  cases roster.surface? handle with
  | none => rfl
  | some surface => simp [Function.comp_def]

/-- An action on a surface that keeps who it is. -/
theorem condition?_onSurface {α : Type} {act : Surface → Step Surface α} (turn : Bool → Bool)
    (gentle : Surface.Gentle act) (consistent : roster.Consistent)
    (turns : ∀ surface, surface.live = true →
      (act surface).state.dropperRunning = turn surface.dropperRunning) :
    (roster.onSurface handle act).state.condition? throttled other =
      (roster.condition? throttled other).map fun condition =>
        if other = handle then { condition with running := turn condition.running }
        else condition := by
  unfold condition?
  rw [surface?_onSurface gentle consistent]
  by_cases equal : other = handle
  · subst equal
    simp only [if_true]
    cases found : roster.surface? other with
    | none => rfl
    | some surface =>
        have live := consistent.live_of_surface? found
        simp only [Option.map_some, Option.bind_some, state?_onSurface, turns surface live,
          (gentle surface).owner, Option.map_map]
        rfl
  · simp only [if_neg equal, state?_onSurface]
    cases roster.surface? other with
    | none => rfl
    | some surface => simp [Function.comp_def]

end Roster

end AppLifecycle
