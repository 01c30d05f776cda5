import AppLifecycle.Message

/-!
# Steps and their effects

Every operation of the library is a function from a state to a `Step`: the next state, an
answer, and the effects in the order in which they happened. Effects are what the world outside
sees: notifications to the shell, calls to the power backend, and calls of the surface policy's
hooks. Steps compose by `Step.andThen`, which keeps the effects of both in order.
-/

namespace AppLifecycle

/-- What a policy sees of a session. -/
structure SessionView where
  handle : SessionHandle
  state : SessionState
  deriving DecidableEq, Inhabited, Repr

/-- What a policy sees of a surface. -/
structure SurfaceView where
  handle : SurfaceHandle
  live : Bool
  presentation : PresentationState
  dropperRunning : Bool
  deriving DecidableEq, Inhabited, Repr

/-- An occasion on which the surface policy is asked. -/
inductive PolicyHook where
  /-- The session is suspended and holds the surface. -/
  | suspended (session : SessionView) (surface : SurfaceView)
  /-- The session is running and holds the surface. -/
  | resumed (session : SessionView) (surface : SurfaceView)
  /-- The surface is gone. -/
  | removed (surface : SurfaceHandle)
  deriving DecidableEq, Inhabited, Repr

/-- A call to the facility that keeps the device awake. -/
inductive PowerCall where
  | acquire
  | release
  deriving DecidableEq, Inhabited, Repr

/-- Something that the world outside sees of a step. -/
inductive Effect where
  /-- The shell is told of a change. -/
  | notify (notification : ShellNotification)
  /-- The power backend is called, and the call succeeds or fails. -/
  | power (call : PowerCall) (succeeded : Bool)
  /-- The surface policy is asked. -/
  | hook (occasion : PolicyHook)
  deriving DecidableEq, Inhabited, Repr

namespace Effect

/-- The notifications among the effects. -/
def notifications (effects : List Effect) : List ShellNotification :=
  effects.filterMap fun
    | notify notification => some notification
    | _ => none

/-- The calls to the power backend among the effects, whether they succeeded or not. -/
def powerCalls (effects : List Effect) : List PowerCall :=
  effects.filterMap fun
    | power call _ => some call
    | _ => none

/-- The occasions on which the policy was asked. -/
def hooks (effects : List Effect) : List PolicyHook :=
  effects.filterMap fun
    | hook occasion => some occasion
    | _ => none

variable (first second : List Effect)

@[simp]
theorem notifications_append :
    notifications (first ++ second) = notifications first ++ notifications second :=
  List.filterMap_append ..

@[simp]
theorem powerCalls_append :
    powerCalls (first ++ second) = powerCalls first ++ powerCalls second :=
  List.filterMap_append ..

@[simp]
theorem hooks_append : hooks (first ++ second) = hooks first ++ hooks second :=
  List.filterMap_append ..

end Effect

universe u v w

/-- The outcome of an operation: the next state, the answer and the effects in order. -/
structure Step (σ : Type u) (α : Type v) where
  state : σ
  answer : α
  effects : List Effect

namespace Step

variable {σ : Type u} {α β γ : Type v} {τ : Type w}

/-- A step without effects. -/
def quiet (state : σ) (answer : α) : Step σ α :=
  ⟨state, answer, []⟩

/-- Goes on from a step with its answer and its state. -/
def andThen (step : Step σ α) (next : α → σ → Step σ β) : Step σ β :=
  let last := next step.answer step.state
  ⟨last.state, last.answer, step.effects ++ last.effects⟩

/-- The same step with another answer. -/
def answering (step : Step σ α) (answer : β) : Step σ β :=
  ⟨step.state, answer, step.effects⟩

/-- The same step seen as a step of a larger state. -/
def within (step : Step σ α) (embed : σ → τ) : Step τ α :=
  ⟨embed step.state, step.answer, step.effects⟩

/-- Visits the members of a list one after the other. -/
def forEach (items : List β) (visit : β → σ → Step σ Unit) (state : σ) : Step σ Unit :=
  match items with
  | [] => quiet state ()
  | item :: rest => (visit item state).andThen fun _ next => forEach rest visit next

@[simp]
theorem quiet_andThen (state : σ) (answer : α) (next : α → σ → Step σ β) :
    (quiet state answer).andThen next = next answer state :=
  rfl

@[simp]
theorem andThen_quiet (step : Step σ α) :
    (step.andThen fun answer state => quiet state answer) = step := by
  simp [andThen, quiet]

theorem andThen_assoc (step : Step σ α) (next : α → σ → Step σ β) (last : β → σ → Step σ γ) :
    (step.andThen next).andThen last =
      step.andThen fun answer state => (next answer state).andThen last := by
  simp [andThen]

end Step

end AppLifecycle
