import AppLifecycle.Proofs.Mirror
import AppLifecycle.Proofs.Roster.Parting
import AppLifecycle.Proofs.Run

/-!
# The protocol of the notifications

What is told of one session tells where it stands, and what is told of one surface tells what it
looks like. `SessionTurn` and `SurfaceTurn` say what may be told next and where that leads; a
stream of reports that keeps to them is a `Story`. A touch of a live surface and its parting are
stories about it.
-/

namespace AppLifecycle

/-- Reports that lead from one situation to another, turn by turn. -/
inductive Story {σ ρ : Type} (Turn : σ → ρ → σ → Prop) : σ → List ρ → σ → Prop where
  | nil (here : σ) : Story Turn here [] here
  | cons {first second third : σ} {report : ρ} {rest : List ρ} (turn : Turn first report second)
      (later : Story Turn second rest third) : Story Turn first (report :: rest) third

namespace Story

variable {σ ρ : Type} {Turn : σ → ρ → σ → Prop} {first second third : σ}

theorem single {report : ρ} (turn : Turn first report second) :
    Story Turn first [report] second :=
  .cons turn (.nil second)

theorem append {reports more : List ρ} (story : Story Turn first reports second)
    (sequel : Story Turn second more third) : Story Turn first (reports ++ more) third := by
  induction story with
  | nil => exact sequel
  | cons turn _ ih => exact .cons turn (ih sequel)

end Story

/-- What may be told next about a session. It stands nowhere until it is added and after it is
removed; in between it moves along the edges of the transition graph, beginning at `starting`,
and takes in surfaces until it has stopped. -/
inductive SessionTurn (key : SessionHandle) :
    Option SessionState → ShellNotification → Option SessionState → Prop where
  | added (appId : String) : SessionTurn key none (.sessionAdded key appId) (some .starting)
  | moved {op : LifecycleOp} {source target : SessionState}
      (edge : op.target? source = some target) :
      SessionTurn key (some source) (.sessionStateChanged key target) (some target)
  | surfaceAdded {state : SessionState} (handle : SurfaceHandle) (active : state ≠ .stopped) :
      SessionTurn key (some state) (.surfaceAdded handle key) (some state)
  | removed : SessionTurn key (some .stopped) (.sessionRemoved key) none

/-- What a shell knows of a surface that it saw come up with a title. -/
structure Facade extends Pane where
  title : String
  deriving DecidableEq

/-- What is to be known of a surface. -/
def Facade.ofSurface (surface : Surface) : Facade :=
  { Pane.ofSurface surface with title := surface.title }

/-- A notification, and the input that led to it. -/
abbrev Report :=
  Input × ShellNotification

/-- What may be told next about a surface. Nothing is known of it until it comes up, with the
title it is created with, and after it is released, which it is without the focus. In between
each report tells something new, and the first frame is drawn once. -/
inductive SurfaceTurn (handle : SurfaceHandle) : Option Facade → Report → Option Facade → Prop where
  | added (key : SessionHandle) (title : String) (chrome : ChromeLevel)
      (requested : Option SurfaceId) :
      SurfaceTurn handle none
        (.event (.surfaceCreated handle key title chrome requested), .surfaceAdded handle key)
        (some { Pane.fresh with title := title })
  | firstFrame {facade : Facade} (input : Input) (undrawn : facade.firstFrameDrawn = false) :
      SurfaceTurn handle (some facade) (input, .surfaceFirstFrameDrawn handle)
        (some { facade with firstFrameDrawn := true })
  | dropper {facade : Facade} {running : Bool} (input : Input)
      (new : facade.dropperRunning ≠ running) :
      SurfaceTurn handle (some facade) (input, .surfaceFrameDropperChanged handle running)
        (some { facade with dropperRunning := running })
  | focus {facade : Facade} {focused : Bool} (input : Input) (new : facade.focused ≠ focused) :
      SurfaceTurn handle (some facade) (input, .surfaceFocusChanged handle focused)
        (some { facade with focused := focused })
  | presentation {facade : Facade} {state : PresentationState} (input : Input)
      (new : facade.presentation ≠ state) :
      SurfaceTurn handle (some facade) (input, .surfacePresentationChanged handle state)
        (some { facade with presentation := state })
  | title {facade : Facade} {title : String} (input : Input) (new : facade.title ≠ title) :
      SurfaceTurn handle (some facade) (input, .surfaceTitleChanged handle title)
        (some { facade with title := title })
  | released {facade : Facade} (input : Input) (unfocused : facade.focused = false) :
      SurfaceTurn handle (some facade) (input, .surfaceLiveChanged handle false) none

/-! ## Stories about one surface -/

section Surface

variable {surface : Surface}

/-- The story that some effects of an input tell of a surface. -/
def Surface.Tells (input : Input) (before after : Surface) (effects : List Effect) : Prop :=
  Story (SurfaceTurn before.handle) (some (.ofSurface before))
    ((Effect.notifications effects).map (input, ·)) (some (.ofSurface after))

/-- A change that is told if it is one. -/
private theorem tells_ite {condition : Prop} [Decidable condition] {input : Input}
    {later : Surface} {notification : ShellNotification}
    (turn : condition → SurfaceTurn surface.handle (some (.ofSurface surface))
      (input, notification) (some (.ofSurface later))) :
    surface.Tells input
      (if condition then Surface.changed later notification else .quiet surface false).state
      (if condition then Surface.changed later notification else .quiet surface false).effects := by
  split
  · rename_i holds
    exact .single (turn holds)
  · exact .nil _

/-- What a touch of a live surface lets the world see is a story about it. -/
theorem Touch.tells (live : surface.live = true) (touch : Touch) (input : Input) :
    surface.Tells input (touch.act surface).state (touch.act surface).effects := by
  cases touch with
  | rename title =>
      apply tells_ite
      intro new
      exact .title input (by simpa [live, Facade.ofSurface, Pane.ofSurface] using new)
  | present presentation =>
      apply tells_ite
      intro new
      exact .presentation input (by simpa [live, Facade.ofSurface, Pane.ofSurface] using new)
  | focus focused =>
      apply tells_ite
      intro new
      exact .focus input (by simpa [live, Facade.ofSurface, Pane.ofSurface] using new)
  | startDropper =>
      apply tells_ite
      intro new
      exact .dropper input (by simpa [live, Facade.ofSurface, Pane.ofSurface] using new)
  | stopDropper =>
      apply tells_ite
      intro new
      exact .dropper input (by simpa [live, Facade.ofSurface, Pane.ofSurface] using new)
  | render =>
      simp only [act, Surface.render, Step.answering, live, if_true]
      split
      · exact .nil _
      · cases drawn : surface.firstFrameDrawn with
        | false => exact .single (.firstFrame input drawn)
        | true =>
            have same : Facade.ofSurface { surface with firstFrameDrawn := true } =
                .ofSurface surface := by
              simp [Facade.ofSurface, Pane.ofSurface, drawn]
            rw [Surface.Tells]
            exact same ▸ .nil _
  | frameReady =>
      simp only [act, Surface.frameReady, Step.quiet, live, if_true]
      split <;> exact .nil _

/-- The parting of a surface is the end of its story. -/
theorem Surface.parting_story (surface : Surface) (input : Input) :
    Story (SurfaceTurn surface.handle) (some (.ofSurface surface))
      (surface.parting.map (input, ·)) none := by
  unfold parting
  cases focused : surface.focused with
  | false => exact .single (.released input focused)
  | true =>
      have told : (Facade.ofSurface surface).focused ≠ false := by
        simp [Facade.ofSurface, Pane.ofSurface, focused]
      exact .cons (.focus input told) (.single (.released input rfl))

end Surface

end AppLifecycle
