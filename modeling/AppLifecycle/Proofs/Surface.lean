import AppLifecycle.Policy
import AppLifecycle.Surface

/-!
# What a touch does to a surface

Between coming up and being released a surface is only ever touched: renamed, presented, focused,
drawn, handed a frame, or its dropper started or stopped. A touch leaves alone who the surface
is: its handle, its identity, its session and whether it is live.
-/

namespace AppLifecycle

namespace Surface

/-- The same window, perhaps with other contents. -/
structure Alike (first second : Surface) : Prop where
  handle : second.handle = first.handle
  persistentId : second.persistentId = first.persistentId
  chrome : second.chrome = first.chrome
  owner : second.owner = first.owner
  live : second.live = first.live

namespace Alike

theorem refl (surface : Surface) : Alike surface surface :=
  ⟨rfl, rfl, rfl, rfl, rfl⟩

theorem trans {first second third : Surface} (left : Alike first second)
    (right : Alike second third) : Alike first third where
  handle := right.handle.trans left.handle
  persistentId := right.persistentId.trans left.persistentId
  chrome := right.chrome.trans left.chrome
  owner := right.owner.trans left.owner
  live := right.live.trans left.live

end Alike

/-- A step of a surface that keeps who it is. -/
def Gentle {α : Type} (act : Surface → Step Surface α) : Prop :=
  ∀ surface, Alike surface (act surface).state

theorem handle_markReleased (content : Surface) :
    content.markReleased.state.handle = content.handle := by
  rw [markReleased]
  split <;> rfl

end Surface

/-- A change of one surface that neither brings it up nor releases it. -/
inductive Touch where
  | rename (title : String)
  | present (presentation : PresentationState)
  | focus (focused : Bool)
  | startDropper
  | stopDropper
  | render
  | frameReady
  deriving DecidableEq

namespace Touch

/-- Carries out a touch. -/
def act : Touch → Surface → Step Surface Unit
  | rename title, surface => (surface.setTitle title).answering ()
  | present presentation, surface => (surface.requestPresentation presentation).answering ()
  | focus focused, surface => (surface.setFocused focused).answering ()
  | startDropper, surface => surface.startFrameDropper.answering ()
  | stopDropper, surface => surface.stopFrameDropper.answering ()
  | render, surface => surface.render.answering ()
  | frameReady, surface => .quiet surface.frameReady ()

/-- The touch that a policy asks for. -/
def ofRequest : DropperRequest → Touch
  | .start => startDropper
  | .stop => stopDropper

theorem act_gentle (touch : Touch) : Surface.Gentle touch.act := by
  intro surface
  cases touch with
  | rename title =>
      simp only [act, Surface.setTitle, Step.answering]
      split <;> exact ⟨rfl, rfl, rfl, rfl, rfl⟩
  | present presentation =>
      simp only [act, Surface.requestPresentation, Step.answering]
      split <;> exact ⟨rfl, rfl, rfl, rfl, rfl⟩
  | focus focused =>
      simp only [act, Surface.setFocused, Step.answering]
      split <;> exact ⟨rfl, rfl, rfl, rfl, rfl⟩
  | startDropper =>
      simp only [act, Surface.startFrameDropper, Step.answering]
      split <;> exact ⟨rfl, rfl, rfl, rfl, rfl⟩
  | stopDropper =>
      simp only [act, Surface.stopFrameDropper, Step.answering]
      split <;> exact ⟨rfl, rfl, rfl, rfl, rfl⟩
  | render =>
      simp only [act, Surface.render, Step.answering]
      split
      · split <;> exact ⟨rfl, rfl, rfl, rfl, rfl⟩
      · exact .refl surface
  | frameReady =>
      simp only [act, Surface.frameReady, Step.quiet]
      split
      · split <;> exact ⟨rfl, rfl, rfl, rfl, rfl⟩
      · exact .refl surface

/-! ## Focus and dropper after a touch -/

section Live

variable {surface : Surface} (live : surface.live = true)
include live

/-- A touch of a live surface changes the focus or the dropper only if that is what it is for, and
then they are as asked for. -/
theorem flags_act (touch : Touch) :
    ((touch.act surface).state.focused =
      match touch with
      | focus focused => focused
      | _ => surface.focused) ∧
    (touch.act surface).state.dropperRunning =
      match touch with
      | startDropper => true
      | stopDropper => false
      | _ => surface.dropperRunning := by
  cases touch with
  | rename title =>
      simp only [act, Surface.setTitle, Step.answering]
      split <;> exact ⟨rfl, rfl⟩
  | present presentation =>
      simp only [act, Surface.requestPresentation, Step.answering]
      split <;> exact ⟨rfl, rfl⟩
  | focus focused =>
      simp only [act, Surface.setFocused, Step.answering, live, Bool.true_and]
      split
      · exact ⟨rfl, rfl⟩
      · rename_i same
        exact ⟨by simpa [Step.quiet] using same, rfl⟩
  | startDropper =>
      simp only [act, Surface.startFrameDropper, Step.answering, live, Bool.true_and]
      split
      · exact ⟨rfl, rfl⟩
      · rename_i same
        exact ⟨rfl, by simpa [Step.quiet] using same⟩
  | stopDropper =>
      simp only [act, Surface.stopFrameDropper, Step.answering, live, Bool.true_and]
      split
      · exact ⟨rfl, rfl⟩
      · rename_i same
        exact ⟨rfl, by simpa [Step.quiet] using same⟩
  | render =>
      simp only [act, Surface.render, Step.answering, live, if_true]
      split <;> exact ⟨rfl, rfl⟩
  | frameReady =>
      simp only [act, Surface.frameReady, Step.quiet, live, if_true]
      split <;> exact ⟨rfl, rfl⟩

end Live

end Touch

end AppLifecycle
