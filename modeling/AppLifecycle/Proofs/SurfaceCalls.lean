import Mathlib.Algebra.BigOperators.Group.List.Basic
import Mathlib.Algebra.Ring.Nat
import Mathlib.Data.List.Induction
import AppLifecycle.Surface

/-!
# A surface over its life

Each call to a surface takes one of a few courses (`Surface.Course`): the surface is released, a
frame is dropped, queued or drawn, the first frame is counted as drawn, the dropper starts or
stops, or nothing happens that frames have to do with. So the books balance: each frame that
became ready has been dropped or drawn or still waits, unless it came when no more could wait
(`Life.account`). A released surface refuses every call and stays as it is
(`surface_life`).
-/

namespace AppLifecycle

/-- A call to a surface. -/
inductive SurfaceCall where
  | markReleased
  | frameReady
  | render
  | drawFirstFrame
  | startFrameDropper
  | stopFrameDropper
  | requestPresentation (presentation : PresentationState)
  | setFocused (focused : Bool)
  | setTitle (title : String)
  | bindTexture (buffer : BufferInfo)
  /-- A session takes the surface in. -/
  | setOwner (owner : SessionHandle)
  deriving DecidableEq

/-- What comes back from a call. -/
inductive SurfaceAnswer where
  | nothing
  /-- Whether the call changed the surface. -/
  | changed (whether : Bool)
  | rendered (outcome : RenderOutcome)
  | bound (result : Except Failure TextureBinding)

namespace SurfaceAnswer

/-- Whether a frame was drawn. -/
def isDrawn : SurfaceAnswer → Bool
  | rendered (.drawn _) => true
  | _ => false

end SurfaceAnswer

namespace SurfaceCall

/-- How a released surface answers. -/
def refusal (handle : SurfaceHandle) : SurfaceCall → SurfaceAnswer
  | markReleased | drawFirstFrame | startFrameDropper | stopFrameDropper
  | requestPresentation _ | setFocused _ | setTitle _ => .changed false
  | render => .rendered .released
  | bindTexture _ => .bound (.error (.surfaceReleased handle))
  | frameReady | setOwner _ => .nothing

/-- Whether a call with this answer made the first frame count as drawn. -/
def opens : SurfaceCall → SurfaceAnswer → Bool
  | render, .rendered (.drawn true) => true
  | drawFirstFrame, .changed true => true
  | _, _ => false

/-- Whether a call with this answer drew or discarded the frames that waited. -/
def clears : SurfaceCall → SurfaceAnswer → Bool
  | render, .rendered (.drawn _) => true
  | startFrameDropper, .changed true => true
  | markReleased, .changed true => true
  | _, _ => false

end SurfaceCall

/-- A call with the surface as it was before and with what came of it. -/
structure SurfaceExchange where
  before : Surface
  call : SurfaceCall
  step : Step Surface SurfaceAnswer

namespace SurfaceExchange

variable (exchange : SurfaceExchange)

/-- Whether a frame was drawn. -/
def drew : Bool :=
  exchange.step.answer.isDrawn

/-- Whether the first frame came to count as drawn. -/
def opened : Bool :=
  exchange.call.opens exchange.step.answer

/-- Whether the frames that waited were drawn or discarded. -/
def cleared : Bool :=
  exchange.call.clears exchange.step.answer

/-- Whether a frame became ready that is to wait. -/
def queued : Bool :=
  exchange.call = .frameReady && exchange.before.live && !exchange.before.dropperRunning

/-- The number of frames that were drawn in one. -/
def consumed : Nat :=
  if exchange.drew then exchange.before.frames.pending else 0

/-- The number of frames lost because as many as possible waited already. -/
def lost : Nat :=
  if exchange.queued ∧ exchange.before.frames.pending = FrameStats.pendingLimit then 1 else 0

end SurfaceExchange

/-- Since frames were drawn or discarded last, a frame has been queued. -/
def QueuedSince (past : List SurfaceExchange) : Prop :=
  ∃ earlier frame later, past = earlier ++ frame :: later ∧ frame.queued = true ∧
    ∀ exchange ∈ later, exchange.cleared = false

theorem not_queuedSince_nil : ¬ QueuedSince [] := by
  rintro ⟨earlier, frame, later, split, _⟩
  simp at split

theorem queuedSince_concat (past : List SurfaceExchange) (last : SurfaceExchange) :
    QueuedSince (past ++ [last]) ↔
      last.queued = true ∨ (QueuedSince past ∧ last.cleared = false) := by
  constructor
  · rintro ⟨earlier, frame, later, split, queued, kept⟩
    cases later using List.reverseRecOn with
    | nil =>
        obtain ⟨_, same⟩ := List.append_inj' split rfl
        cases same
        exact .inl queued
    | append_singleton later final =>
        rw [← List.cons_append, ← List.append_assoc] at split
        obtain ⟨rfl, same⟩ := List.append_inj' split rfl
        cases same
        refine .inr ⟨⟨earlier, frame, later, rfl, queued, fun exchange member => ?_⟩, ?_⟩
        · exact kept exchange (List.mem_append_left _ member)
        · exact kept last (by simp)
  · rintro (queued | ⟨⟨earlier, frame, later, rfl, queued, kept⟩, uncleared⟩)
    · exact ⟨past, last, [], rfl, queued, by simp⟩
    · refine ⟨earlier, frame, later ++ [last], by simp, queued, fun exchange member => ?_⟩
      rcases List.mem_append.1 member with before | final
      · exact kept exchange before
      · rw [List.mem_singleton.1 final]
        exact uncleared

/-- Whether a notification tells that the first frame was drawn. -/
def ShellNotification.isFirstFrame : ShellNotification → Bool
  | surfaceFirstFrameDrawn _ => true
  | _ => false

/-- What some effects tell of first frames. -/
def Effect.firstFrames (effects : List Effect) : List ShellNotification :=
  (notifications effects).filter ShellNotification.isFirstFrame

@[simp]
theorem Effect.firstFrames_append (first second : List Effect) :
    firstFrames (first ++ second) = firstFrames first ++ firstFrames second := by
  rw [firstFrames, notifications_append, List.filter_append]
  rfl

namespace Surface

/-- Carries out a call. -/
def obey (surface : Surface) : SurfaceCall → Step Surface SurfaceAnswer
  | .markReleased => answeringChanged surface.markReleased
  | .frameReady => .quiet surface.frameReady .nothing
  | .render => surface.render.answering (.rendered surface.render.answer)
  | .drawFirstFrame => answeringChanged surface.drawFirstFrame
  | .startFrameDropper => answeringChanged surface.startFrameDropper
  | .stopFrameDropper => answeringChanged surface.stopFrameDropper
  | .requestPresentation presentation => answeringChanged (surface.requestPresentation presentation)
  | .setFocused focused => answeringChanged (surface.setFocused focused)
  | .setTitle title => answeringChanged (surface.setTitle title)
  | .bindTexture buffer => .quiet surface (.bound (surface.bindTexture buffer))
  | .setOwner owner => .quiet { surface with owner := owner } .nothing
where
  /-- The same step with its answer among those of all calls. -/
  answeringChanged (step : Step Surface Bool) : Step Surface SurfaceAnswer :=
    step.answering (.changed step.answer)

/-- The surface after calls, one after the other. -/
def after (surface : Surface) (calls : List SurfaceCall) : Surface :=
  calls.foldl (fun surface call => (surface.obey call).state) surface

/-- The calls, each with the surface before it and what came of it. -/
def history (surface : Surface) : List SurfaceCall → List SurfaceExchange
  | [] => []
  | call :: rest =>
      ⟨surface, call, surface.obey call⟩ :: history (surface.obey call).state rest

/-- What the world outside sees of calls. -/
def effectsOf (surface : Surface) (calls : List SurfaceCall) : List Effect :=
  (surface.history calls).flatMap (·.step.effects)

/-! ## The course of one call -/

/-- Who the surface is, its frames and its life are the same. -/
structure SameFrames (later surface : Surface) : Prop where
  handle : later.handle = surface.handle
  live : later.live = surface.live
  first : later.firstFrameDrawn = surface.firstFrameDrawn
  dropper : later.dropperRunning = surface.dropperRunning
  frames : later.frames = surface.frames

/-- What a call can do to a surface, as far as its frames and its life go. -/
inductive Course (surface : Surface) : SurfaceCall → Step Surface SurfaceAnswer → Prop where
  /-- A released surface is left alone, but may be taken in by a session. -/
  | refused (gone : surface.live = false) (call : SurfaceCall) (owner : SessionHandle) :
      Course surface call ⟨{ surface with owner := owner }, call.refusal surface.handle, []⟩
  | release {effects : List Effect} (live : surface.live = true)
      (silent : Effect.firstFrames effects = []) :
      Course surface .markReleased
        ⟨{ surface with
            live := false
            focused := false
            frames := { surface.frames with pending := 0 } },
          .changed true, effects⟩
  /-- A frame becomes ready and is dropped. -/
  | drop (live : surface.live = true) (running : surface.dropperRunning = true) :
      Course surface .frameReady
        ⟨{ surface with frames := { surface.frames with dropped := surface.frames.dropped + 1 } },
          .nothing, []⟩
  /-- A frame becomes ready and waits. -/
  | queue (live : surface.live = true) (stopped : surface.dropperRunning = false) :
      Course surface .frameReady
        ⟨{ surface with
            frames :=
              { surface.frames with
                pending := min (surface.frames.pending + 1) FrameStats.pendingLimit } },
          .nothing, []⟩
  | draw {effects : List Effect} (live : surface.live = true)
      (waiting : surface.frames.pending ≠ 0)
      (told : Effect.firstFrames effects =
        if surface.firstFrameDrawn then [] else [.surfaceFirstFrameDrawn surface.handle]) :
      Course surface .render
        ⟨{ surface with
            firstFrameDrawn := true
            frames :=
              { surface.frames with pending := 0, rendered := surface.frames.rendered + 1 } },
          .rendered (.drawn !surface.firstFrameDrawn), effects⟩
  /-- The first frame counts as drawn from now on. -/
  | first (live : surface.live = true) (undrawn : surface.firstFrameDrawn = false) :
      Course surface .drawFirstFrame
        ⟨{ surface with firstFrameDrawn := true }, .changed true,
          [.notify (.surfaceFirstFrameDrawn surface.handle)]⟩
  | start {effects : List Effect} (live : surface.live = true)
      (stopped : surface.dropperRunning = false) (silent : Effect.firstFrames effects = []) :
      Course surface .startFrameDropper
        ⟨{ surface with
            dropperRunning := true
            frames :=
              { surface.frames with
                pending := 0
                dropped := surface.frames.dropped + surface.frames.pending } },
          .changed true, effects⟩
  | stop {effects : List Effect} (live : surface.live = true)
      (running : surface.dropperRunning = true) (silent : Effect.firstFrames effects = []) :
      Course surface .stopFrameDropper
        ⟨{ surface with dropperRunning := false }, .changed true, effects⟩
  /-- Nothing that frames have to do with. -/
  | aside {call : SurfaceCall} {step : Step Surface SurfaceAnswer} (live : surface.live = true)
      (noFrame : call ≠ .frameReady) (same : step.state.SameFrames surface)
      (undrawn : step.answer.isDrawn = false) (unopened : call.opens step.answer = false)
      (uncleared : call.clears step.answer = false)
      (silent : Effect.firstFrames step.effects = []) : Course surface call step

variable {surface : Surface}

theorem obey_of_released (gone : surface.live = false) (call : SurfaceCall) :
    ∃ owner, surface.obey call =
      ⟨{ surface with owner := owner }, call.refusal surface.handle, []⟩ := by
  rcases surface with ⟨handle, persistentId, chrome, owner, _, _, _, _, _, _, _⟩
  cases gone
  cases call with
  | setOwner taker => exact ⟨taker, rfl⟩
  | _ => exact ⟨owner, rfl⟩

theorem SameFrames.refl (surface : Surface) : surface.SameFrames surface :=
  ⟨rfl, rfl, rfl, rfl, rfl⟩

/-- A call that changes something else, or nothing. -/
theorem course_of_changed {call : SurfaceCall} {condition : Prop} [Decidable condition]
    {later : Surface} {notification : ShellNotification} (live : surface.live = true)
    (noFrame : call ≠ .frameReady) (same : later.SameFrames surface)
    (unopened : ∀ whether, call.opens (.changed whether) = false)
    (uncleared : ∀ whether, call.clears (.changed whether) = false)
    (other : notification.isFirstFrame = false) :
    Course surface call (obey.answeringChanged
      (if condition then changed later notification else .quiet surface false)) := by
  split
  · refine .aside live noFrame same rfl (unopened true) (uncleared true) ?_
    simp [obey.answeringChanged, changed, Step.answering, Effect.firstFrames, Effect.notifications,
      other]
  · exact .aside live noFrame (.refl surface) rfl (unopened false) (uncleared false) rfl

theorem obey_course (surface : Surface) (call : SurfaceCall) :
    Course surface call (surface.obey call) := by
  cases live : surface.live with
  | false =>
      obtain ⟨owner, refused⟩ := obey_of_released live call
      rw [refused]
      exact .refused live call owner
  | true =>
      rcases surface with ⟨_, _, _, _, _, drawn, dropper, _, focused, _, ⟨pending, _, _⟩⟩
      cases live
      cases call with
      | markReleased => cases focused <;> exact .release rfl rfl
      | frameReady =>
          cases dropper with
          | true => exact .drop rfl rfl
          | false => exact .queue rfl rfl
      | render =>
          cases pending with
          | zero => exact .aside rfl nofun (.refl _) rfl rfl rfl rfl
          | succ before => cases drawn <;> exact .draw rfl (Nat.succ_ne_zero before) rfl
      | drawFirstFrame =>
          cases drawn with
          | true => exact .aside rfl nofun (.refl _) rfl rfl rfl rfl
          | false => exact .first rfl rfl
      | startFrameDropper =>
          cases dropper with
          | true => exact .aside rfl nofun (.refl _) rfl rfl rfl rfl
          | false => exact .start rfl rfl rfl
      | stopFrameDropper =>
          cases dropper with
          | true => exact .stop rfl rfl rfl
          | false => exact .aside rfl nofun (.refl _) rfl rfl rfl rfl
      | requestPresentation | setFocused | setTitle =>
          exact course_of_changed rfl nofun ⟨rfl, rfl, rfl, rfl, rfl⟩ (fun _ => rfl)
            (fun _ => rfl) rfl
      | bindTexture buffer => exact .aside rfl nofun (.refl _) rfl rfl rfl rfl
      | setOwner owner => exact .aside rfl nofun ⟨rfl, rfl, rfl, rfl, rfl⟩ rfl rfl rfl rfl

namespace Course

variable {call : SurfaceCall} {step : Step Surface SurfaceAnswer}
  (course : Course surface call step)
include course

theorem handle : step.state.handle = surface.handle := by
  cases course with
  | aside live noFrame same => exact same.handle
  | _ => rfl

/-- Who is live was live. -/
theorem live_before (live : step.state.live = true) : surface.live = true := by
  cases course with
  | refused gone => exact live
  | aside live => exact live
  | _ => assumption

theorem bounded (before : surface.frames.pending ≤ FrameStats.pendingLimit) :
    step.state.frames.pending ≤ FrameStats.pendingLimit := by
  cases course with
  | release | draw | start => exact Nat.zero_le _
  | queue => exact Nat.min_le_right ..
  | aside live noFrame same => rw [same.frames]; exact before
  | refused | drop | first | stop => exact before

/-- While the dropper runs no frame waits, nor does one once the surface is released. -/
theorem drained
    (before : surface.dropperRunning = true ∨ surface.live = false → surface.frames.pending = 0)
    (idle : step.state.dropperRunning = true ∨ step.state.live = false) :
    step.state.frames.pending = 0 := by
  cases course with
  | release | draw | start => rfl
  | queue live stopped => simp [live, stopped] at idle
  | stop live running => exact before (.inl running)
  | aside live noFrame same =>
      rw [same.frames]
      apply before
      rwa [← same.dropper, ← same.live]
  | refused | drop | first => exact before idle

theorem unfocused (before : surface.live = false → surface.focused = false)
    (gone : step.state.live = false) : step.state.focused = false := by
  cases course with
  | release => rfl
  | aside live noFrame same => rw [same.live, live] at gone; contradiction
  | refused | drop | queue | draw | first | start | stop => exact before gone

/-- A frame that becomes ready is dropped or waits, unless it is lost, and frames that no longer
wait have been drawn or dropped. -/
theorem account (before : surface.frames.pending ≤ FrameStats.pendingLimit)
    (live : step.state.live = true) :
    let exchange : SurfaceExchange := ⟨surface, call, step⟩
    surface.frames.dropped + surface.frames.pending + (if call = .frameReady then 1 else 0) =
      step.state.frames.dropped + step.state.frames.pending + exchange.consumed +
        exchange.lost := by
  simp only [SurfaceExchange.consumed, SurfaceExchange.lost, SurfaceExchange.queued,
    SurfaceExchange.drew]
  cases course with
  | refused gone => simp [gone] at live
  | release => contradiction
  | drop _ running =>
      simp [SurfaceAnswer.isDrawn, running]
      omega
  | queue stillLive stopped =>
      by_cases full : surface.frames.pending = FrameStats.pendingLimit
      · simp [SurfaceAnswer.isDrawn, stillLive, stopped, full]
      · have room : min (surface.frames.pending + 1) FrameStats.pendingLimit =
            surface.frames.pending + 1 := by omega
        simp [SurfaceAnswer.isDrawn, stopped, full, room]
        omega
  | draw | first | start | stop => simp [SurfaceAnswer.isDrawn]
  | aside _ noFrame same undrawn => simp [undrawn, noFrame, same.frames]

/-- Each frame that counts as dropped or drawn has become ready. -/
theorem fits :
    step.state.frames.dropped + step.state.frames.pending + step.state.frames.rendered ≤
      surface.frames.dropped + surface.frames.pending + surface.frames.rendered +
        (if call = .frameReady then 1 else 0) := by
  cases course with
  | aside live noFrame same => rw [same.frames]; omega
  | queue => simp only [if_true]; omega
  | refused | release | drop | draw | first | start | stop => simp <;> omega

/-- Draws are counted. -/
theorem rendered :
    step.state.frames.rendered =
      surface.frames.rendered + if step.answer.isDrawn then 1 else 0 := by
  cases course with
  | refused gone call => cases call <;> rfl
  | aside live noFrame same undrawn => simp [same.frames, undrawn]
  | release | drop | queue | draw | first | start | stop => rfl

/-- Frames wait after a call if one is queued, or if some waited and are neither drawn nor
discarded. -/
theorem waits_iff :
    let exchange : SurfaceExchange := ⟨surface, call, step⟩
    step.state.frames.pending ≠ 0 ↔
      exchange.queued = true ∨ (surface.frames.pending ≠ 0 ∧ exchange.cleared = false) := by
  simp only [SurfaceExchange.queued, SurfaceExchange.cleared]
  cases course with
  | refused gone call =>
      have uncleared : call.clears (call.refusal surface.handle) = false := by cases call <;> rfl
      simp [gone, uncleared]
  | drop live running => simp [running, SurfaceCall.clears]
  | queue live stopped => simp [live, stopped, FrameStats.pendingLimit, UInt32.size]
  | aside live noFrame same undrawn unopened uncleared => simp [noFrame, same.frames, uncleared]
  | release | draw | first | start | stop => simp [SurfaceCall.clears]

/-- The first frame counts as drawn once a call has made it so. -/
theorem firstFrameDrawn :
    (if step.state.firstFrameDrawn then 1 else 0) =
      (if surface.firstFrameDrawn then 1 else 0) + if call.opens step.answer then 1 else 0 := by
  cases course with
  | refused gone call => cases call <;> rfl
  | draw => cases drawn : surface.firstFrameDrawn <;> simp [SurfaceCall.opens]
  | first live undrawn => simp [undrawn, SurfaceCall.opens]
  | aside live noFrame same undrawn unopened => simp [same.first, unopened]
  | release | drop | queue | start | stop => rfl

/-- The call that makes the first frame count as drawn tells so, and no other call does. -/
theorem firstFrames :
    Effect.firstFrames step.effects =
      if call.opens step.answer then [.surfaceFirstFrameDrawn surface.handle] else [] := by
  cases course with
  | refused gone call => cases call <;> rfl
  | draw live waiting told =>
      rw [told]
      cases surface.firstFrameDrawn <;> rfl
  | aside live noFrame same undrawn unopened uncleared silent => simp [silent, unopened]
  | release live silent | start live stopped silent | stop live running silent => exact silent
  | drop | queue | first => rfl

end Course

/-! ## Calls one after the other -/

theorem after_concat (surface : Surface) (calls : List SurfaceCall) (last : SurfaceCall) :
    surface.after (calls ++ [last]) = ((surface.after calls).obey last).state := by
  rw [after, List.foldl_append]
  rfl

theorem history_concat (surface : Surface) (calls : List SurfaceCall) (last : SurfaceCall) :
    surface.history (calls ++ [last]) =
      surface.history calls ++
        [⟨surface.after calls, last, (surface.after calls).obey last⟩] := by
  induction calls generalizing surface with
  | nil => rfl
  | cons call rest ih => exact congrArg (List.cons _) (ih _)

/-- The surface before a call is what earlier calls have left. -/
theorem before_of_mem_history {calls : List SurfaceCall} {exchange : SurfaceExchange}
    (member : exchange ∈ surface.history calls) :
    ∃ earlier, earlier <+: calls ∧ exchange.before = surface.after earlier := by
  induction calls using List.reverseRecOn with
  | nil => exact absurd member List.not_mem_nil
  | append_singleton calls last ih =>
      rw [history_concat, List.mem_append] at member
      rcases member with early | final
      · obtain ⟨earlier, within, same⟩ := ih early
        exact ⟨earlier, within.trans (List.prefix_append ..), same⟩
      · cases List.mem_singleton.1 final
        exact ⟨calls, List.prefix_append .., rfl⟩

/-- How a surface stands after calls, given the calls and what came of them. -/
structure Life (handle : SurfaceHandle) (calls : List SurfaceCall) (past : List SurfaceExchange)
    (surface : Surface) : Prop where
  called : surface.handle = handle
  bounded : surface.frames.pending ≤ FrameStats.pendingLimit
  drained : surface.dropperRunning = true ∨ surface.live = false → surface.frames.pending = 0
  unfocused : surface.live = false → surface.focused = false
  account : surface.live = true →
    calls.count .frameReady =
      surface.frames.dropped + surface.frames.pending + (past.map (·.consumed)).sum +
        (past.map (·.lost)).sum
  fits : surface.frames.dropped + surface.frames.pending + surface.frames.rendered ≤
    calls.count .frameReady
  rendered : surface.frames.rendered = past.countP (·.drew)
  waits_iff : surface.frames.pending ≠ 0 ↔ QueuedSince past
  firstFrameDrawn : past.countP (·.opened) = if surface.firstFrameDrawn then 1 else 0
  firstFrames : Effect.firstFrames (past.flatMap (·.step.effects)) =
    if surface.firstFrameDrawn then [.surfaceFirstFrameDrawn handle] else []

theorem life_create (handle : SurfaceHandle) (owner : SessionHandle) (persistentId : SurfaceId)
    (title : String) (chrome : ChromeLevel) :
    Life handle [] [] (create handle owner persistentId title chrome) where
  called := rfl
  bounded := Nat.zero_le _
  drained _ := rfl
  unfocused _ := rfl
  account _ := rfl
  fits := Nat.le_refl _
  rendered := rfl
  waits_iff := iff_of_false (fun waiting => waiting rfl) not_queuedSince_nil
  firstFrameDrawn := rfl
  firstFrames := rfl

variable {handle : SurfaceHandle} {calls : List SurfaceCall} {past : List SurfaceExchange}

theorem count_concat (calls : List SurfaceCall) (last : SurfaceCall) :
    (calls ++ [last]).count .frameReady =
      calls.count .frameReady + if last = .frameReady then 1 else 0 := by
  rw [List.count_append, List.count_singleton]
  simp

/-- One more call. -/
theorem Life.concat (life : Life handle calls past surface) {call : SurfaceCall}
    {step : Step Surface SurfaceAnswer} (course : Course surface call step) :
    Life handle (calls ++ [call]) (past ++ [⟨surface, call, step⟩]) step.state where
  called := course.handle.trans life.called
  bounded := course.bounded life.bounded
  drained := course.drained life.drained
  unfocused := course.unfocused life.unfocused
  account live := by
    have before := life.account (course.live_before live)
    have now := course.account life.bounded live
    simp only [count_concat, List.map_append, List.sum_append, List.map_singleton,
      List.sum_singleton] at now ⊢
    omega
  fits := by
    have before := life.fits
    have now := course.fits
    rw [count_concat]
    omega
  rendered := by
    rw [course.rendered, life.rendered, List.countP_append, List.countP_singleton]
    rfl
  waits_iff := by
    rw [queuedSince_concat, ← life.waits_iff]
    exact course.waits_iff
  firstFrameDrawn := by
    rw [course.firstFrameDrawn, ← life.firstFrameDrawn, List.countP_append, List.countP_singleton]
    rfl
  firstFrames := by
    have once := course.firstFrameDrawn
    rw [List.flatMap_append, List.flatMap_singleton, Effect.firstFrames_append,
      life.firstFrames, course.firstFrames, life.called]
    -- The first frame does not come to count as drawn a second time.
    revert once
    cases surface.firstFrameDrawn <;> cases step.state.firstFrameDrawn <;>
      cases call.opens step.answer <;> simp

/-- So it stands with every surface. -/
theorem life_history (handle : SurfaceHandle) (owner : SessionHandle) (persistentId : SurfaceId)
    (title : String) (chrome : ChromeLevel) (calls : List SurfaceCall) :
    let fresh := create handle owner persistentId title chrome
    Life handle calls (fresh.history calls) (fresh.after calls) := by
  intro fresh
  induction calls using List.reverseRecOn with
  | nil => exact life_create handle owner persistentId title chrome
  | append_singleton calls last ih =>
      rw [history_concat, after_concat]
      exact ih.concat (obey_course _ last)

/-- No frame is lost where the number of waiting frames never reached its limit. -/
theorem lost_eq_zero {fresh : Surface}
    (room : ∀ earlier, earlier <+: calls →
      (fresh.after earlier).frames.pending ≠ FrameStats.pendingLimit) :
    ((fresh.history calls).map (·.lost)).sum = 0 := by
  apply List.sum_eq_zero
  intro lost member
  obtain ⟨exchange, listed, rfl⟩ := List.mem_map.1 member
  obtain ⟨earlier, within, same⟩ := before_of_mem_history listed
  refine if_neg fun full => room earlier within ?_
  rw [← same]
  exact full.2

/-- A released surface stays as it is, but for its owner, and nothing is told of it. -/
theorem after_of_released (gone : surface.live = false) (calls : List SurfaceCall) :
    (∃ owner, surface.after calls = { surface with owner := owner }) ∧
      surface.effectsOf calls = [] := by
  induction calls generalizing surface with
  | nil => exact ⟨⟨surface.owner, rfl⟩, rfl⟩
  | cons call rest ih =>
      obtain ⟨owner, refused⟩ := obey_of_released gone call
      have stillGone : (surface.obey call).state.live = false := by rw [refused]; exact gone
      obtain ⟨⟨last, later⟩, silent⟩ := ih stillGone
      rw [refused] at later silent
      constructor
      · refine ⟨last, ?_⟩
        rw [after, List.foldl_cons, refused]
        exact later
      · rw [effectsOf, history, refused, List.flatMap_cons]
        exact silent

theorem obey_markReleased_live (surface : Surface) :
    (surface.obey .markReleased).state.live = false := by
  simp only [obey, obey.answeringChanged, Step.answering, markReleased]
  split
  · rfl
  · exact Bool.eq_false_iff.2 ‹_›

/-- A draw succeeds if the surface is live and frames wait. -/
theorem obey_render_isDrawn (surface : Surface) :
    (surface.obey .render).answer.isDrawn = true ↔
      surface.live = true ∧ surface.frames.pending ≠ 0 := by
  simp only [obey, Step.answering, render]
  split
  · split <;> simp [SurfaceAnswer.isDrawn, Step.quiet, *]
  · simp [SurfaceAnswer.isDrawn, Step.quiet, *]

/-- The life of a surface. Frames: none waits while the dropper runs, and never more than the
limit; as long as the surface is live and the number of waiting frames has not reached the limit,
each frame that became ready has been dropped or drawn or still waits; a draw succeeds on a live
surface for which a frame has been queued since frames were drawn or discarded last. The first
frame comes to count as drawn once at most, which is told then. Once the surface is released it
refuses every call and stays as it is, but for its owner, and nothing is told of it. -/
theorem surface_life (handle : SurfaceHandle) (owner : SessionHandle) (persistentId : SurfaceId)
    (title : String) (chrome : ChromeLevel) (calls : List SurfaceCall) :
    let fresh := create handle owner persistentId title chrome
    let surface := fresh.after calls
    let past := fresh.history calls
    (surface.dropperRunning = true → surface.frames.pending = 0) ∧
      surface.frames.pending ≤ FrameStats.pendingLimit ∧
      (surface.live = true →
        (∀ earlier, earlier <+: calls →
          (fresh.after earlier).frames.pending ≠ FrameStats.pendingLimit) →
        calls.count .frameReady =
          surface.frames.dropped + surface.frames.pending + (past.map (·.consumed)).sum) ∧
      surface.frames.dropped + surface.frames.rendered ≤ calls.count .frameReady ∧
      surface.frames.rendered = past.countP (·.drew) ∧
      ((surface.obey .render).answer.isDrawn = true ↔ surface.live = true ∧ QueuedSince past) ∧
      past.countP (·.opened) = (if surface.firstFrameDrawn then 1 else 0) ∧
      Effect.firstFrames (fresh.effectsOf calls) =
        (if surface.firstFrameDrawn then [.surfaceFirstFrameDrawn handle] else []) ∧
      ∀ later,
        let released := (surface.obey .markReleased).state
        let last := released.after later
        last.live = false ∧ last.frames.pending = 0 ∧ last.focused = false ∧
          last = { released with owner := last.owner } ∧ released.effectsOf later = [] ∧
          ∀ call, (last.obey call).answer = call.refusal handle := by
  intro fresh surface past
  have life : Life handle calls past surface :=
    life_history handle owner persistentId title chrome calls
  have release : Life handle _ _ (surface.obey .markReleased).state :=
    life.concat (obey_course surface .markReleased)
  have gone := obey_markReleased_live surface
  refine ⟨fun running => life.drained (.inl running), life.bounded, fun live room => ?_, ?_,
    life.rendered, ?_, life.firstFrameDrawn, life.firstFrames, fun later => ?_⟩
  · rw [life.account live, lost_eq_zero room, Nat.add_zero]
  · have fits := life.fits
    omega
  · rw [obey_render_isDrawn, life.waits_iff]
  · intro released last
    obtain ⟨⟨owner, same⟩, silent⟩ := after_of_released gone later
    have lastGone : last.live = false := by rw [show last = _ from same]; exact gone
    refine ⟨lastGone, ?_, ?_, ?_, silent, fun call => ?_⟩
    · rw [show last = _ from same]; exact release.drained (.inr gone)
    · rw [show last = _ from same]; exact release.unfocused gone
    · rw [show last = _ from same]
    · obtain ⟨_, refused⟩ := obey_of_released lastGone call
      rw [refused, show last = _ from same, ← release.called]

end Surface

end AppLifecycle
