import AppLifecycle.Proofs.Coordinator.Ending
import AppLifecycle.Proofs.Coordinator.Focus
import AppLifecycle.Proofs.Coordinator.Stale
import AppLifecycle.Proofs.Coordinator.SuspendedDroppers
import AppLifecycle.Proofs.WakeLock

/-!
# Inputs that are delivered twice

A frame is counted each time it becomes ready, and each surface that is reported may be issued an
id. Every other input says how things are to be. Once it has been handled they are so, or it has
been found that they cannot be; delivered again at once it comes to nothing (`redelivery_silent`).
-/

namespace AppLifecycle

/-- Whether it matters how often an input comes. -/
def Input.counts : Input → Bool
  | .event (.frameReady _) | .event (.surfaceCreated ..) => true
  | _ => false

namespace Input

variable {input : Input} {op : LifecycleOp} {key : SessionHandle} {touch : Touch}
  {handle : SurfaceHandle}

theorem about_of_lifecycle? (asked : input.lifecycle? = some (op, key)) :
    input.concern? = some (.session key) ∧ input.request? = some (op, key) ∧ op ≠ .stop := by
  cases input with
  | shutdown => contradiction
  | event event => cases event <;> cases asked; exact ⟨rfl, rfl, LifecycleOp.noConfusion⟩
  | command command =>
      cases command <;> cases asked <;> exact ⟨rfl, rfl, LifecycleOp.noConfusion⟩

/-- A session that is asked to go somewhere goes along an edge or stays. -/
theorem deed?_of_lifecycle? (config : LifecycleConfig) (session : Session)
    (asked : input.lifecycle? = some (op, key)) :
    input.deed? config session = none ∨
      ∃ target, op.target? session.state = some target ∧
        input.deed? config session = some (.advance target) := by
  have along (goes : input.deed? config session = (op.target? session.state).map .advance) :
      input.deed? config session = none ∨
        ∃ target, op.target? session.state = some target ∧
          input.deed? config session = some (.advance target) := by
    rw [goes]
    cases op.target? session.state with
    | none => exact .inl rfl
    | some target => exact .inr ⟨target, rfl, rfl⟩
  cases input with
  | shutdown => contradiction
  | event event => cases event <;> cases asked; exact along rfl
  | command command =>
      cases command with
      | suspendSession key =>
          cases asked
          by_cases exempt : config.isExempt session.appId = true
          · exact .inl (if_pos exempt)
          · exact along (if_neg exempt)
      | _ => cases asked <;> exact along rfl

theorem concern?_of_touch? (asked : input.touch? = some (touch, handle)) :
    input.concern? = some (.surface handle) := by
  cases input with
  | shutdown => contradiction
  | event event => cases event <;> cases asked <;> rfl
  | command command => cases command <;> cases asked <;> rfl

/-- A surface is touched as asked for, but drawn only while its session runs. -/
theorem deed?_of_touch? (config : LifecycleConfig) (session : Session)
    (asked : input.touch? = some (touch, handle)) :
    input.deed? config session =
      if touch = .render ∧ session.state ≠ .running then none
      else some (.touch touch handle) := by
  cases input with
  | shutdown => contradiction
  | event event => cases event <;> cases asked <;> rfl
  | command command =>
      cases command with
      | render handle =>
          cases asked
          by_cases running : session.state = .running <;> simp [deed?, running]
      | _ => cases asked <;> rfl

end Input

/-! ## What is done already -/

/-- Whoever has followed an edge finds no further edge for the same request. -/
theorem LifecycleOp.target?_again {op : LifecycleOp} {source target : SessionState}
    (edge : op.target? source = some target) : op.target? target = none := by
  cases op <;> cases source <;> cases edge <;> rfl

/-- Any touch but the arrival of a frame is done with once it is done. -/
theorem Touch.act_again {touch : Touch} (other : touch ≠ .frameReady) (surface : Surface) :
    touch.act (touch.act surface).state = .quiet (touch.act surface).state () := by
  cases touch with
  | frameReady => exact absurd rfl other
  | rename title =>
      by_cases changes : (surface.live && surface.title != title) = true <;>
        simp [act, Surface.setTitle, Surface.changed, Step.answering, Step.quiet, changes]
  | present presentation =>
      by_cases changes : (surface.live && surface.presentation != presentation) = true <;>
        simp [act, Surface.requestPresentation, Surface.changed, Step.answering, Step.quiet,
          changes]
  | focus focused =>
      by_cases changes : (surface.live && surface.focused != focused) = true <;>
        simp [act, Surface.setFocused, Surface.changed, Step.answering, Step.quiet, changes]
  | startDropper =>
      by_cases changes : (surface.live && !surface.dropperRunning) = true <;>
        simp [act, Surface.startFrameDropper, Surface.changed, Step.answering, Step.quiet, changes]
  | stopDropper =>
      by_cases changes : (surface.live && surface.dropperRunning) = true <;>
        simp [act, Surface.stopFrameDropper, Surface.changed, Step.answering, Step.quiet, changes]
  | render =>
      by_cases live : surface.live = true <;> by_cases waits : surface.frames.pending = 0 <;>
        simp [act, Surface.render, Step.answering, Step.quiet, live, waits]

namespace Session

variable {α : Type} {session : Session} {surface : Surface} {handle : SurfaceHandle}
  {key : SessionHandle} {act : Surface → Step Surface α} {answer : α}

/-- An action that leaves a surface alone leaves its session alone. -/
theorem Sound.onSurface_of_idle (sound : session.Sound key)
    (held : session.surface? handle = some surface) (idle : act surface = .quiet surface answer) :
    session.onSurface handle act = .quiet session (some answer) := by
  have same : (session.surfaces.map fun candidate =>
      if candidate.handle = handle then surface else candidate) = session.surfaces := by
    apply (List.map_congr_left _).trans (List.map_id session.surfaces)
    intro candidate member
    split
    · rename_i equal
      have found := (surface?_eq_some_iff sound.distinct).2 ⟨member, equal⟩
      exact Option.some.inj (held.symm.trans found)
    · rfl
  rw [onSurface_of_found held, idle]
  simp only [Step.quiet, same]

end Session

namespace Roster

variable {α : Type} {roster : Roster} {surface : Surface} {handle : SurfaceHandle}
  {act : Surface → Step Surface α} {answer : α}

/-- And it leaves the roster alone. -/
theorem Consistent.onSurface_of_idle (consistent : roster.Consistent)
    (found : roster.surface? handle = some surface) (idle : act surface = .quiet surface answer) :
    roster.onSurface handle act = .quiet roster (some answer) := by
  obtain ⟨key, session, filed, held⟩ := consistent.surface?_eq_some_iff.1 found
  have indexed := consistent.owners_of_mem filed (Session.mem_surfaceHandles_of_surface? held)
  have alone := (consistent.sound key session filed).onSurface_of_idle held idle
  rw [onSurface_of_found indexed filed, onSession_of_found filed, alone]
  simp only [Step.quiet, Step.answering, put_self filed]

end Roster

namespace Coordinator

variable {π : Type} {setup : Setup π} {state : Coordinator π} {now later : Surroundings}
  {input : Input} {key : SessionHandle} {handle : SurfaceHandle}

theorem withRoster_of_idle {α : Type} {act : Roster → Step Roster α} {answer : α}
    (idle : act state.roster = .quiet state.roster answer) :
    (state.withRoster act).answering () = .quiet state () := by
  rw [withRoster_eq, idle]
  rfl

/-! ## One kind of input after the other -/

/-- Handled now, an input leaves a state in which it comes to nothing later. -/
def Spent (setup : Setup π) (now later : Surroundings) (input : Input)
    (state : Coordinator π) : Prop :=
  let next := (handleInput (setup.amid now) input state).state
  handleInput (setup.amid later) input next = .quiet next ()

/-- What comes to nothing whenever it is handled. -/
theorem spent_of_still
    (still : ∀ surroundings, handleInput (setup.amid surroundings) input state = .quiet state ()) :
    Spent setup now later input state := by
  rw [Spent, still now]
  exact still later

section Consistent

variable (consistent : state.roster.Consistent)
include consistent

theorem spent_of_unknown {subject : Subject} (about : input.subject? = some subject)
    (absent : subject.session? state.roster = none) : Spent setup now later input state :=
  spent_of_still fun surroundings =>
    handleInput_of_unknown (setup.amid surroundings) consistent about absent

omit consistent in
/-- A session that has come up is there when it is reported again. -/
theorem enroll_spent (pid : UInt32) (reported : String) :
    Spent setup now later (.event (.sessionCreated key pid reported)) state := by
  have enrolled (surroundings : Surroundings) {candidate : Coordinator π} {session : Session}
      (found : candidate.roster.session? key = some session) :
      handleInput (setup.amid surroundings) (.event (.sessionCreated key pid reported)) candidate =
        .quiet candidate () :=
    withRoster_of_idle (Roster.addSession_of_found found)
  cases found : state.roster.session? key with
  | some session => exact spent_of_still fun surroundings => enrolled surroundings found
  | none =>
      apply enrolled later
      change (state.roster.addSession _ _ _).state.session? key = _
      rw [Roster.addSession_of_absent found]
      exact Roster.session?_enroll.trans (if_pos rfl)

/-- A session that has ended is not there to be ended again. -/
theorem ending_spent (asked : input.ending? = some key) :
    Spent setup now later input state := by
  have next := handleInput_consistent consistent (setup.amid now) input
  have gone : (handleInput (setup.amid now) input state).state.roster.state? key = none := by
    rw [handleInput_of_ending _ consistent asked]
    exact state?_removeSession _ state key
  rw [Spent, handleInput_of_ending _ next asked,
    removeSession_of_absent (Roster.state?_eq_none_iff.1 gone)]

/-- A session that has gone where it was asked to has no edge to go there again. -/
theorem lifecycle_spent {op : LifecycleOp} (asked : input.lifecycle? = some (op, key)) :
    Spent setup now later input state := by
  obtain ⟨concern, request, notStop⟩ := Input.about_of_lifecycle? asked
  cases found : state.roster.session? key with
  | none => exact spent_of_unknown consistent (Input.subject?_of_concern? concern) found
  | some session =>
      have handled (surroundings : Surroundings) :=
        handleInput_of_concern (setup.amid surroundings) consistent concern found
      rcases Input.deed?_of_lifecycle? setup.config session asked with
        stays | ⟨target, edge, goes⟩
      · apply spent_of_still
        intro surroundings
        rw [handled, Setup.amid_config, stays]
        rfl
      · obtain rfl := (consistent.sound key session found).handle
        have moved := consistent.move found (target?_ne_stopped notStop edge)
        have first := handled now
        rw [Setup.amid_config, goes] at first
        have arrived : (handleInput (setup.amid now) input state).state.roster.state? session.handle
            = some target := by
          rw [first]
          apply ((consult_unmoved _ moved _).1 session.handle).trans
          exact Roster.state?_put.trans (if_pos rfl)
        obtain ⟨later, found, rfl⟩ := Option.map_eq_some_iff.1 arrived
        exact handleInput_of_deadEnd _ request found (LifecycleOp.target?_again edge)

/-! ## Inputs about a surface -/

theorem handleInput_of_touch (setup : Setup π) {touch : Touch} {session : Session}
    (asked : input.touch? = some (touch, handle))
    (owned : state.roster.ownerOf? handle = some session) :
    handleInput setup input state =
      if touch = .render ∧ session.state ≠ .running then .quiet state ()
      else (state.withRoster (·.onSurface handle touch.act)).answering () := by
  rw [handleInput_of_concern setup consistent (Input.concern?_of_touch? asked) owned,
    Input.deed?_of_touch? setup.config session asked]
  split
  · rfl
  · exact (onSurface_of_held consistent owned touch fun _ => rfl).symm

/-- A touch that is done with once it is done leaves nothing to do. -/
theorem touch_spent {touch : Touch} (asked : input.touch? = some (touch, handle))
    (other : touch ≠ .frameReady) : Spent setup now later input state := by
  have about := Input.subject?_of_concern? (Input.concern?_of_touch? asked)
  cases owned : state.roster.ownerOf? handle with
  | none => exact spent_of_unknown consistent about owned
  | some session =>
      have handled (surroundings : Surroundings) :=
        handleInput_of_touch consistent (setup.amid surroundings) asked owned
      by_cases idle : touch = .render ∧ session.state ≠ .running
      · apply spent_of_still
        intro surroundings
        rw [handled, if_pos idle]
      · -- The surface is as the touch left it, and its session runs if it did before.
        have concerned : (Subject.surface handle).session? state.roster = some session := owned
        have filed := Subject.found_of_session? consistent concerned
        obtain ⟨surface, held⟩ := Subject.held_of_session? consistent concerned
        have found : state.roster.surface? handle = some surface := by
          rw [Roster.surface?, owned]
          exact held
        have touched : (state.roster.onSurface handle touch.act).state.Consistent :=
          consistent.onSurface touch.act_gentle
        have left : (state.roster.onSurface handle touch.act).state.surface? handle =
            some (touch.act surface).state := by
          rw [Roster.surface?_onSurface touch.act_gentle consistent, if_pos rfl, found,
            Option.map_some]
        have owner : ((state.roster.onSurface handle touch.act).state.ownerOf? handle).map
            (·.state) = some session.state := by
          rw [Roster.ownerOf?, Roster.owners_onSurface,
            Subject.owners_of_session? consistent owned, Option.bind_some]
          exact Roster.state?_onSurface.trans (Roster.state?_of_session? filed)
        obtain ⟨next, nextOwned, same⟩ := Option.map_eq_some_iff.1 owner
        rw [Spent, handled now, if_neg idle]
        apply (handleInput_of_touch touched _ asked nextOwned).trans
        rw [same, if_neg idle]
        exact withRoster_of_idle (touched.onSurface_of_idle left (touch.act_again other surface))

/-- A surface that is gone is not there to be removed again. -/
theorem depart_spent : Spent setup now later (.event (.surfaceRemoved handle)) state := by
  cases owned : state.roster.ownerOf? handle with
  | none => exact spent_of_unknown consistent rfl owned
  | some session =>
      have first : handleInput (setup.amid now) (.event (.surfaceRemoved handle)) state =
          carryOut (setup.amid now) session state (some (.depart handle)) :=
        removeSurface_of_held consistent owned
      have gone : (carryOut (setup.amid now) session state (some (.depart handle))
          ).state.roster.ownerOf? handle = none := by
        rw [carryOut, perform, andThen_consult_nil, Roster.ownerOf?, Roster.owners_collect,
          if_pos rfl]
        rfl
      have next := handleInput_consistent consistent (setup.amid now)
        (.event (.surfaceRemoved handle))
      rw [first] at next
      rw [Spent, first]
      exact handleInput_of_unknown _ next rfl gone

/-- A surface that has been handed over is held by the session that is to hold it. -/
theorem handOver_spent {target : SessionHandle} :
    Spent setup now later (.event (.surfaceReparented handle target)) state := by
  cases owned : state.roster.ownerOf? handle with
  | none => exact spent_of_unknown consistent rfl owned
  | some session =>
      by_cases different : session.handle = target
      · subst different
        exact spent_of_still fun _ => reparentSurface_of_settled owned
      · cases foundTarget : state.roster.session? target with
        | none => exact spent_of_still fun _ => reparentSurface_of_nobody foundTarget
        | some receiver =>
            have concerned : (Subject.surface handle).session? state.roster = some session := owned
            have found := Subject.found_of_session? consistent concerned
            obtain ⟨surface, held⟩ := Subject.held_of_session? consistent concerned
            have handed := consistent.handOver found held foundTarget different
            have next := handleInput_consistent consistent (setup.amid now)
              (.event (.surfaceReparented handle target))
            have indexed : (handleInput (setup.amid now)
                (.event (.surfaceReparented handle target)) state).state.roster.owners.find?
                  handle = some target := by
              change (Step.answering (reparentSurface _ _ _ _) ()).state.roster.owners.find? _ = _
              rw [reparentSurface_of_accepted consistent found held foundTarget different]
              apply (congrArg (·.find? handle) (consult_unmoved _ handed _).2).trans
              rw [Roster.owners_deliver, if_pos (Session.mem_of_surface?_eq_some held).2.symm]
            obtain ⟨owner, owned, found, _⟩ := next.ownerOf?_of_owners indexed
            obtain rfl := (next.sound target owner found).handle
            exact reparentSurface_of_settled owned

/-- The surface that has the focus is not given it again. -/
theorem focus_of_focused {surface : Surface} (found : state.roster.surface? handle = some surface)
    (focused : surface.focused = true) (remembered : state.focused = some handle) :
    (state.focus handle).answering () = .quiet state () := by
  have same : ({ state with focused := some handle } : Coordinator π) = state := by
    rw [← remembered]
  have idle : surface.setFocused true = .quiet surface false := by
    rw [Surface.setFocused, focused]
    simp
  rw [focus, liveSurface?, found, Option.filter_some, if_pos (consistent.live_of_surface? found)]
  simp only [remembered, Option.filter_some, ne_eq, not_true_eq_false, decide_false,
    Bool.false_eq_true, if_false, Step.quiet_andThen]
  rw [same, withRoster_eq, consistent.onSurface_of_idle found idle]
  rfl

/-- The surface that has been given the focus has it. -/
theorem focus_spent (known : (handleInput (setup.amid now) (.command (.focusSurface handle))
      state).state.FocusKnown) :
    Spent setup now later (.command (.focusSurface handle)) state := by
  cases found : state.roster.surface? handle with
  | none =>
      have absent : state.roster.ownerOf? handle = none := by
        rw [Roster.ownerOf?, consistent.surface?_eq_none_iff.1 found]
        rfl
      exact spent_of_unknown consistent rfl absent
  | some surface =>
      have next := handleInput_consistent consistent (setup.amid now)
        (.command (.focusSurface handle))
      have remembered : (handleInput (setup.amid now) (.command (.focusSurface handle))
          state).state.focused = some handle := by
        change (state.focus handle).state.focused = _
        rw [focus, liveSurface?, found, Option.filter_some,
          if_pos (consistent.live_of_surface? found)]
        rfl
      obtain ⟨same, sameFound, focused⟩ := (known handle).1 remembered
      exact focus_of_focused next sameFound focused remembered

end Consistent

/-! ## Everybody -/

/-- Where nobody is left and the wake lock is free, there is nothing to end. -/
theorem shutdown_of_deserted (deserted : ∀ key, state.roster.session? key = none)
    (free : state.wakeLock.owners = ∅) (settled : state.wakeLock.Settled) :
    shutdown setup state = .quiet state () := by
  have sessions : state.roster.sessions = ∅ := KeyMap.ext_find? fun key =>
    (deserted key).trans (KeyMap.find?_empty key).symm
  have removed : state.roster.removeAll = .quiet state.roster [] := by
    rw [Roster.removeAll, sessions]
    rfl
  have nothing : state.roster.surfaceHandles = [] := by
    rw [Roster.surfaceHandles, sessions]
    rfl
  have focused : state.focused.filter (· ∉ ([] : List SurfaceHandle)) = state.focused := by
    cases state.focused <;> rfl
  rw [shutdown_eq, removed, nothing, WakeLock.releaseAll_of_free free settled, forgetting, focused]
  rfl

/-- Everybody who has ended is not there to be ended again. -/
theorem shutdown_spent : Spent setup now later .shutdown state := by
  have ended : handleInput (setup.amid now) .shutdown state = shutdown (setup.amid now) state := rfl
  rw [Spent, ended, shutdown_eq]
  apply shutdown_of_deserted
  · exact fun _ => Roster.session?_removeAll
  · exact WakeLock.owners_synchronize
  · exact WakeLock.synchronize_settled

/-! ## Runs -/

/-- Whenever in a run an input is delivered twice, the second time it leaves the state as the first
left it, tells nothing, and calls neither the power backend nor the policy, unless it reports a
frame or a new surface. This is so for all inputs, those that are refused too, and for each policy;
what the host says may have changed in between. -/
theorem redelivery_silent (setup : Setup π) (moments : List Moment) (now later : Surroundings)
    (input : Input) (once : input.counts = false) :
    let next := (handleInput (setup.amid now) input (after setup moments)).state
    handleInput (setup.amid later) input next = .quiet next () := by
  have consistent : (after setup moments).roster.Consistent := after_consistent setup moments
  have spent : Spent setup now later input (after setup moments) := by
    cases input with
    | shutdown => exact shutdown_spent
    | event event =>
        cases event with
        | sessionCreated key pid appId => exact enroll_spent pid appId
        | sessionRemoved key => exact ending_spent consistent rfl
        | sessionSuspended key => exact lifecycle_spent consistent rfl
        | surfaceCreated | frameReady => contradiction
        | surfaceRemoved handle => exact depart_spent consistent
        | surfaceReparented handle target => exact handOver_spent consistent
        | surfaceRenamed handle title => exact touch_spent consistent rfl Touch.noConfusion
    | command command =>
        cases command with
        | markRunning key | suspendSession key | resumeSession key =>
            exact lifecycle_spent consistent rfl
        | stopSession key => exact ending_spent consistent rfl
        | focusSurface handle =>
            have known :=
              after_focusKnown setup (moments ++ [⟨.command (.focusSurface handle), now⟩])
            rw [after_concat] at known
            exact focus_spent consistent known
        | requestPresentation | render | startFrameDropper | stopFrameDropper =>
            exact touch_spent consistent rfl Touch.noConfusion
  exact spent

/-- A resumption is delivered twice: the first one wakes the device, asks the policy about the
window and starts its dropper. -/
theorem resumption_redelivered :
    let resumption : Input := .command (.resumeSession ⟨1⟩)
    let first := handleInput throttlingSetup resumption (after throttlingSetup suspendedWindow)
    resumption.counts = false ∧ first.effects.length = 5 ∧
      handleInput throttlingSetup resumption first.state = .quiet first.state () := by
  intro resumption first
  have once : resumption.counts = false := rfl
  refine ⟨once, by decide, ?_⟩
  exact redelivery_silent throttlingSetup suspendedWindow throttlingSetup.surroundings
    throttlingSetup.surroundings resumption once

end Coordinator

end AppLifecycle
