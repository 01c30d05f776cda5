import AppLifecycle.Proofs.Coordinator.Belongings

/-!
# What is done for one session

What is done for a session changes nothing that belongs to another and tells nothing of others
(`Confined`), and it hangs on nothing but what belongs to the session itself (`Alike`). Both are
shown of deeds and of the consultations that follow them. They need a policy that decides about
each surface apart, as the built-in ones do (`BuiltIn.separate`).
-/

namespace AppLifecycle

/-! ## Policies that decide about each surface apart -/

namespace SurfacePolicy

/-- A way to decide about one surface that looks at nothing but whether this surface is
remembered, and changes nothing else. -/
structure Apart (handle : SurfaceHandle)
    (decide : KeySet SurfaceHandle → KeySet SurfaceHandle × List DropperRequest) : Prop where
  requests : ∀ first second, second.contains handle = first.contains handle →
    (decide second).2 = (decide first).2
  remembers : ∀ first second, second.contains handle = first.contains handle →
    (decide second).1.contains handle = (decide first).1.contains handle
  spares : ∀ memory other, other ≠ handle →
    (decide memory).1.contains other = memory.contains other

/-- The occasion on which a policy is asked about a surface of a session, if it is, and how it
decides then. -/
def occasion? {π : Type} (policy : SurfacePolicy π) (owner : Session) (surface : Surface) :
    Option (PolicyHook × (π → π × List DropperRequest)) :=
  match owner.state with
  | .suspended => some (.suspended owner.view surface.view,
      fun memory => policy.suspended memory owner.view surface.view)
  | .running => some (.resumed owner.view surface.view,
      fun memory => policy.resumed memory owner.view surface.view)
  | _ => none

/-- All decisions are made apart, and a surface that goes takes no other along. -/
structure Separate (policy : SurfacePolicy (KeySet SurfaceHandle)) : Prop where
  apart : ∀ owner surface occasion decide,
    policy.occasion? owner surface = some (occasion, decide) → Apart surface.handle decide
  removed : ∀ memory gone other, other ≠ gone →
    (policy.removed memory gone).contains other = memory.contains other

theorem apart_of_silent (handle : SurfaceHandle) : Apart handle fun memory => (memory, []) where
  requests _ _ _ := rfl
  remembers _ _ same := same
  spares _ _ _ := rfl

theorem keepCompositing_separate : keepCompositing.Separate where
  apart owner surface occasion decide asked := by
    unfold occasion? at asked
    split at asked
    · cases asked
      exact apart_of_silent surface.handle
    · cases asked
      exact apart_of_silent surface.handle
    · contradiction
  removed _ _ _ _ := rfl

theorem throttleSuspended_apart_suspended (session : SessionView) (surface : SurfaceView) :
    Apart surface.handle fun memory => throttleSuspended.suspended memory session surface := by
  by_cases stops : session.state = .suspended ∧ surface.live ∧ surface.dropperRunning
  · simp only [throttleSuspended, stops, and_self, if_true]
    constructor
    · exact fun _ _ _ => rfl
    · intro first second _
      rw [KeySet.add, KeySet.add, KeyMap.contains_insert, KeyMap.contains_insert]
      simp
    · intro memory other different
      rw [KeySet.add, KeyMap.contains_insert]
      simp [different]
  · simp only [throttleSuspended, stops, if_false]
    exact apart_of_silent surface.handle

theorem throttleSuspended_apart_resumed (session : SessionView) (surface : SurfaceView) :
    Apart surface.handle fun memory => throttleSuspended.resumed memory session surface := by
  simp only [throttleSuspended]
  constructor
  · intro first second same
    rw [same]
    split <;> rfl
  · intro first second same
    rw [same]
    split
    · simp only [KeyMap.contains_erase, same]
    · exact same
  · intro memory other different
    split
    · rw [KeyMap.contains_erase]
      simp [different]
    · rfl

theorem throttleSuspended_separate : throttleSuspended.Separate where
  apart owner surface occasion decide asked := by
    unfold occasion? at asked
    split at asked
    · cases asked
      exact throttleSuspended_apart_suspended owner.view surface.view
    · cases asked
      exact throttleSuspended_apart_resumed owner.view surface.view
    · contradiction
  removed memory gone other different := by
    simp only [throttleSuspended]
    rw [KeyMap.contains_erase]
    simp [different]

theorem BuiltIn.separate {policy : SurfacePolicy (KeySet SurfaceHandle)}
    (builtIn : policy.BuiltIn) : policy.Separate := by
  rcases builtIn with rfl | rfl
  · exact keepCompositing_separate
  · exact throttleSuspended_separate

theorem Separate.contains_removedEach {policy : SurfacePolicy (KeySet SurfaceHandle)}
    (separate : policy.Separate) {handles : List SurfaceHandle} {handle : SurfaceHandle}
    (stays : handle ∉ handles) (memory : KeySet SurfaceHandle) :
    (handles.foldl policy.removed memory).contains handle = memory.contains handle := by
  induction handles generalizing memory with
  | nil => rfl
  | cons gone rest ih =>
      rw [List.mem_cons, not_or] at stays
      rw [List.foldl_cons, ih stays.2, separate.removed memory gone handle stays.1]

end SurfacePolicy

namespace Coordinator

variable {α : Type} {setup : Setup (KeySet SurfaceHandle)}
  {state first second : Coordinator (KeySet SurfaceHandle)} {input : Input} {subject : Subject}
  {session : Session} {key : SessionHandle} {handle : SurfaceHandle}

/-! ## Steps that concern one session -/

/-- A step that leaves alone what belongs to other sessions, and tells nothing of them. -/
structure Confined (key : SessionHandle) (state : Coordinator (KeySet SurfaceHandle))
    (step : Step (Coordinator (KeySet SurfaceHandle)) α) : Prop where
  consistent : step.state.roster.Consistent
  agree : ∀ other ≠ key, Agree other state step.state
  gainless : ∀ handle, step.state.roster.Holds key handle → state.roster.Holds key handle
  sessions : ∀ other ≠ key, Effect.toldOfSession other step.effects = []
  surfaces : ∀ handle, ¬ state.roster.Holds key handle →
    Effect.toldOfSurface handle step.effects = []

/-- Two steps that do the same to a session and tell the same of everybody. -/
structure Alike (key : SessionHandle)
    (first second : Step (Coordinator (KeySet SurfaceHandle)) α) : Prop where
  agree : Agree key first.state second.state
  answer : second.answer = first.answer
  sessions : ∀ other, Effect.toldOfSession other second.effects =
    Effect.toldOfSession other first.effects
  surfaces : ∀ handle, Effect.toldOfSurface handle second.effects =
    Effect.toldOfSurface handle first.effects

theorem Confined.quiet (consistent : state.roster.Consistent) (key : SessionHandle) (answer : α) :
    Confined key state (.quiet state answer) where
  consistent := consistent
  agree other _ := .refl other state
  gainless _ holds := holds
  sessions _ _ := rfl
  surfaces _ _ := rfl

theorem Confined.andThen {β : Type} {step : Step (Coordinator (KeySet SurfaceHandle)) α}
    {next : α → Coordinator (KeySet SurfaceHandle) →
      Step (Coordinator (KeySet SurfaceHandle)) β} (confined : Confined key state step)
    (goesOn : Confined key step.state (next step.answer step.state)) :
    Confined key state (step.andThen next) where
  consistent := goesOn.consistent
  agree other different := (confined.agree other different).trans (goesOn.agree other different)
  gainless handle holds := confined.gainless handle (goesOn.gainless handle holds)
  sessions other different := by
    rw [Step.andThen, Effect.toldOfSession_append, confined.sessions other different,
      goesOn.sessions other different, List.append_nil]
  surfaces handle free := by
    have stillFree : ¬ step.state.roster.Holds key handle :=
      fun holds => free (confined.gainless handle holds)
    rw [Step.andThen, Effect.toldOfSurface_append, confined.surfaces handle free,
      goesOn.surfaces handle stillFree, List.append_nil]

theorem Alike.quiet (agree : Agree key first second) (answer : α) :
    Alike key (.quiet first answer) (.quiet second answer) where
  agree := agree
  answer := rfl
  sessions _ := rfl
  surfaces _ := rfl

theorem Alike.andThen {β : Type} {left right : Step (Coordinator (KeySet SurfaceHandle)) α}
    {next : α → Coordinator (KeySet SurfaceHandle) →
      Step (Coordinator (KeySet SurfaceHandle)) β} (alike : Alike key left right)
    (goesOn : Alike key (next left.answer left.state) (next left.answer right.state)) :
    Alike key (left.andThen next) (right.andThen next) := by
  unfold Step.andThen
  rw [alike.answer]
  constructor
  · exact goesOn.agree
  · exact goesOn.answer
  · intro other
    rw [Effect.toldOfSession_append, Effect.toldOfSession_append, alike.sessions, goesOn.sessions]
  · intro handle
    rw [Effect.toldOfSurface_append, Effect.toldOfSurface_append, alike.surfaces, goesOn.surfaces]

/-! ## Touching a surface -/

section Touch

variable {act : Surface → Step Surface Unit} (gentle : Surface.Gentle act)
include gentle

/-- Touching a surface while the policy changes its mind about it. -/
theorem confined_touch (discreet : Surface.Discreet act) {memory : KeySet SurfaceHandle}
    {effects : List Effect} (consistent : state.roster.Consistent)
    (found : state.roster.session? key = some session) (held : handle ∈ session.surfaceHandles)
    (spares : ∀ other ≠ handle, memory.contains other = state.memory.contains other)
    (told : Effect.notifications effects =
      Effect.notifications (session.onSurface handle act).effects) (answer : α) :
    Confined key state
      ⟨{ state with
          roster := state.roster.put key (session.onSurface handle act).state
          memory := memory },
        answer, effects⟩ := by
  obtain ⟨surface, heldSurface⟩ := Session.exists_surface?_of_mem held
  rw [Session.effects_onSurface heldSurface] at told
  constructor
  · exact consistent.put found ((consistent.sound key session found).onSurface gentle)
      (Session.surfaceHandles_onSurface gentle)
  · intro other different
    have filed : (state.roster.put key (session.onSurface handle act).state).session? other =
        state.roster.session? other := by
      rw [Roster.session?_put, if_neg different]
    refine ⟨filed, rfl, fun _ _ => rfl, fun candidate elsewhere => spares candidate ?_⟩
    rintro rfl
    exact consistent.not_mem_of_elsewhere found different elsewhere held
  · intro candidate holds
    rw [Roster.holds_put, Session.surfaceHandles_onSurface gentle] at holds
    exact ⟨session, found, holds⟩
  · intro other _
    rw [Effect.toldOfSession, told]
    exact discreet.toldOfSession surface other
  · intro candidate free
    rw [Effect.toldOfSurface, told]
    refine (discreet.toldOfSurface surface candidate).trans (if_neg ?_)
    rintro rfl
    rw [(Session.mem_of_surface?_eq_some heldSurface).2] at free
    exact free ⟨session, found, held⟩

theorem alike_touch {former latter : KeySet SurfaceHandle} {effects : List Effect}
    (agree : Agree key first second) (found : first.roster.session? key = some session)
    (sparesFormer : ∀ other ≠ handle, former.contains other = first.memory.contains other)
    (sparesLatter : ∀ other ≠ handle, latter.contains other = second.memory.contains other)
    (same : handle ∈ session.surfaceHandles → latter.contains handle = former.contains handle)
    (answer : α) :
    Alike key
      ⟨{ first with
          roster := first.roster.put key (session.onSurface handle act).state
          memory := former },
        answer, effects⟩
      ⟨{ second with
          roster := second.roster.put key (session.onSurface handle act).state
          memory := latter },
        answer, effects⟩ where
  agree := by
    have before (candidate : SurfaceHandle)
        (holds : (first.roster.put key (session.onSurface handle act).state).Holds key candidate) :
        candidate ∈ session.surfaceHandles := by
      rwa [Roster.holds_put, Session.surfaceHandles_onSurface gentle] at holds
    constructor
    · simp only [Roster.session?_put, if_true]
    · exact agree.awake
    · intro candidate holds
      exact agree.named candidate ⟨session, found, before candidate holds⟩
    · intro candidate holds
      have member := before candidate holds
      by_cases equal : candidate = handle
      · subst equal
        exact same member
      · exact (sparesLatter candidate equal).trans
          ((agree.remembered candidate ⟨session, found, member⟩).trans
            (sparesFormer candidate equal).symm)
  answer := rfl
  sessions _ := rfl
  surfaces _ := rfl

end Touch

/-! ## Deeds -/

/-- Whoever is not forgotten goes by its id and is remembered as before. -/
theorem spared_forgetting (separate : setup.policy.Separate) {handles : List SurfaceHandle}
    (stays : handle ∉ handles) :
    (state.forgetting setup handles).surfaceIds.bySurface.find? handle =
        state.surfaceIds.bySurface.find? handle ∧
      (state.forgetting setup handles).memory.contains handle = state.memory.contains handle :=
  ⟨(SurfaceIds.bySurface_forgetEach handles).trans (if_neg stays),
    separate.contains_removedEach stays state.memory⟩

section Confined

variable (consistent : state.roster.Consistent)
  (found : state.roster.session? session.handle = some session)
include consistent found

theorem confined_advance {target : SessionState} (active : target ≠ .stopped) :
    Confined session.handle state (perform setup session state (.advance target)) where
  consistent := consistent.move found active
  agree other different := by
    constructor
    · exact Roster.session?_put.trans (if_neg different)
    · simp [perform, Setup.isHeldBy_lockAt, different]
    · exact fun _ _ => rfl
    · exact fun _ _ => rfl
  gainless handle holds := by
    have member := Roster.holds_put.1 holds
    exact ⟨session, found, member⟩
  sessions other different := by
    simp [perform, Effect.toldOfSession_notify, ShellNotification.session?, Ne.symm different,
      Effect.toldOfSession_ofLock Setup.lockAt_ofLock]
  surfaces handle _ := by
    simp [perform, Effect.toldOfSurface_notify, ShellNotification.surface?,
      Effect.toldOfSurface_ofLock Setup.lockAt_ofLock]

variable (separate : setup.policy.Separate)
include separate

theorem confined_finish : Confined session.handle state (perform setup session state .finish) where
  consistent := consistent.discard found
  agree other different := by
    have stays (handle : SurfaceHandle) (elsewhere : state.roster.Holds other handle) :
        handle ∉ session.surfaceHandles :=
      consistent.not_mem_of_elsewhere found different elsewhere
    constructor
    · exact Roster.session?_discard.trans (if_neg different)
    · simp [perform, Setup.isHeldBy_rest, different]
    · exact fun handle elsewhere => (spared_forgetting separate (stays handle elsewhere)).1
    · exact fun handle elsewhere => (spared_forgetting separate (stays handle elsewhere)).2
  gainless handle holds :=
    absurd holds (Roster.not_holds_of_absent (Roster.session?_discard.trans (if_pos rfl)))
  sessions other different := by
    have sound := consistent.sound session.handle session found
    simp [perform, Roster.toldOfSession_farewell sound, Ne.symm different,
      Effect.toldOfSession_ofLock Setup.rest_ofLock]
  surfaces handle unheld := by
    have sound := consistent.sound session.handle session found
    rw [Roster.holds_iff_of_found found] at unheld
    simp [perform, Roster.toldOfSurface_farewell sound, Session.surface?_eq_none_iff.2 unheld,
      Effect.toldOfSurface_ofLock Setup.rest_ofLock]

theorem confined_depart (held : handle ∈ session.surfaceHandles) :
    Confined session.handle state (perform setup session state (.depart handle)) := by
  obtain ⟨surface, heldSurface⟩ := Session.exists_surface?_of_mem held
  have called : surface.handle = handle := (Session.mem_of_surface?_eq_some heldSurface).2
  constructor
  · exact consistent.collect found held
  · intro other different
    have stays (candidate : SurfaceHandle) (elsewhere : state.roster.Holds other candidate) :
        candidate ∉ [handle] := by
      rw [List.mem_singleton]
      rintro rfl
      exact consistent.not_mem_of_elsewhere found different elsewhere held
    constructor
    · exact Roster.session?_collect.trans (if_neg different)
    · rfl
    · exact fun candidate elsewhere => (spared_forgetting separate (stays candidate elsewhere)).1
    · exact fun candidate elsewhere => (spared_forgetting separate (stays candidate elsewhere)).2
  · intro candidate holds
    exact ⟨session, found, (Roster.holds_collect.1 holds).1⟩
  · intro other _
    simp [perform, Session.effects_onSurface heldSurface,
      Surface.markReleased_discreet.toldOfSession]
  · intro candidate unheld
    have different : candidate ≠ surface.handle := by
      rintro rfl
      exact unheld ⟨session, found, called ▸ held⟩
    simp [perform, Session.effects_onSurface heldSurface,
      Surface.markReleased_discreet.toldOfSurface, different]

theorem confined_perform {deed : Deed} (fits : deed.Fits session) :
    Confined session.handle state (perform setup session state deed) := by
  cases deed with
  | advance target => exact confined_advance consistent found fits
  | finish => exact confined_finish consistent found separate
  | depart handle => exact confined_depart consistent found separate fits
  | touch touch handle =>
      exact confined_touch (Touch.act_gentle touch) (Touch.act_discreet touch) consistent found fits
        (fun _ _ => rfl) rfl []

end Confined

section Alike

variable (found : first.roster.session? session.handle = some session)
  (agree : Agree session.handle first second)
include found agree

theorem alike_advance (target : SessionState) :
    Alike session.handle (perform setup session first (.advance target))
      (perform setup session second (.advance target)) where
  agree := by
    have before (handle : SurfaceHandle)
        (holds : (first.roster.put session.handle { session with state := target }).Holds
          session.handle handle) : first.roster.Holds session.handle handle := by
      have member := Roster.holds_put.1 holds
      exact ⟨session, found, member⟩
    constructor
    · simp only [perform, Roster.session?_put, if_true]
    · simp only [perform, Setup.isHeldBy_lockAt, agree.awake]
    · exact fun handle holds => agree.named handle (before handle holds)
    · exact fun handle holds => agree.remembered handle (before handle holds)
  answer := rfl
  sessions other := by
    simp only [perform, Effect.toldOfSession_notify,
      Effect.toldOfSession_ofLock Setup.lockAt_ofLock]
  surfaces handle := by
    simp only [perform, Effect.toldOfSurface_notify,
      Effect.toldOfSurface_ofLock Setup.lockAt_ofLock]

omit found agree in
theorem alike_finish :
    Alike session.handle (perform setup session first .finish)
      (perform setup session second .finish) where
  agree := by
    have gone {state : Coordinator (KeySet SurfaceHandle)} :
        (state.roster.discard session.handle session).session? session.handle = none :=
      Roster.session?_discard.trans (if_pos rfl)
    constructor
    · exact gone.trans gone.symm
    · simp only [perform, Setup.isHeldBy_rest, if_true]
    · exact fun handle holds => absurd holds (Roster.not_holds_of_absent gone)
    · exact fun handle holds => absurd holds (Roster.not_holds_of_absent gone)
  answer := rfl
  sessions other := by
    simp only [perform, Effect.toldOfSession_append, Effect.toldOfSession_ofLock Setup.rest_ofLock]
  surfaces handle := by
    simp only [perform, Effect.toldOfSurface_append, Effect.toldOfSurface_ofLock Setup.rest_ofLock]

variable (separate : setup.policy.Separate)
include separate

theorem alike_depart (handle : SurfaceHandle) :
    Alike session.handle (perform setup session first (.depart handle))
      (perform setup session second (.depart handle)) where
  agree := by
    have left (candidate : SurfaceHandle)
        (holds : (first.roster.collect session.handle session handle).Holds session.handle
          candidate) : first.roster.Holds session.handle candidate ∧ candidate ∉ [handle] := by
      obtain ⟨held, stays⟩ := Roster.holds_collect.1 holds
      exact ⟨⟨session, found, held⟩, List.mem_singleton.not.2 stays⟩
    constructor
    · simp only [perform, Roster.session?_collect, if_true]
    · exact agree.awake
    · intro candidate holds
      obtain ⟨held, stays⟩ := left candidate holds
      exact (spared_forgetting separate stays).1.trans
        ((agree.named candidate held).trans (spared_forgetting separate stays).1.symm)
    · intro candidate holds
      obtain ⟨held, stays⟩ := left candidate holds
      exact (spared_forgetting separate stays).2.trans
        ((agree.remembered candidate held).trans (spared_forgetting separate stays).2.symm)
  answer := rfl
  sessions _ := rfl
  surfaces _ := rfl

/-- What a deed does to a session hangs on nothing but what belongs to it. -/
theorem alike_perform (deed : Deed) :
    Alike session.handle (perform setup session first deed)
      (perform setup session second deed) := by
  cases deed with
  | advance target => exact alike_advance found agree target
  | finish => exact alike_finish
  | depart handle => exact alike_depart found agree separate handle
  | touch touch handle =>
      exact alike_touch (Touch.act_gentle touch) agree found (fun _ _ => rfl) (fun _ _ => rfl)
        (fun held => agree.remembered handle ⟨session, found, held⟩) []

end Alike

/-! ## Consultations -/

theorem consultPolicy_of_unheld (unheld : ¬ state.roster.Holds key handle) :
    consultPolicy setup key handle state = .quiet state () := by
  cases found : state.roster.session? key with
  | none => rw [consultPolicy, found]
  | some session =>
      rw [Roster.holds_iff_of_found found, ← Session.surface?_eq_none_iff] at unheld
      simp only [consultPolicy, found, unheld]

/-- What the policy decides about a surface of a session is heeded. -/
theorem consultPolicy_of_held (found : state.roster.session? key = some session)
    {surface : Surface} (held : session.surface? handle = some surface) :
    consultPolicy setup key handle state =
      match setup.policy.occasion? session surface with
      | some (occasion, decide) =>
          ⟨{ state with
              roster := state.roster.put key
                (session.onSurface handle (obeyDropper (decide state.memory).2)).state
              memory := (decide state.memory).1 },
            (),
            .hook occasion ::
              (session.onSurface handle (obeyDropper (decide state.memory).2)).effects⟩
      | none => .quiet state () := by
  simp only [consultPolicy, found, held]
  cases posture : session.state with
  | suspended | running =>
      simp only [SurfacePolicy.occasion?, posture, Step.andThen, withRoster_eq,
        Roster.onSession_of_found found, Step.answering]
      rfl
  | starting | suspending | stopped => simp only [SurfacePolicy.occasion?, posture]

theorem confined_consultPolicy (separate : setup.policy.Separate)
    (consistent : state.roster.Consistent) (key : SessionHandle) (handle : SurfaceHandle) :
    Confined key state (consultPolicy setup key handle state) := by
  by_cases holds : state.roster.Holds key handle
  · obtain ⟨session, found, member⟩ := holds
    obtain ⟨surface, held⟩ := Session.exists_surface?_of_mem member
    rw [consultPolicy_of_held found held]
    cases asked : setup.policy.occasion? session surface with
    | none => exact .quiet consistent key ()
    | some ask =>
        obtain ⟨occasion, decide⟩ := ask
        have apart := separate.apart session surface occasion decide asked
        rw [(Session.mem_of_surface?_eq_some held).2] at apart
        refine confined_touch (obeyDropper_gentle _) (obeyDropper_discreet _) consistent found
          member (apart.spares state.memory) ?_ ()
        rfl
  · rw [consultPolicy_of_unheld holds]
    exact .quiet consistent key ()

theorem alike_consultPolicy (separate : setup.policy.Separate) (agree : Agree key first second)
    (handle : SurfaceHandle) :
    Alike key (consultPolicy setup key handle first) (consultPolicy setup key handle second) := by
  by_cases holds : first.roster.Holds key handle
  · obtain ⟨session, found, member⟩ := holds
    obtain ⟨surface, held⟩ := Session.exists_surface?_of_mem member
    rw [consultPolicy_of_held found held, consultPolicy_of_held (agree.session.trans found) held]
    cases asked : setup.policy.occasion? session surface with
    | none => exact .quiet agree ()
    | some ask =>
        obtain ⟨occasion, decide⟩ := ask
        have apart := separate.apart session surface occasion decide asked
        rw [(Session.mem_of_surface?_eq_some held).2] at apart
        have same := agree.remembered handle ⟨session, found, member⟩
        simp only [apart.requests first.memory second.memory same]
        exact alike_touch (obeyDropper_gentle _) agree found (apart.spares first.memory)
          (apart.spares second.memory) (fun _ => apart.remembers _ _ same) ()
  · rw [consultPolicy_of_unheld holds,
      consultPolicy_of_unheld (fun again => holds (agree.holds_iff.1 again))]
    exact .quiet agree ()

theorem confined_consult (separate : setup.policy.Separate) (consistent : state.roster.Consistent)
    {pending : Consultations} (own : ∀ pair ∈ pending, pair.1 = key) :
    Confined key state (consult setup pending state) := by
  induction pending generalizing state with
  | nil => exact .quiet consistent key ()
  | cons pair rest ih =>
      obtain ⟨asking, handle⟩ := pair
      obtain rfl : asking = key := own _ (List.mem_cons_self ..)
      have first := confined_consultPolicy separate consistent asking handle
      have later := ih first.consistent fun other member =>
        own other (List.mem_cons_of_mem _ member)
      change Confined asking state
        ((consultPolicy setup asking handle state).andThen fun _ => consult setup rest)
      exact first.andThen later

theorem alike_consult (separate : setup.policy.Separate) (agree : Agree key first second)
    {pending : Consultations} (own : ∀ pair ∈ pending, pair.1 = key) :
    Alike key (consult setup pending first) (consult setup pending second) := by
  induction pending generalizing first second with
  | nil => exact .quiet agree ()
  | cons pair rest ih =>
      obtain ⟨asking, handle⟩ := pair
      obtain rfl : asking = key := own _ (List.mem_cons_self ..)
      have asked := alike_consultPolicy separate agree handle
      have later := ih asked.agree fun other member => own other (List.mem_cons_of_mem _ member)
      change Alike asking
        ((consultPolicy setup asking handle first).andThen fun _ => consult setup rest)
        ((consultPolicy setup asking handle second).andThen fun _ => consult setup rest)
      exact asked.andThen later

end Coordinator

end AppLifecycle
